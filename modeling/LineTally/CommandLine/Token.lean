import LineTally.CommandLine.Fault
import LineTally.Text.Digit

namespace LineTally.CommandLine

/-!
# Tokens

Before a command line is taken apart, each of its arguments is read as a token:
a switch, with the value that is attached to it, or a plain argument.  A switch
may be given by the start of a long spelling, if no other one starts the same.
After a divider, two dashes alone, every argument is plain.
-/

/-- An argument of a command line, as a grammar reads it. -/
inductive Token where
  | plain (argument : Text)
  | divider
  | known (switch : Switch) (spelling : Text) (attached : Option Text)
  /-- An argument that looks like a switch and is none. -/
  | unknown (argument : Text)
  deriving Repr, DecidableEq

namespace Token

/-- Two dashes alone. -/
def dividerText : Text := "--".toList

/-- Whether a token is a switch or looks like one. -/
def isSwitch :
    Token → Bool
  | .known _ _ _ | .unknown _ => true
  | .plain _ | .divider => false

/-- The argument of a token that is no known switch. -/
def argument :
    Token → Text
  | .plain argument | .unknown argument => argument
  | .divider => dividerText
  | .known _ spelling _ => spelling

/-- Whether an argument is a negative number, and so a plain argument. -/
def isNegativeNumber :
    Text → Bool
  | '-' :: unsigned =>
      let number := if unsigned.getLast? = some '\n' then unsigned.dropLast else unsigned
      let (whole, fraction) := Text.splitFirst '.' number
      match fraction with
      | none => Text.isDecimals whole
      | some fraction => whole.all Text.isDecimal && Text.isDecimals fraction
  | _ => false

/-- The switches that an argument can mean although it is no spelling of them. -/
def candidates
    (grammar : Grammar)
    (argument : Text) :
    List (Switch × Text × Option Text) :=
  match argument with
  | '-' :: '-' :: _ =>
      let (start, value) := Text.splitFirst '=' argument
      (grammar.spelled.filter fun entry => start.isPrefixOf entry.1).map fun entry =>
        (entry.2, entry.1, value)
  | '-' :: c :: value =>
      (grammar.spelled.filter fun entry => entry.1 = ['-', c]).map fun entry =>
        (entry.2, entry.1, some value)
  | _ => []

/-- The token of an argument that starts with a dash and has more than that. -/
def ofDashed
    (grammar : Grammar)
    (argument : Text) :
    Except UsageFault Token :=
  match candidates grammar argument with
  | [(switch, spelling, attached)] => .ok (.known switch spelling attached)
  | [] =>
      if isNegativeNumber argument || argument.any (· = ' ') then
        .ok (.plain argument)
      else
        .ok (.unknown argument)
  | several => .error (.ambiguous argument (several.map fun candidate => candidate.2.1))

/-- The token of an argument. -/
def ofArgument
    (grammar : Grammar)
    (argument : Text) :
    Except UsageFault Token :=
  if argument.head? ≠ some '-' then
    .ok (.plain argument)
  else
    match grammar.find? argument with
    | some switch => .ok (.known switch argument none)
    | none =>
        if argument.length = 1 then
          .ok (.plain argument)
        else
          match Text.splitFirst '=' argument with
          | (spelling, some value) =>
              match grammar.find? spelling with
              | some switch => .ok (.known switch spelling (some value))
              | none => ofDashed grammar argument
          | (_, none) => ofDashed grammar argument

/-- The tokens of a command line. -/
def ofArguments
    (grammar : Grammar) :
    List Text → Except UsageFault (List Token)
  | [] => .ok []
  | argument :: rest =>
      if argument = dividerText then
        .ok (.divider :: rest.map .plain)
      else do
        let token ← ofArgument grammar argument
        let tokens ← ofArguments grammar rest
        return token :: tokens

end Token

end LineTally.CommandLine
