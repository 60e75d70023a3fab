import LineTally.Value.Basic

namespace LineTally.Value

/-!
# The order of values

Numbers of different kinds are compared exactly, without rounding one to the
kind of the other.  A truth value counts as one or zero.  Days are compared with
days only, and times with an offset only with such times.
-/

/-- A finite number, as a whole number times a power of two. -/
def scaled? :
    Value → Option (Int × Int)
  | .bool value => some (if value then 1 else 0, 0)
  | .integer value => some (value, 0)
  | .real (.finite negative mantissa exponent) =>
      some (if negative then 0 - (mantissa : Int) else mantissa, exponent)
  | _ => none

/-- Whether a value is a smaller number than another one. -/
def isBelow
    (first second : Value) :
    Bool :=
  match first, second with
  | .real (.infinite negative), .real (.infinite other) => negative && !other
  | .real (.infinite negative), other => negative && other.scaled?.isSome
  | other, .real (.infinite negative) => !negative && other.scaled?.isSome
  | first, second =>
      match first.scaled?, second.scaled? with
      | some (m, e), some (n, f) =>
          let shared := min e f
          m * Int.pow 2 (e - shared).toNat < n * Int.pow 2 (f - shared).toNat
      | _, _ => false

/-- The earliest of some values than which none is smaller. -/
def least
    (first : Value)
    (rest : List Value) :
    Value :=
  rest.foldl (fun found value => if value.isBelow found then value else found) first

/-- Whether a value is a date or time of the given kind. -/
def isMoment
    (kind : MomentKind) :
    Value → Bool
  | .moment found _ => found = kind
  | _ => false

/-- Whether a value is a number. -/
def isNumber :
    Value → Bool
  | .bool _ | .integer _ | .real _ => true
  | _ => false

/-- Whether two values are of kinds between which there is an order. -/
def haveOrder
    (first second : Value) :
    Bool :=
  match first, second with
  | .string _, .string _ | .bytes _, .bytes _ | .path _, .path _ | .tuple _, .tuple _ => true
  | .moment kind _, .moment other _ => (kind == .time) == (other == .time)
  | first, second => first.isNumber && second.isNumber

/-- The first of some values that has no order with one before it, and that one. -/
def unordered?
    (before : List Value) :
    List Value → Option (Value × Value)
  | [] => none
  | value :: rest =>
      match before.find? fun other => !value.haveOrder other with
      | some other => some (value, other)
      | none => unordered? (value :: before) rest

/-- What keeps the days and times among some values from being put into an order. -/
def momentFault?
    (values : List Value) :
    Option KindFault :=
  let some? kind := values.any (isMoment kind)
  if some? .date && (some? .dateTime || some? .offsetDateTime) then
    some .dayAgainstTime
  else if some? .dateTime && some? .offsetDateTime then
    some .offsetAgainstNone
  else
    none

/-- What keeps some values, no two of which are equal, from being put into an order. -/
def orderFault?
    (values : List Value) :
    Option KindFault :=
  match unordered? [] values with
  | some (value, other) => some (.noOrder value.kind other.kind)
  | none => momentFault? values

end LineTally.Value
