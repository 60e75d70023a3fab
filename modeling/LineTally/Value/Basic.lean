import LineTally.Number.Double
import LineTally.Path.Basic

namespace LineTally

/-!
# Values of unknown kind

Settings come from files and from callers, who may hand over anything.  A value
carries its kind; the ways to use a value as a text, as a reference to a file or
as a collection say what is wrong with it if it is not one.
-/

/-- The kinds of dates and times. -/
inductive MomentKind where
  | date
  | time
  | dateTime
  /-- A date and a time with its offset from universal time. -/
  | offsetDateTime
  deriving Repr, DecidableEq

/-- A value of any kind. -/
inductive Value where
  /-- No value; as a setting, it leaves the choice to someone else. -/
  | absent
  | bool (value : Bool)
  | integer (value : Int)
  | real (value : Double)
  | string (value : Text)
  | bytes (value : List UInt8)
  | path (value : Path)
  | moment (kind : MomentKind) (shown : Text)
  | list (items : List Value)
  | tuple (items : List Value)
  | set (items : List Value)
  | table (entries : List (Text × Value))
  deriving Repr

namespace Value

mutual

/-- Whether two values are of the same kind and hold the same. -/
def same :
    Value → Value → Bool
  | .absent, .absent => true
  | .bool value, .bool other => value == other
  | .integer value, .integer other => value == other
  | .real value, .real other => value == other
  | .string chars, .string others => chars == others
  | .bytes octets, .bytes others => octets == others
  | .path location, .path other => location == other
  | .moment kind shown, .moment other otherShown => kind == other && shown == otherShown
  | .list items, .list others => sameItems items others
  | .tuple items, .tuple others => sameItems items others
  | .set items, .set others => sameItems items others
  | .table entries, .table others => sameEntries entries others
  | _, _ => false

/-- Whether values in two rows are the same one by one. -/
def sameItems :
    List Value → List Value → Bool
  | [], [] => true
  | item :: rest, other :: others => item.same other && sameItems rest others
  | _, _ => false

/-- Whether entries in two rows are the same one by one. -/
def sameEntries :
    List (Text × Value) → List (Text × Value) → Bool
  | [], [] => true
  | (key, value) :: rest, (otherKey, other) :: others =>
      key == otherKey && value.same other && sameEntries rest others
  | _, _ => false

end

instance : BEq Value where
  beq := same

end Value

/-- What is wrong with a value for the use that is made of it. -/
inductive KindFault where
  /-- It refers to no file. -/
  | notPath (kind : Text)
  /-- It refers to a file, but not by a text. -/
  | notTextPath (kind : Text)
  /-- It cannot be the name of a file in a folder. -/
  | notFileName (kind : Text)
  /-- It has no items. -/
  | notIterable (kind : Text)
  /-- It cannot be the item of a set. -/
  | notHashable (kind : Text)
  /-- It gives no values by name. -/
  | notMapping (kind : Text)
  /-- The least item of what should be texts is none. -/
  | itemNotText (kind : Text)
  /-- Two values that are compared are of kinds between which there is no order. -/
  | noOrder (kind other : Text)
  /-- Among values that are compared there are days with and without a time. -/
  | dayAgainstTime
  /-- Among times that are compared there are some with and some without an offset. -/
  | offsetAgainstNone
  /-- It cannot be the ending of a text. -/
  | notEnding (kind : Text)
  /-- It cannot be one of several endings of a text. -/
  | notListedEnding (kind : Text)
  /-- It cannot be given for an argument of the function that opens files. -/
  | notOpenArgument (name kind : Text)
  /-- It cannot be the name of a charset. -/
  | notCharsetName (kind : Text)
  /-- It lacks an attribute that is asked for. -/
  | noAttribute (kind member : Text)
  /-- There is no setting of this name. -/
  | noSetting (name : Text)
  /-- A value is given by the name that stands for the settings themselves. -/
  | settingsGivenTwice
  deriving Repr, DecidableEq

namespace KindFault

/-- What the message says. -/
def message :
    KindFault → Text
  | .notPath kind => "expected str, bytes or os.PathLike object, not ".toList ++ kind
  | .notTextPath kind =>
      "argument should be a str object or an os.PathLike object returning str, not <class '".toList
        ++ kind ++ "'>".toList
  | .notFileName kind =>
      "unsupported operand type(s) for /: 'PosixPath' and '".toList ++ kind ++ ['\'']
  | .notIterable kind => '\'' :: kind ++ "' object is not iterable".toList
  | .notHashable kind => "unhashable type: '".toList ++ kind ++ ['\'']
  | .notMapping kind =>
      "linecount.core.config.CountConfiguration.merged() argument after ".toList
        ++ "** must be a mapping, not ".toList ++ kind
  | .itemNotText kind =>
      "sequence item 0: expected str instance, ".toList ++ kind ++ " found".toList
  | .noOrder kind other =>
      "'<' not supported between instances of '".toList ++ kind ++ "' and '".toList ++ other
        ++ ['\'']
  | .dayAgainstTime => "can't compare datetime.datetime to datetime.date".toList
  | .offsetAgainstNone => "can't compare offset-naive and offset-aware datetimes".toList
  | .notEnding kind =>
      "endswith first arg must be str or a tuple of str, not ".toList ++ kind
  | .notListedEnding kind => "tuple for endswith must only contain str, not ".toList ++ kind
  | .notOpenArgument name kind =>
      "open() argument '".toList ++ name ++ "' must be str or None, not ".toList ++ kind
  | .notCharsetName kind => "lookup() argument must be str, not ".toList ++ kind
  | .noAttribute kind member =>
      '\'' :: kind ++ "' object has no attribute '".toList ++ member ++ ['\'']
  | .noSetting name =>
      "CountConfiguration.__init__() got an unexpected keyword argument ".toList
        ++ '\'' :: name ++ ['\'']
  | .settingsGivenTwice =>
      "CountConfiguration.merged() got multiple values for argument 'self'".toList

end KindFault

namespace Value

/-- The name of the kind of a value, as messages give it. -/
def kind :
    Value → Text
  | .absent => "NoneType".toList
  | .bool _ => "bool".toList
  | .integer _ => "int".toList
  | .real _ => "float".toList
  | .string _ => "str".toList
  | .bytes _ => "bytes".toList
  | .path _ => "PosixPath".toList
  | .moment .date _ => "datetime.date".toList
  | .moment .time _ => "datetime.time".toList
  | .moment .dateTime _ | .moment .offsetDateTime _ => "datetime.datetime".toList
  | .list _ => "list".toList
  | .tuple _ => "tuple".toList
  | .set _ => "set".toList
  | .table _ => "dict".toList

/-- The name of the kind of a value without the module that it belongs to. -/
def shortKind :
    Value → Text
  | .moment .date _ => "date".toList
  | .moment .time _ => "time".toList
  | .moment .dateTime _ | .moment .offsetDateTime _ => "datetime".toList
  | value => value.kind

/-- Whether there is no value. -/
def isAbsent :
    Value → Bool
  | .absent => true
  | _ => false

/-- The reference to a file that a text or a path is. -/
def fileRef? :
    Value → Option FileRef
  | .string name => some (.ofText name)
  | .path location => some (.ofPath location)
  | _ => none

/-- The reference to a file that a value is, or what is wrong with it. -/
def fileRef
    (value : Value) :
    Except KindFault FileRef :=
  match value with
  | .string name => .ok (.ofText name)
  | .path location => .ok (.ofPath location)
  | .bytes _ => .error (.notTextPath value.kind)
  | _ => .error (.notPath value.shortKind)

/-- The name of a file that a value is, as a text or as bytes. -/
def fileName
    (value : Value) :
    Except KindFault Value :=
  match value with
  | .string name => .ok (.string name)
  | .path location => .ok (.string location.toText)
  | .bytes name => .ok (.bytes name)
  | _ => .error (.notPath value.shortKind)

/-- The items of a value that has some. -/
def items
    (value : Value) :
    Except KindFault (List Value) :=
  match value with
  | .list items | .tuple items | .set items => .ok items
  | .table entries => .ok (entries.map fun entry => .string entry.1)
  | .string chars => .ok (chars.map fun c => .string [c])
  | .bytes octets => .ok (octets.map fun b => .integer b.toNat)
  | _ => .error (.notIterable value.kind)

mutual

/-- The kind of the first value in a value, or the value itself, that no set can hold. -/
def unhashable? :
    Value → Option Text
  | .list _ => some "list".toList
  | .set _ => some "set".toList
  | .table _ => some "dict".toList
  | .tuple items => firstUnhashable? items
  | _ => none

/-- The kind of the first of some values that no set can hold. -/
def firstUnhashable? :
    List Value → Option Text
  | [] => none
  | item :: rest => item.unhashable?.or (firstUnhashable? rest)

end

/-- The items of a value as those of a set. -/
def members
    (value : Value) :
    Except KindFault (List Value) := do
  let items ← value.items
  match firstUnhashable? items with
  | some kind => .error (.notHashable kind)
  | none => return items

/-- Whether a value counts as false where a truth value is due. -/
def isEmpty :
    Value → Bool
  | .absent | .bool false => true
  | .integer value => value = 0
  | .real (.finite _ mantissa _) => mantissa = 0
  | .string chars => chars.isEmpty
  | .bytes octets => octets.isEmpty
  | .list items | .tuple items | .set items => items.isEmpty
  | .table entries => entries.isEmpty
  | _ => false

/-- The items of a list or tuple. -/
def sequence? :
    Value → Option (List Value)
  | .list items | .tuple items => some items
  | _ => none

/-- The text of a value that is one. -/
def text? :
    Value → Option Text
  | .string chars => some chars
  | _ => none

/-- The texts in a list or tuple that holds nothing else. -/
def texts?
    (value : Value) :
    Option (List Text) := do
  let items ← value.sequence?
  items.mapM text?

end Value

end LineTally
