import LineTally.Run.Selection

namespace LineTally.Selection

/-!
# Selecting by unchecked values

The steps of a selection for callers who hand over values of any kind.  Nothing is
checked before it is needed, so a value of a wrong kind does no harm where there
is nothing that it is needed for.
-/

/-- The base name of the file that a value refers to; a name in bytes stays one. -/
def baseNameOf
    (value : Value) :
    Except KindFault Value := do
  match ← value.fileName with
  | .string name => return .string (Text.afterLast '/' name)
  | .bytes name => return .bytes (name.reverse.takeWhile (· ≠ 0x2F)).reverse
  | other => return other

/-- Whether the base name of the file that a value refers to is among the ignored values. -/
def isIgnoredByValue
    (ignored value : Value) :
    Except KindFault Bool := do
  let name ← baseNameOf value
  let rules ← ignored.members
  return rules.contains name

/-- The values whose base names are not ignored; without any rule, no value is looked at. -/
def dropIgnoredByValue
    (ignored : Value)
    (values : List Value) :
    Except KindFault (List Value) := do
  let rules ← ignored.members
  if rules.isEmpty then
    return values
  else
    values.filterM fun value => do
      let name ← baseNameOf value
      return !rules.contains name

/-- The names that are excluded by a value; one that counts as false excludes none. -/
def excludedNames
    (excluded : Value) :
    Except KindFault (List Value) :=
  if excluded.isEmpty then .ok [] else excluded.members

/-- The texts among some values. -/
def textsAmong
    (values : List Value) :
    List Text :=
  values.filterMap Value.text?

/-- Whether a name ends with an ending, or with one of several in a tuple. -/
def hasEnding
    (name : Text) :
    Value → Except KindFault Bool
  | .string ending => .ok (ending.isSuffixOf name)
  | .tuple endings =>
      endings.foldlM
        (fun found ending =>
          match found, ending with
          | true, _ => .ok true
          | false, .string ending => .ok (ending.isSuffixOf name)
          | false, other => .error (.notListedEnding other.kind))
        false
  | other => .error (.notEnding other.kind)

/-- The paths that have one of the endings, by the order of the endings, each one once. -/
def withEndings
    (endings : List Value)
    (paths : List Path) :
    Except KindFault (List Path) := do
  let found ← endings.mapM fun ending => paths.filterM fun path => hasEnding path.name ending
  return found.flatten.eraseDups

/-- The walk from the folder that a value refers to; a name in bytes may only lead nowhere. -/
def walkByValue
    (disk : Disk)
    (excluded root : Value) :
    Journal (List Path) := do
  let excluded ← Journal.ofKind (excludedNames excluded)
  match root with
  | .bytes name =>
      match Charset.utf8.decode .strict name with
      | .error _ => Journal.pure []
      | .ok name =>
          match ← Journal.ofDisk (disk.walkStart? (.ofText name)) with
          | some _ => Journal.fail (.kind (.notTextPath root.kind))
          | none => Journal.pure []
  | root => do
      let folder ← Journal.ofKind root.fileRef
      Journal.ofDisk (disk.walkFrom (textsAmong excluded) folder)

/-- The files below the folder that a value refers to which have one of the endings. -/
def findByValue
    (disk : Disk)
    (endings excluded root : Value) :
    Journal (List Text) := do
  let paths ← walkByValue disk excluded root
  let endings ← Journal.ofKind endings.items
  let found ← Journal.ofKind (withEndings endings paths)
  return found.map Path.toText

/-- The files of an input before any is ignored. -/
def gatherByValue
    (disk : Disk)
    (endings excluded input : Value) :
    Journal (List Value) :=
  match input.fileRef? with
  | some reference => do
      if ← Journal.ofDisk (disk.isFolder reference.toPath) then
        let found ← findByValue disk endings excluded (.path reference.toPath)
        return found.map .string
      else
        return [.string reference.toText]
  | none => do
      let items ← Journal.ofKind input.items
      Journal.ofKind (items.mapM Value.fileName)

/-- The files of an input that are to be counted. -/
def collectByValue
    (disk : Disk)
    (endings ignored excluded input : Value) :
    Journal (List Value) := do
  let found ← gatherByValue disk endings excluded input
  let kept ← Journal.ofKind (dropIgnoredByValue ignored found)
  Journal.note .info .selection (summary kept.length found.length)
  return kept

end LineTally.Selection
