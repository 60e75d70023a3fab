import LineTally.Text.Basic

namespace LineTally

/-!
# Paths

A path is an anchor and the names between its slashes.  Empty names and single
dots are left out when a path is made; double dots stay, because where they
lead depends on links.
-/

/-- Where a path starts. -/
inductive Anchor where
  /-- In the working folder. -/
  | here
  /-- In the root folder. -/
  | root
  /-- In the root folder, written with exactly two slashes. -/
  | doubleRoot
  deriving Repr, DecidableEq

/-- A path in its normal form. -/
structure Path where
  anchor : Anchor
  parts : List Text
  deriving Repr, DecidableEq

namespace Path

/-- The names of a text between its slashes, without empty ones and single dots. -/
def names
    (text : Text) :
    List Text :=
  (text.splitOn '/').filter fun name => !name.isEmpty && name ≠ ['.']

/-- Where a text starts as a path. -/
def anchorOf :
    Text → Anchor
  | '/' :: '/' :: '/' :: _ => .root
  | '/' :: '/' :: _ => .doubleRoot
  | '/' :: _ => .root
  | _ => .here

/-- The path that a text stands for. -/
def ofText
    (text : Text) :
    Path :=
  ⟨anchorOf text, names text⟩

/-- The slashes that a path starts with. -/
def anchorText :
    Anchor → Text
  | .here => []
  | .root => ['/']
  | .doubleRoot => ['/', '/']

/-- The text of a path; the working folder is a single dot. -/
def toText
    (path : Path) :
    Text :=
  match path.anchor, path.parts with
  | .here, [] => ['.']
  | anchor, parts => anchorText anchor ++ ['/'].intercalate parts

/-- The last name of a path, empty if it has none. -/
def name
    (path : Path) :
    Text :=
  path.parts.getLast?.getD []

/-- A path read from within another one: unless it is anchored, its names follow. -/
def join
    (folder inner : Path) :
    Path :=
  if inner.anchor = .here then
    ⟨folder.anchor, folder.parts ++ inner.parts⟩
  else
    inner

/-- A path one or more names further down. -/
def descend
    (folder : Path)
    (names : List Text) :
    Path :=
  ⟨folder.anchor, folder.parts ++ names⟩

/--
A name with its suffix, the part from its last dot on, replaced.  A dot at the
start or at the end of a name starts no suffix.
-/
def replaceSuffix
    (suffix name : Text) :
    Text :=
  let ending := Text.afterLast '.' name
  let stem := name.take (name.length - ending.length - 1)
  if ending.isEmpty || stem.isEmpty then name ++ suffix else stem ++ suffix

/-- The path with the suffix of its last name replaced; `none` if it has no name. -/
def withSuffix?
    (suffix : Text)
    (path : Path) :
    Option Path :=
  match path.parts.getLast? with
  | none => none
  | some name => some ⟨path.anchor, path.parts.dropLast ++ [replaceSuffix suffix name]⟩

end Path

/-- A file or folder as a caller names it: by a text, which is kept as it is, or by a path. -/
inductive FileRef where
  | ofText (text : Text)
  | ofPath (path : Path)
  deriving Repr, DecidableEq

namespace FileRef

/-- The reference as text. -/
def toText :
    FileRef → Text
  | .ofText text => text
  | .ofPath path => path.toText

/-- The path that the reference stands for. -/
def toPath :
    FileRef → Path
  | .ofText text => .ofText text
  | .ofPath path => path

/-- The part of the reference after its last slash. -/
def baseName
    (reference : FileRef) :
    Text :=
  Text.afterLast '/' reference.toText

end FileRef

end LineTally
