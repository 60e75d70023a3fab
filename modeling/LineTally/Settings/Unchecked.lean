import LineTally.Settings.Plan

namespace LineTally

/-!
# Checking unchecked values

A check as it is made on the values of settings themselves.  Each value is asked for its kind
first, and looked into only if it is of the right one; a look that can fail fails where the
kind of the value is wrong.
-/

namespace Settings

/-- Whether a value is a list or tuple that holds texts only. -/
def isTexts
    (value : Value) :
    Bool :=
  match value.sequence? with
  | some items => items.all fun item => item.text?.isSome
  | none => false

/-- Whether a value is written with a dot at its start, which only texts and paths can be. -/
def startsWithDot :
    Value → Bool
  | .string chars => chars.head? = some '.'
  | .path location => location.toText.head? = some '.'
  | _ => false

/-- The complaint about something that is not as it should be. -/
def complainUnless
    (isFine : Bool)
    (complaint : Complaint) :
    List Complaint :=
  if isFine then [] else [complaint]

/-- What is wrong with the extensions; they are gone through only if they are texts. -/
def fileTypesComplaints
    (settings : Settings) :
    Except Fault (List Complaint) :=
  if !isTexts settings.fileTypes then
    .ok [.fileTypes]
  else do
    let items ← settings.fileTypes.items.mapError .kind
    return complainUnless (items.all startsWithDot) .fileTypes

/-- What is wrong with the folder of the reports; it is looked for only if it is a reference. -/
def saveDirComplaints
    (settings : Settings)
    (disk : Disk) :
    Except Fault (List Complaint) :=
  if !settings.saveDir.isAbsent && settings.saveDir.fileRef?.isNone then
    .ok [.saveDirKind]
  else do
    let folder ← (settings.saveFolder disk).mapError .kind
    let isThere ← (disk.isFolder folder).mapError .disk
    return complainUnless isThere .saveDirMissing

/-- Whether a charset is known whose name is given by a value. -/
def isKnownByValue :
    Value → Except Fault Bool
  | .string name => (isKnownCharset name).mapError .decode
  | .absent => .error (.kind (.notCharsetName "None".toList))
  | other => .error (.kind (.notCharsetName other.kind))

/-- What is wrong with the charset; it is looked up only if its name is a text. -/
def encodingComplaints
    (settings : Settings) :
    Except Fault (List Complaint) :=
  match settings.encoding.text? with
  | none => .ok [.encodingKind]
  | some name => do
      let isKnown ← isKnownByValue settings.encoding
      return complainUnless isKnown (.encodingUnknown name)

/-- Whether a value is a truth value. -/
def isTruthValue :
    Value → Bool
  | .bool _ => true
  | _ => false

/-- What is wrong with the values of settings, in the order of the checks. -/
def complaintsByValue
    (settings : Settings)
    (disk : Disk) :
    Except Fault (List Complaint) := do
  let fileTypes ← settings.fileTypesComplaints
  let saveDir ← settings.saveDirComplaints disk
  let encoding ← settings.encodingComplaints
  return fileTypes
    ++ (complainUnless (isTexts settings.ignoreFiles) .ignoreFiles
    ++ (complainUnless (isTexts settings.excludeDirs) .excludeDirs
    ++ (saveDir
    ++ (complainUnless
        (settings.outputName.text?.isSome && !settings.outputName.isEmpty) .outputName
    ++ (encoding
    ++ complainUnless (isTruthValue settings.writeJson) .writeJson)))))

/-- What the first of some complaints makes of a check. -/
def firstOf :
    List Complaint → Except Complaint Unit
  | [] => .ok ()
  | first :: _ => .error first

/-- Checks the values of settings; every complaint is noted, and the first one is the fault. -/
def checkByValue
    (settings : Settings)
    (disk : Disk) :
    Journal Unit :=
  match settings.complaintsByValue disk with
  | .error fault => Journal.fail fault
  | .ok complaints =>
      { notes := complaints.map fun complaint => ⟨.error, .settings, complaint.message⟩
        result := (firstOf complaints).mapError .rejected }

end Settings

end LineTally
