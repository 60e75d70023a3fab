import LineTally.CommandLine.Program
import LineTally.Proofs.CommandLine.Uses
import LineTally.Proofs.Settings.Source

namespace LineTally

/-!
# Switches over settings files

A run depends on its settings only after all layers have been laid over one another.  A
switch of the command line goes before the settings file, and the file before the
defaults, for each setting by itself.
-/

/-- A run is that of its settings with the other values of the request laid over them. -/
theorem Request.run_effectiveSettings
    (request : Request)
    (disk : Disk) :
    request.run disk =
      Request.run { input := request.input, settings := request.effectiveSettings } disk := by
  have noneOver : effectiveSettings
      { input := request.input, settings := request.effectiveSettings } =
        request.effectiveSettings :=
    Settings.merge_absent _ (by simp [Setting.held, Value.isAbsent])
  rw [run, run, survey, survey, noneOver]

namespace CommandLine

/-- The outcome of the run of a command line with settings, after the notes of loading them. -/
def Arguments.runWith
    (arguments : Arguments)
    (disk : Disk)
    (notes : List Note)
    (settings : Settings) :
    Outcome Tally :=
  let outcome := Request.run { input := arguments.input, settings } disk
  ⟨outcome.disk, ⟨notes ++ outcome.journal.notes, outcome.journal.result⟩⟩

/-- The value of what is given for a switch, as far as a release keeps it. -/
def Release.valueOf
    (release : Release)
    (given : Given) :
    Value :=
  (release.kept given).toValue

/-- The values of a switch that may be repeated, if it occurs. -/
def valuesOf?
    (release : Release)
    (switch : Switch)
    (uses : List Use) :
    Option Value :=
  if occurs switch uses then
    some (.tuple ((givenFor switch uses).map release.valueOf))
  else
    none

/-- The value that the switches of a command line give to a setting, if they give one. -/
def valueOf?
    (release : Release)
    (uses : List Use) :
    Setting → Option Value
  | .fileTypes => valuesOf? release .ext uses
  | .ignoreFiles => valuesOf? release .ignore uses
  | .excludeDirs => valuesOf? release .excludeDir uses
  | .saveDir => (givenFor .saveDir uses).getLast?.map release.valueOf
  | .writeJson => if occurs .json uses then some (.bool true) else none
  | .outputName | .encoding => none

/-- A switch that may be repeated is taken over with all its values, if it occurs. -/
theorem given?_held_repeated
    {uses : List Use}
    {switch : Switch}
    {setting : Setting}
    (areComplete : ∀ use ∈ uses, use.IsComplete)
    (takes : switch.takesValue = true)
    (isSequence : setting.isSequence = true)
    (release : Release) :
    (setting.held
        (repeatedValue ((repeated? switch uses).map (List.map release.kept)))).given? =
      valuesOf? release switch uses := by
  have atAll := givenFor_eq_nil_iff areComplete takes
  cases isGiven : givenFor switch uses with
  | nil =>
      simp [repeated?, isGiven, repeatedValue, valuesOf?, atAll.mp isGiven, Setting.held,
        Value.given?, Value.isAbsent]
  | cons first rest =>
      have isOccurring : occurs switch uses = true := by
        rw [← Bool.not_eq_false, ← atAll, isGiven]
        simp
      simp [repeated?, isGiven, repeatedValue, valuesOf?, isOccurring, Setting.held, isSequence,
        Value.given?, Value.isAbsent, Release.valueOf]

/-- The last value of a switch is taken over, if there is one. -/
theorem given?_lastValue
    (given : Option Given) :
    (lastValue given).given? = given.map Given.toValue := by
  rcases given with _ | _ | _ <;> rfl

/-- A flag is taken over only if it occurs: one that does not is absent, and not false. -/
theorem given?_flag
    (isOccurring : Bool) :
    (if isOccurring then Value.bool true else .absent).given? =
      if isOccurring then some (.bool true) else none := by
  cases isOccurring <;> rfl

/-- Each setting that a command line asks for, given the settings of its file. -/
theorem get_effectiveSettings
    {uses : List Use}
    (areComplete : ∀ use ∈ uses, use.IsComplete)
    (release : Release)
    (paths : List Text)
    (settings : Settings)
    (setting : Setting) :
    ((release.keptOf (.ofUses uses paths)).request settings).effectiveSettings.get setting =
      (valueOf? release uses setting).getD (settings.get setting) := by
  simp only [Request.effectiveSettings, Arguments.request, Arguments.overrides,
    Release.keptOf, Arguments.ofUses, Settings.get_merge, Settings.Overrides.value?_cons,
    Settings.Overrides.value?_nil, given?_lastValue,
    @given?_held_repeated uses .ext .fileTypes areComplete rfl rfl,
    @given?_held_repeated uses .ignore .ignoreFiles areComplete rfl rfl,
    @given?_held_repeated uses .excludeDir .excludeDirs areComplete rfl rfl]
  cases setting with
  | writeJson =>
      simp only [reduceCtorEq, if_true, if_false, Option.none_or, Option.or_none]
      exact congrArg (fun value => value.getD settings.writeJson) (given?_flag _)
  | saveDir =>
      have inOneStep : Given.toValue ∘ release.kept = release.valueOf := rfl
      simp [valueOf?, inOneStep]
  | _ =>
      simp [valueOf?]

/-- What the program does with a command line whose settings file gives the settings. -/
theorem program_of_load
    {release : Release}
    {disk : Disk}
    {commandLine : List Text}
    {arguments : Arguments}
    {file : Text}
    {fromFile : Settings}
    (isRead : release.read commandLine = .ok arguments)
    (named : arguments.config = some (.text file))
    (notEmpty : file ≠ [])
    (loaded : (Settings.load disk (.ofText file)).result = .ok fromFile) :
    release.program disk commandLine =
      transcript arguments
        (arguments.runWith disk (Settings.load disk (.ofText file)).notes
          (arguments.request fromFile).effectiveSettings) := by
  have isFile : arguments.settingsFile = some (.ofText file) := by
    rw [Arguments.settingsFile, named]
    cases file with
    | nil => exact (notEmpty rfl).elim
    | cons first rest => rfl
  rw [Release.program, isRead]
  simp only [Arguments.run, Arguments.baseSettings, isFile, loaded]
  rw [Request.run_effectiveSettings]
  rfl

/--
Two layers over settings are one, in which the upper layer goes before the lower one, and
a layer of absent values changes nothing.  So if a command line names a settings file that
can be loaded, the program counts with settings each of which is given by the switches, or
else by the table of the file, or else by the defaults.
-/
theorem program_layersSettings :
    (∀ (settings : Settings) (first second : Settings.Overrides),
      settings.mergeNamed first.named = .ok (settings.merge first) ∧
        (settings.merge first).merge second = settings.merge (first.overlay second) ∧
        ((∀ override ∈ first, override.2.isAbsent = true) → settings.merge first = settings)) ∧
      ∀ (release : Release) (disk : Disk) (commandLine : List Text) (arguments : Arguments)
        (file : Text) (fromFile : Settings),
        release.read commandLine = .ok arguments →
        arguments.config = some (.text file) →
        file ≠ [] →
        (Settings.load disk (.ofText file)).result = .ok fromFile →
        ∃ rest tokens paths document entries settings,
          commandLine = countName :: rest ∧
            Token.ofArguments Grammar.count rest = .ok tokens ∧
            (∀ use ∈ usesOf Grammar.count tokens, use.IsComplete) ∧
            arguments = release.keptOf (.ofUses (usesOf Grammar.count tokens) paths) ∧
            Settings.readDocument disk (.ofText file) = .ok document ∧
            Settings.select document = .ok (.table entries) ∧
            Settings.IsSettingsTable entries ∧
            release.program disk commandLine =
              transcript arguments
                (arguments.runWith disk (Settings.load disk (.ofText file)).notes settings) ∧
            ∀ setting,
              settings.get setting =
                (valueOf? release (usesOf Grammar.count tokens) setting).getD
                  (((entries.lookup setting.name).map setting.held).getD
                    (Settings.default.get setting)) := by
  refine ⟨fun settings first second => ⟨settings.mergeNamed_named first,
    settings.merge_merge first second, settings.merge_absent⟩, ?_⟩
  intro release disk commandLine arguments file fromFile isRead named notEmpty loaded
  obtain ⟨documented, isReadToo, rfl⟩ := Release.read_eq_ok_iff.mp isRead
  obtain ⟨rest, tokens, paths, isCount, tokenized, rfl⟩ := exists_tokens_of_read isReadToo
  obtain ⟨document, entries, isDocument, isSelected, isTable, fromTable⟩ :=
    Settings.exists_table_of_load loaded
  refine ⟨rest, tokens, paths, document, entries, _, isCount, tokenized,
    isComplete_of_mem_usesOf, rfl, isDocument, isSelected, isTable,
    program_of_load isRead named notEmpty loaded, fun setting => ?_⟩
  rw [get_effectiveSettings isComplete_of_mem_usesOf, fromTable]

/-- A disk with a settings file that sets the charset. -/
def asciiDisk : Disk :=
  ⟨.folder [("c.toml".toList, .file (.bytes (Utf8.encode "encoding=\"ascii\"\n".toList)))], []⟩

/-- A command line with a settings file and with switches of all kinds. -/
def layeredLine : List Text :=
  ["count", "-e", ".m", "a.m", "--config=c.toml", "-o", "out", "--ext=.n", "--json", "-o."].map
    String.toList

/-- The switches of the command line. -/
def layeredUses : List Use :=
  [ ⟨.ext, some ".m".toList⟩,
    ⟨.config, some "c.toml".toList⟩,
    ⟨.saveDir, some "out".toList⟩,
    ⟨.ext, some ".n".toList⟩,
    ⟨.json, none⟩,
    ⟨.saveDir, some ".".toList⟩ ]

/-- What the command line stands for. -/
def layeredArguments : Arguments where
  paths := ["a.m".toList]
  fileTypes := some [.text ".m".toList, .text ".n".toList]
  ignoreFiles := none
  excludeDirs := none
  saveDir := some (.text ".".toList)
  config := some (.text "c.toml".toList)
  json := true
  print := false
  verbose := false

/-- The key and the text of a table that has one entry only, a text. -/
def soleText? :
    List (Text × Value) → Option (Text × Text)
  | [(key, .string text)] => some (key, text)
  | _ => none

/-- A table is known by its one key and text. -/
theorem eq_of_soleText?
    {entries : List (Text × Value)}
    {key text : Text}
    (isSole : soleText? entries = some (key, text)) :
    entries = [(key, .string text)] := by
  unfold soleText? at isSole
  split at isSole
  · cases isSole
    rfl
  · cases isSole

/-- Extensions and folder are given by switches, the charset by the file, the rest by neither. -/
theorem program_layersSettings_asciiDisk :
    ∃ settings : Settings,
      startRelease.program asciiDisk layeredLine =
          transcript layeredArguments
            (layeredArguments.runWith asciiDisk
              (Settings.load asciiDisk (.ofText "c.toml".toList)).notes settings) ∧
        settings.fileTypes = .tuple [.string ".m".toList, .string ".n".toList] ∧
        settings.ignoreFiles = .tuple [] ∧
        settings.excludeDirs = .tuple [] ∧
        settings.saveDir = .string ".".toList ∧
        settings.outputName = .string "lineCount.txt".toList ∧
        settings.encoding = .string "ascii".toList ∧
        settings.writeJson = .bool true := by
  have isRead : startRelease.read layeredLine = .ok layeredArguments := by
    decide +kernel
  have isDocument : Settings.readDocument asciiDisk (.ofText "c.toml".toList) =
      .ok [("encoding".toList, .string "ascii".toList)] := by
    have isSole : (Settings.readDocument asciiDisk (.ofText "c.toml".toList)).toOption.bind
        soleText? = some ("encoding".toList, "ascii".toList) := by
      decide +kernel
    cases isRead : Settings.readDocument asciiDisk (.ofText "c.toml".toList) with
    | error fault =>
        rw [isRead] at isSole
        cases isSole
    | ok document =>
        rw [isRead] at isSole
        rw [eq_of_soleText? isSole]
  have loaded : (Settings.load asciiDisk (.ofText "c.toml".toList)).result =
      .ok { Settings.default with encoding := .string "ascii".toList } := by
    have noUnknown : Settings.unknownKeys ["encoding".toList] = [] := by
      decide +kernel
    rw [Settings.load_of_document isDocument]
    change Settings.ofTable [("encoding".toList, .string "ascii".toList)] = _
    simp only [Settings.ofTable, List.map_cons, List.map_nil, noUnknown]
    rfl
  obtain ⟨rest, tokens, paths, document, entries, settings, isCount, tokenized, -, -, isRead',
      isSelected, -, isRun, layers⟩ :=
    program_layersSettings.2 startRelease asciiDisk layeredLine layeredArguments
      "c.toml".toList _ isRead rfl
      (by decide) loaded
  cases isCount
  have counted : (Token.ofArguments Grammar.count (layeredLine.drop 1)).map
      (usesOf Grammar.count) = .ok layeredUses := by
    decide +kernel
  have isUses : usesOf Grammar.count tokens = layeredUses :=
    Except.ok.inj ((congrArg (Except.map (usesOf Grammar.count)) tokenized).symm.trans counted)
  cases isDocument.symm.trans isRead'
  cases isSelected
  rw [isUses] at layers
  exact ⟨settings, isRun, layers .fileTypes, layers .ignoreFiles, layers .excludeDirs,
    layers .saveDir, layers .outputName, layers .encoding, layers .writeJson⟩

end CommandLine

end LineTally
