import LineTally.Proofs.Charset.Known
import LineTally.Proofs.Run.CountFile
import LineTally.Proofs.Tally.Balance

namespace LineTally

/-!
# Files that are text in their charset

A file without a zero byte near its start gets the counts of its text, whichever charset
of text it is written in.  A zero byte there makes it binary, though: that is no matter
for charsets in which only the NUL character has one, but most text with units of two
bytes is passed over for it.
-/

namespace Text

/-- Only the empty text is empty when its line ends are unified. -/
theorem unifyLineEnds_eq_nil_iff
    {text : Text} :
    text.unifyLineEnds = [] ↔ text = [] := by
  fun_cases unifyLineEnds text <;> simp

end Text

namespace Counting

/-- These names stand for charsets that are narrow or wide, as the names tell. -/
theorem exists_ofName?_of_textCharset
    {name : Text}
    (isText : name ∈ narrowCharsets ++ wideCharsets) :
    ∃ charset, Charset.ofName? name = some charset ∧
      (charset.isNarrow = true ∨ charset.isWide = true) ∧
      (name ∈ narrowCharsets → charset.isNarrow = true) := by
  obtain ⟨-, -, -, ofNarrow, ofWide⟩ := Charset.lookups
  by_cases narrow : name ∈ narrowCharsets
  · obtain ⟨charset, known, isNarrow⟩ :=
      (Option.any_eq_true _ _).mp (ofNarrow name narrow)
    exact ⟨charset, known, .inl isNarrow, fun _ => isNarrow⟩
  · have wide := (List.mem_append.mp isText).resolve_left narrow
    obtain ⟨charset, known, isWide⟩ :=
      (Option.any_eq_true _ _).mp (ofWide name wide)
    exact ⟨charset, known, .inr isWide, fun isNarrow => (narrow isNarrow).elim⟩

/-- A text that is not empty has lines. -/
theorem total_pos
    {text : Text}
    (notEmpty : text ≠ []) :
    0 < (Counts.ofText text.unifyLineEnds).total := by
  rw [Counts.ofText_eq]
  have someLine : text.unifyLineEnds.lines ≠ [] := by
    rw [Ne, Text.lines_eq_nil_iff, Text.unifyLineEnds_eq_nil_iff]
    exact notEmpty
  exact Int.natCast_pos.mpr (List.length_pos_of_ne_nil someLine)

/-- Under names without NUL, bytes are decoded strictly by the charset of the name. -/
theorem decodeNamed_strict
    {name : Text}
    (noNul : '\x00' ∉ name)
    (content : List UInt8) :
    Charset.decodeNamed name "strict".toList content =
      (Charset.ofTextName name).bind (·.decode .strict content) := by
  have policy : StrayPolicy.ofName "strict".toList = .strict := by decide
  rw [Charset.decodeNamed_eq noNul (by decide), policy]

/-- Bytes that are text in one of these charsets are the same text when a file is counted. -/
theorem textOf_of_textCharset
    {name : Text}
    (isText : name ∈ narrowCharsets ++ wideCharsets)
    {content : List UInt8}
    {text : Text}
    (decoded : Charset.decodeNamed name "strict".toList content = .ok text)
    (path : Text) :
    textOf name strayPolicy path content = .ok text.unifyLineEnds ∧
      (name ∈ narrowCharsets → '\x00' ∉ text → 0 ∉ content) := by
  have noNulInName : '\x00' ∉ name :=
    (by decide : ∀ name ∈ narrowCharsets ++ wideCharsets, '\x00' ∉ name) name isText
  obtain ⟨charset, known, narrowOrWide, narrow⟩ := exists_ofName?_of_textCharset isText
  have isNone (other : Charset) (neither : (other.isNarrow || other.isWide) = false) :
      charset ≠ other := by
    rintro rfl
    rw [← Bool.or_eq_true, neither] at narrowOrWide
    cases narrowOrWide
  have found := Charset.ofTextName_of_ofName? known (isNone _ rfl)
  rw [decodeNamed_strict noNulInName, found] at decoded
  have ignoring := Charset.decode_ignore_of_strict (isNone _ rfl) (isNone _ rfl) decoded
  -- The text is the one that is decoded with stray bytes left out, as files are read.
  constructor
  · rw [textOf, decodeNamed_strayPolicy noNulInName, found]
    simp only [Except.bind, ignoring]
  · intro isNarrow noNul
    exact Charset.zero_notMem_of_isNarrow (narrow isNarrow) ignoring noNul

/--
A file that is text in one of these charsets, without NUL characters, gets the counts of
that text with its line ends unified, which has lines unless it is empty.  But if one of
its first bytes is zero, which it is only in a wide charset, it is passed over and gets
no lines.  There is no warning either way.
-/
theorem countFile_of_textCharset
    {disk : Disk}
    {charset : Text}
    {reference : FileRef}
    {content : List UInt8}
    {text : Text}
    (isText : charset ∈ narrowCharsets ++ wideCharsets)
    (found : disk.content? (pathOf reference) = some content)
    (decoded : Charset.decodeNamed charset "strict".toList content = .ok text)
    (noNul : '\x00' ∉ text) :
    (0 ∉ content.take 1024 →
      ∃ notes,
        countFile disk charset reference =
            ⟨notes, .ok ⟨reference.toText, .ofText text.unifyLineEnds⟩⟩ ∧
          warnings notes = [] ∧
          (text ≠ [] → 0 < (Counts.ofText text.unifyLineEnds).total)) ∧
      (charset ∈ narrowCharsets → 0 ∉ content.take 1024) ∧
      (0 ∈ content.take 1024 →
        ∃ notes,
          countFile disk charset reference = ⟨notes, .ok (.empty reference.toText)⟩ ∧
            warnings notes = []) := by
  obtain ⟨read, noZero⟩ := textOf_of_textCharset isText decoded (pathOf reference).toText
  refine ⟨?_, ?_, ?_⟩
  · intro notBinary
    exact ⟨_, countFile_of_text found (hasNul_sample_eq_false notBinary) read, rfl, total_pos⟩
  · intro narrow zero
    exact noZero narrow noNul (List.mem_of_mem_take zero)
  · intro zero
    exact ⟨_, countFile_of_nul found (hasNul_sample_iff.mpr zero), rfl⟩

/-- A line of two ideographs in UTF-16, none of whose bytes is zero. -/
def ideographs : List UInt8 :=
  [0xFF, 0xFE, 0x2D, 0x4E, 0x87, 0x65]

/-- A line of ASCII in UTF-16, where every second byte is zero. -/
def spacedAscii : List UInt8 :=
  [0xFF, 0xFE, 0x78, 0x00, 0x3D, 0x00, 0x31, 0x00, 0x3B, 0x00, 0x0A, 0x00]

/-- A disk with a file of ideographs and a file of ASCII, both in UTF-16. -/
def wideDisk : Disk :=
  ⟨.folder
    [ ("a.m".toList, .file (.bytes ideographs)),
      ("b.m".toList, .file (.bytes spacedAscii)) ],
    []⟩

/-- Bytes after a mark that are UTF-16 are text under the name of this charset. -/
theorem decodeNamed_utf16
    {content : List UInt8}
    {text : Text}
    (decoded : Charset.utf16.decode .strict content = .ok text) :
    Charset.decodeNamed "utf-16".toList "strict".toList content = .ok text := by
  rw [decodeNamed_strict (by decide),
    Charset.ofTextName_of_ofName? Charset.lookups.2.1 nofun]
  exact decoded

/-- The line of ASCII decodes without a fault. -/
theorem decodeNamed_spacedAscii :
    Charset.decodeNamed "utf-16".toList "strict".toList spacedAscii = .ok "x=1;\n".toList :=
  decodeNamed_utf16 (by decide +kernel)

/-- In UTF-16 a line of ideographs is counted, and a line of ASCII is passed over. -/
theorem countFile_of_textCharset_wideDisk :
    (∃ notes,
      countFile wideDisk "utf-16".toList (.ofText "a.m".toList) =
          ⟨notes, .ok ⟨"a.m".toList, ⟨1, 0, 0, 1⟩⟩⟩ ∧
        warnings notes = []) ∧
      ∃ notes,
        countFile wideDisk "utf-16".toList (.ofText "b.m".toList) =
            ⟨notes, .ok (.empty "b.m".toList)⟩ ∧
          warnings notes = [] := by
  have decodes :
      Charset.decodeNamed "utf-16".toList "strict".toList ideographs = .ok "中文".toList :=
    decodeNamed_utf16 (by decide +kernel)
  constructor
  · obtain ⟨notes, counted, silent, _⟩ :=
      (@countFile_of_textCharset wideDisk _ (.ofText "a.m".toList) _ _ (by decide)
        (by decide +kernel) decodes (by decide)).1 (by decide)
    have counts : Counts.ofText (Text.unifyLineEnds "中文".toList) = ⟨1, 0, 0, 1⟩ := by
      decide +kernel
    rw [counts] at counted
    exact ⟨notes, counted, silent⟩
  · exact
      (@countFile_of_textCharset wideDisk _ (.ofText "b.m".toList) _ _ (by decide)
        (by decide +kernel) decodeNamed_spacedAscii (by decide)).2.2 (by decide)

/-- Text without NUL characters is not counted whenever its file is text in its charset. -/
theorem countFile_not_always_of_textCharset :
    ¬ ∀ (disk : Disk) (charset : Text) (reference : FileRef) (content : List UInt8)
        (text : Text),
      charset ∈ narrowCharsets ++ wideCharsets →
      disk.content? (pathOf reference) = some content →
      Charset.decodeNamed charset "strict".toList content = .ok text →
      '\x00' ∉ text →
      (countFile disk charset reference).result =
        .ok ⟨reference.toText, .ofText text.unifyLineEnds⟩ := by
  intro always
  have found : wideDisk.content? (pathOf (.ofText "b.m".toList)) = some spacedAscii := by
    decide +kernel
  have counted :=
    always wideDisk "utf-16".toList (.ofText "b.m".toList) _ _ (by decide) found
      decodeNamed_spacedAscii (by decide)
  rw [countFile_of_nul found (by decide)] at counted
  revert counted
  decide +kernel

end Counting

end LineTally
