import LineTally.Proofs.Charset.StrayBytes
import LineTally.Proofs.Run.CountFiles

namespace LineTally.Counting

/-!
# Reading damaged files

The text of a UTF-8 file is read around its damaged places, whatever bytes these hold.
Line ends are unified in the text that is left, so that a carriage return before such a
place and a line feed behind it can become one line end.
-/

/-- The text of a file that is not binary is what its bytes leave, with unified line ends. -/
theorem readText_usualCharset
    {disk : Disk}
    {path : Path}
    {content : List UInt8}
    (found : disk.content? path = some content)
    (noZero : 0 ∉ content.take 1024) :
    readText disk usualCharset strayPolicy path =
      ⟨[], .ok (Utf8.legible content).unifyLineEnds⟩ := by
  rw [readText_of_content found, hasNul_sample_eq_false noZero, textOf_usualCharset]
  rfl

/--
Reading a file that holds two texts and any bytes between them gives both texts and
between them what is left of the bytes alone, with the line ends of the whole unified.
Nothing is left of the bytes exactly if they belong to no character, and without any the
text is read that was written, but for its line ends.
-/
theorem readText_around_damage
    {disk : Disk}
    {path : Path}
    {before behind : Text}
    {damage : List UInt8}
    (found :
      disk.content? path = some (Utf8.encode before ++ damage ++ Utf8.encode behind))
    (noZero : 0 ∉ (Utf8.encode before ++ damage ++ Utf8.encode behind).take 1024) :
    readText disk usualCharset strayPolicy path =
        ⟨[], .ok (Text.unifyLineEnds (before ++ Utf8.legible damage ++ behind))⟩ ∧
      (Utf8.legible damage = [] ↔ Utf8.AreStray damage) ∧
      (damage = [] →
        readText disk usualCharset strayPolicy path =
          ⟨[], .ok (Text.unifyLineEnds (before ++ behind))⟩) := by
  have read := readText_usualCharset found noZero
  rw [Utf8.legible_between] at read
  refine ⟨read, Utf8.legible_eq_nil_iff_areStray, ?_⟩
  rintro rfl
  have nothing : Utf8.legible [] = [] := Utf8.legible_encode []
  rw [read, nothing, List.append_nil]

/-- A broken ideograph, a byte that no character has, and a continuation byte. -/
def damagedPlace : List UInt8 :=
  [0xE4, 0xB8, 0xFF, 0x80]

/-- A disk with one file that is damaged between the two halves of a line end. -/
def damagedDisk : Disk :=
  ⟨.folder
    [("a.m".toList,
      .file (.bytes (Utf8.encode "é\r".toList ++ damagedPlace ++ Utf8.encode "\n中".toList)))],
    []⟩

/-- The texts on both sides of a damaged place are read, and the line end between them. -/
theorem readText_around_damage_damagedDisk :
    Utf8.AreStray damagedPlace ∧
      readText damagedDisk usualCharset strayPolicy (.ofText "a.m".toList) =
        ⟨[], .ok "é\n中".toList⟩ := by
  have nothing : Utf8.legible damagedPlace = [] := by
    decide +kernel
  have found :
      damagedDisk.content? (.ofText "a.m".toList) =
        some (Utf8.encode "é\r".toList ++ damagedPlace ++ Utf8.encode "\n中".toList) := by
    decide +kernel
  obtain ⟨read, stray, _⟩ := readText_around_damage found (by decide +kernel)
  have unified :
      Text.unifyLineEnds ("é\r".toList ++ Utf8.legible damagedPlace ++ "\n中".toList) =
        "é\n中".toList := by
    rw [nothing]
    decide +kernel
  rw [unified] at read
  exact ⟨stray.mp nothing, read⟩

end LineTally.Counting
