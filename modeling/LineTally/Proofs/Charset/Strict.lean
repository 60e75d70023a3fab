import LineTally.Proofs.Charset.Ignoring
import LineTally.Proofs.Run.Journal

namespace LineTally

/-!
# Bytes without stray ones

Bytes that are read strictly have nothing stray in them, so they are read as the same
text if stray bytes are left out.  In most charsets a zero byte is the NUL character
and nothing else, so text without this character has no zero byte either; in charsets
with units of two bytes it has one in every ASCII character.
-/

namespace Charset

/-- A part that is not stray and has some text is kept under every policy. -/
theorem settled_cons_of_survives
    {part : Reading.Part}
    (survives : part.survives = true)
    (policy : StrayPolicy)
    (codec : Text)
    (rest : List Reading.Part) :
    settled policy codec (part :: rest) = (settled policy codec rest).map (part :: ·) := by
  cases part with
  | text chars =>
      cases chars with
      | nil =>
          cases survives
      | cons c chars =>
          rw [settled]
          · cases settled policy codec rest <;> rfl
          all_goals simp
  | half unit =>
      rw [settled]
      · cases settled policy codec rest <;> rfl
      all_goals simp
  | stray start bytes reason =>
      cases survives

/-- Parts that are settled strictly are the same if stray bytes are left out. -/
theorem settled_ignore_of_strict
    {codec : Text}
    {parts kept : List Reading.Part}
    (strictly : settled .strict codec parts = .ok kept) :
    settled .ignore codec parts = .ok kept := by
  induction parts generalizing kept with
  | nil =>
      exact strictly
  | cons part rest inductionHypothesis =>
      cases survives : part.survives with
      | true =>
          rw [settled_cons_of_survives survives] at strictly ⊢
          cases later : settled .strict codec rest with
          | error fault =>
              rw [later] at strictly
              cases strictly
          | ok restKept =>
              rw [later] at strictly
              rw [inductionHypothesis later, strictly]
      | false =>
          rcases part with (_ | _) | _ | _
          · exact inductionHypothesis strictly
          · cases survives
          · cases survives
          · cases strictly

/-- A reading that has a text strictly has the same one if stray bytes are left out. -/
theorem joined_ignore_of_strict
    {reading : Reading}
    {text : Text}
    (strictly : joined .strict reading = .ok text) :
    joined .ignore reading = .ok text := by
  rw [joined] at strictly ⊢
  cases settles : settled .strict reading.codec reading.parts with
  | error fault =>
      rw [settles] at strictly
      cases strictly
  | ok kept =>
      rw [settled_ignore_of_strict settles, ← settles, strictly]

/-- A charset cuts bytes in the same way whether stray ones are a fault or left out. -/
theorem reading_strict
    (charset : Charset)
    (bytes : List UInt8) :
    charset.reading .strict bytes = charset.reading .ignore bytes := by
  unfold reading
  split <;> simp only [utf8Reading, utf16Reading, utf32Reading, piecesUnder]

/-- A charset that joins texts is refused under both policies or under none. -/
theorem refusal?_strict
    {charset : Charset}
    (notName : charset ≠ .domainNames) :
    refusal? charset .strict = refusal? charset .ignore := by
  cases charset with
  | domainNames =>
      exact (notName rfl).elim
  | punycode =>
      rw [refusal?, refusal?, if_pos (by decide), if_pos (by decide)]
  | _ =>
      rfl

/-- Bytes that are read strictly are read as the same text if stray ones are left out. -/
theorem decode_ignore_of_strict
    {charset : Charset}
    {bytes : List UInt8}
    {text : Text}
    (notDigits : charset ≠ .punycode)
    (notName : charset ≠ .domainNames)
    (strictly : charset.decode .strict bytes = .ok text) :
    charset.decode .ignore bytes = .ok text := by
  rw [decode] at strictly ⊢
  · rw [refusal?_strict notName, reading_strict] at strictly
    obtain ⟨_, taken, joins⟩ := Except.bind_eq_ok_iff.mp strictly
    obtain ⟨_, joinsStrictly, marked⟩ := Except.bind_eq_ok_iff.mp joins
    have joinsIgnoring := joined_ignore_of_strict joinsStrictly
    exact
      Except.bind_eq_ok_iff.mpr
        ⟨_, taken, Except.bind_eq_ok_iff.mpr ⟨_, joinsIgnoring, marked⟩⟩
  all_goals assumption

end Charset

namespace Piece

/-- A piece with the first few of some bytes, whose text has a NUL if it has a zero byte. -/
structure KeepsNul
    (bytes : List UInt8)
    (piece : Piece) :
    Prop where
  here : piece.bytes <+: bytes
  notEmpty : piece.bytes ≠ []
  whole : ∀ units halves, piece ≠ .halves units halves
  keeps : 0 ∈ piece.bytes → '\x00' ∈ piece.text?.getD []

/-- A text keeps a NUL if it has one for a zero byte. -/
theorem KeepsNul.ofText
    {bytes own : List UInt8}
    {chars : Text}
    (here : own <+: bytes)
    (notEmpty : own ≠ [])
    (keeps : 0 ∈ own → '\x00' ∈ chars) :
    KeepsNul bytes (.text chars own) where
  here := here
  notEmpty := notEmpty
  whole _ _ same := by cases same
  keeps := keeps

/-- Stray bytes have no NUL to keep if none of them is zero. -/
theorem KeepsNul.ofStray
    {bytes own : List UInt8}
    (here : own <+: bytes)
    (notEmpty : own ≠ [])
    (noZero : 0 ∉ own)
    (reason : Text) :
    KeepsNul bytes (.stray own reason) where
  here := here
  notEmpty := notEmpty
  whole _ _ same := by cases same
  keeps zero := (noZero zero).elim

/-- If every piece that is cut keeps a NUL, so does the text of all pieces. -/
theorem nul_mem_cut
    {first : UInt8 → List UInt8 → Piece}
    (keepsNul : ∀ a rest, KeepsNul (a :: rest) (first a rest))
    {bytes : List UInt8}
    (zero : 0 ∈ bytes) :
    '\x00' ∈ (cut first bytes).flatMap fun piece => piece.text?.getD [] := by
  match bytes with
  | a :: rest =>
      obtain ⟨⟨after, shape⟩, notEmpty, _, keeps⟩ := keepsNul a rest
      obtain ⟨b, more, some⟩ := List.exists_cons_of_ne_nil notEmpty
      rw [some, List.cons_append, List.cons.injEq] at shape
      have rest_eq : rest = more ++ after := shape.2.symm
      have dropped : rest.drop ((first a rest).bytes.length - 1) = after := by
        rw [some, List.length_cons, Nat.add_sub_cancel, rest_eq, List.drop_left]
      have inPieceOrAfter : 0 ∈ (first a rest).bytes ∨ 0 ∈ after := by
        rw [some, shape.1, ← List.mem_append, List.cons_append, ← rest_eq]
        exact zero
      rw [cut_cons, dropped, List.flatMap_cons, List.mem_append]
      exact inPieceOrAfter.imp keeps (nul_mem_cut keepsNul)
  termination_by bytes.length
  decreasing_by
    rw [rest_eq, List.length_cons, List.length_append]
    omega

end Piece

namespace Utf8

/-- Only the NUL character has a zero byte. -/
theorem eq_nul_of_zero_mem_encodeChar
    {c : Char}
    (zero : 0 ∈ encodeChar c) :
    c = '\x00' := by
  have byteZero {value : Nat} (small : value < 0x100) (same : 0 = byte value) : value = 0 := by
    rw [← byte_toNat small, ← same]
    rfl
  have notContinuation (code : Nat) : 0 ≠ continuation code := by
    intro same
    have value := continuation_toNat code
    rw [← same, UInt8.toNat_zero] at value
    omega
  have valid : c.toNat < 0x110000 := by
    rcases c.valid with low | high
    · exact low.trans (by decide)
    · exact high.2
  simp only [encodeChar] at zero
  split_ifs at zero with one two three <;>
    simp only [List.mem_cons, notContinuation, List.not_mem_nil, or_false] at zero <;>
    have code := byteZero (by omega) zero
  · exact Char.toNat_inj.mp code
  all_goals omega

/-- The bytes of a text without NUL characters have no zero among them. -/
theorem zero_notMem_encode
    {text : Text}
    (noNul : '\x00' ∉ text) :
    0 ∉ encode text := by
  rw [encode, List.mem_flatMap]
  rintro ⟨c, member, zero⟩
  exact noNul (eq_nul_of_zero_mem_encodeChar zero ▸ member)

/-- The piece that starts with a byte keeps a NUL. -/
theorem firstPiece_keepsNul
    (a : UInt8)
    (rest : List UInt8) :
    Piece.KeepsNul (a :: rest) (firstPiece a rest) := by
  by_cases zero : a = 0
  · subst zero
    have encoded : encodeChar '\x00' = [0] := by decide
    have nul : firstPiece 0 rest = .char '\x00' [0] := firstPiece_of_encodeChar encoded rest
    rw [nul]
    exact .ofText (by simp) (List.cons_ne_nil _ _) fun _ => List.mem_cons_self
  · have spec := firstPiece_spec a rest
    generalize firstPiece a rest = piece at spec ⊢
    cases spec with
    | @char c more encoded here =>
        refine .ofText (List.cons_prefix_cons.mpr ⟨rfl, here⟩) (List.cons_ne_nil _ _) ?_
        intro zeroByte
        rw [← encoded] at zeroByte
        rw [eq_nul_of_zero_mem_encodeChar zeroByte]
        exact List.mem_cons_self
    | @stray more reason here continues =>
        refine .ofStray (List.cons_prefix_cons.mpr ⟨rfl, here⟩) (List.cons_ne_nil _ _) ?_ _
        intro zeroByte
        rcases List.mem_cons.mp zeroByte with same | later
        · exact zero same.symm
        · cases continues 0 later

end Utf8

namespace Charset

/-- The piece of a byte in a charset that agrees with ASCII keeps a NUL. -/
theorem asciiBased_keepsNul
    (upper : Nat → Option Char)
    (reason : Text)
    (a : UInt8)
    (rest : List UInt8) :
    Piece.KeepsNul (a :: rest) (asciiBased upper reason a rest) := by
  have here : [a] <+: a :: rest := by simp
  by_cases zero : a = 0
  · subst zero
    exact .ofText here (List.cons_ne_nil _ _) fun _ => List.mem_cons_self
  · have noZero : 0 ∉ [a] := by
      simpa [eq_comm] using zero
    simp only [asciiBased]
    split
    next =>
      exact .ofText here (List.cons_ne_nil _ _) fun zeroByte => (noZero zeroByte).elim
    next =>
      exact .ofStray here (List.cons_ne_nil _ _) noZero reason

/-- If every piece keeps a NUL, a reading without stray bytes has a NUL for a zero byte. -/
theorem nul_mem_textOf_ofPieces
    {first : UInt8 → List UInt8 → Piece}
    (keepsNul : ∀ a rest, Piece.KeepsNul (a :: rest) (first a rest))
    (codec : Text)
    {bytes : List UInt8}
    (zero : 0 ∈ bytes) :
    '\x00' ∈
      Reading.textOf
        ((Reading.ofPieces codec 0 (Piece.cut first bytes)).parts.filter
          Reading.Part.survives) := by
  have noHalves :
      ∀ piece ∈ Piece.cut first bytes, ∀ units halves, piece ≠ .halves units halves :=
    Piece.forall_mem_cut (fun a rest => (keepsNul a rest).whole) bytes
  rw [Reading.ofPieces, textOf_partsOf noHalves]
  exact Piece.nul_mem_cut keepsNul zero

/-- Charsets in which a zero byte stands for the NUL character wherever it occurs. -/
def isNarrow :
    Charset → Bool
  | .utf8 | .utf8Signed | .ascii | .latin1 | .upperHalf _ => true
  | _ => false

/-- Charsets with units of two bytes, many of which have a zero byte. -/
def isWide :
    Charset → Bool
  | .utf16 | .utf16Low | .utf16High => true
  | _ => false

/-- After its mark, signed UTF-8 is UTF-8; no byte of a mark is zero. -/
theorem exists_reading_utf8Signed
    (bytes : List UInt8) :
    ∃ rest,
      utf8Signed.reading .ignore bytes = utf8Reading .ignore rest ∧
        (0 ∈ bytes → 0 ∈ rest) := by
  by_cases marked : ∃ rest, bytes = 0xEF :: 0xBB :: 0xBF :: rest
  · obtain ⟨rest, rfl⟩ := marked
    exact ⟨rest, rfl, by simp⟩
  by_cases cutOff : bytes = [0xEF, 0xBB] ∨ bytes = [0xEF]
  · rcases cutOff with rfl | rfl <;> exact ⟨[], rfl, by simp⟩
  · refine ⟨bytes, ?_, id⟩
    rw [reading]
    · exact fun rest same => marked ⟨rest, same⟩
    · exact fun same => cutOff (.inl same)
    · exact fun same => cutOff (.inr same)

/-- Without stray bytes a narrow charset has a NUL wherever there is a zero byte. -/
theorem nul_mem_textOf_of_isNarrow
    {charset : Charset}
    (narrow : charset.isNarrow = true)
    {bytes : List UInt8}
    (zero : 0 ∈ bytes) :
    '\x00' ∈
      Reading.textOf
        ((charset.reading .ignore bytes).parts.filter Reading.Part.survives) := by
  have inUtf8 {bytes : List UInt8} (zero : 0 ∈ bytes) :=
    nul_mem_textOf_ofPieces Utf8.firstPiece_keepsNul "utf-8".toList zero
  cases charset with
  | utf8 =>
      exact inUtf8 zero
  | utf8Signed =>
      obtain ⟨rest, after, zeroAfter⟩ := exists_reading_utf8Signed bytes
      rw [after]
      exact inUtf8 (zeroAfter zero)
  | ascii =>
      exact nul_mem_textOf_ofPieces (asciiBased_keepsNul _ _) _ zero
  | latin1 =>
      exact nul_mem_textOf_ofPieces (asciiBased_keepsNul _ _) _ zero
  | upperHalf table =>
      exact nul_mem_textOf_ofPieces (asciiBased_keepsNul _ _) _ zero
  | _ =>
      cases narrow

/-- Bytes of text without NUL characters have no zero among them in a narrow charset. -/
theorem zero_notMem_of_isNarrow
    {charset : Charset}
    (narrow : charset.isNarrow = true)
    {bytes : List UInt8}
    {text : Text}
    (decoded : charset.decode .ignore bytes = .ok text)
    (noNul : '\x00' ∉ text) :
    0 ∉ bytes := by
  have decodes :
      charset.decode .ignore bytes =
        .ok
          (Reading.textOf
            ((charset.reading .ignore bytes).parts.filter Reading.Part.survives)) := by
    cases charset with
    | utf8 | utf8Signed | ascii | latin1 | upperHalf table =>
        simp [decode, refusal?, failWith, joined_ignore, markFault?, bind, Except.bind, pure,
          Except.pure]
    | _ =>
        cases narrow
  intro zero
  rw [decodes, Except.ok.injEq] at decoded
  rw [← decoded] at noNul
  exact noNul (nul_mem_textOf_of_isNarrow narrow zero)

end Charset

end LineTally
