import LineTally.Charset.Decode
import LineTally.Proofs.Charset.Utf8

namespace LineTally

/-!
# What is left of bytes without the stray ones

If stray bytes are left out, reading never fails on them.  For UTF-8 the text
that is left is described here without any cutting into pieces: where the bytes
of a character stand, that character is kept, and otherwise one byte is dropped.
Every run of bytes has exactly one such text, and it is the one that is read.
-/

namespace Piece

/-- To cut after some bytes is to cut what is left without them. -/
theorem cutAfter_eq_cut_drop
    (first : UInt8 → List UInt8 → Piece)
    (skipped : Nat)
    (bytes : List UInt8) :
    cutAfter first skipped bytes = cut first (bytes.drop skipped) := by
  induction bytes generalizing skipped with
  | nil =>
      cases skipped <;> rfl
  | cons a rest inductionHypothesis =>
      cases skipped with
      | zero =>
          rfl
      | succ skipped =>
          simpa [cutAfter] using inductionHypothesis skipped

/-- The first piece, and the pieces of the bytes after it. -/
theorem cut_cons
    (first : UInt8 → List UInt8 → Piece)
    (a : UInt8)
    (rest : List UInt8) :
    cut first (a :: rest) =
      first a rest :: cut first (rest.drop ((first a rest).bytes.length - 1)) := by
  rw [← cutAfter_eq_cut_drop]
  rfl

end Piece

namespace Utf8

/--
The text that is left of some bytes: the characters whose bytes stand there, one
after the other, without the bytes that start none.
-/
inductive Leaves : List UInt8 → Text → Prop where
  | nil :
      Leaves [] []
  | char (c : Char) {rest : List UInt8} {text : Text} :
      Leaves rest text →
      Leaves (encodeChar c ++ rest) (c :: text)
  | drop {b : UInt8} {rest : List UInt8} {text : Text}
      (startsNone : ∀ c, ¬ encodeChar c <+: b :: rest) :
      Leaves rest text →
      Leaves (b :: rest) text

/-- The text of the pieces that have one. -/
def legible
    (bytes : List UInt8) :
    Text :=
  (pieces bytes).flatMap fun piece => piece.text?.getD []

/-- A character that stands first is kept. -/
theorem legible_encodeChar_append
    (c : Char)
    (rest : List UInt8) :
    legible (encodeChar c ++ rest) = c :: legible rest := by
  obtain ⟨a, more, encoded⟩ :=
    List.exists_cons_of_length_pos (encodeChar_length c).1
  rw [encoded, List.cons_append, legible, pieces, Piece.cut_cons,
    firstPiece_of_encodeChar encoded]
  simp [Piece.bytes, Piece.text?, legible, pieces]

/-- Nothing is dropped from the bytes of a text. -/
theorem legible_encode
    (text : Text) :
    legible (encode text) = text := by
  induction text with
  | nil =>
      rfl
  | cons c rest inductionHypothesis =>
      rw [encode] at inductionHypothesis
      rw [encode, List.flatMap_cons, legible_encodeChar_append, inductionHypothesis]

/-- A continuation byte that stands first is dropped. -/
theorem legible_continuation_cons
    {b : UInt8}
    (continues : isContinuation b = true)
    (rest : List UInt8) :
    legible (b :: rest) = legible rest := by
  have startsNone : sizeFrom? b = none := by
    have range := isContinuation_iff.mp continues
    cases starts : sizeFrom? b with
    | none =>
        rfl
    | some size =>
        have start := sizeFrom?_eq_some_iff.mp starts
        omega
  have first : firstPiece b rest = .stray [b] badStart := by
    simp [firstPiece, startsNone]
  rw [legible, pieces, Piece.cut_cons, first]
  simp [Piece.bytes, Piece.text?, legible, pieces]

/-- Continuation bytes that stand first are dropped. -/
theorem legible_continuations_append
    {more : List UInt8}
    (allContinue : ∀ b ∈ more, isContinuation b = true)
    (rest : List UInt8) :
    legible (more ++ rest) = legible rest := by
  induction more with
  | nil =>
      rfl
  | cons b more inductionHypothesis =>
      rw [List.cons_append, legible_continuation_cons (allContinue b (by simp)),
        inductionHypothesis fun later member => allContinue later (by simp [member])]

/-- A byte that starts no character is dropped. -/
theorem legible_cons_of_startsNone
    {b : UInt8}
    {rest : List UInt8}
    (startsNone : ∀ c, ¬ encodeChar c <+: b :: rest) :
    legible (b :: rest) = legible rest := by
  have spec := firstPiece_spec b rest
  rw [legible, pieces, Piece.cut_cons]
  generalize firstPiece b rest = piece at spec ⊢
  cases spec with
  | @char c more encoded here =>
      refine (startsNone c ?_).elim
      rw [encoded]
      exact List.cons_prefix_cons.mpr ⟨rfl, here⟩
  | @stray more reason here continues =>
      obtain ⟨after, rfl⟩ := here
      rw [legible_continuations_append continues]
      simp [Piece.bytes, Piece.text?, legible, pieces]

/-- What is left is what the pieces hold. -/
theorem Leaves.eq_legible
    {bytes : List UInt8}
    {text : Text}
    (leaves : Leaves bytes text) :
    text = legible bytes := by
  induction leaves with
  | nil =>
      rfl
  | char c _ inductionHypothesis =>
      rw [legible_encodeChar_append, ← inductionHypothesis]
  | drop startsNone _ inductionHypothesis =>
      rw [legible_cons_of_startsNone startsNone, ← inductionHypothesis]

/-- What the pieces hold is left. -/
theorem leaves_legible
    (bytes : List UInt8) :
    Leaves bytes (legible bytes) := by
  match bytes with
  | [] =>
      exact .nil
  | b :: rest =>
      by_cases starts : ∃ c, encodeChar c <+: b :: rest
      · obtain ⟨c, after, shape⟩ := starts
        have shorter : after.length < (b :: rest).length := by
          rw [← shape, List.length_append]
          have := (encodeChar_length c).1
          omega
        rw [← shape, legible_encodeChar_append]
        exact .char c (leaves_legible after)
      · rw [legible_cons_of_startsNone (not_exists.mp starts)]
        exact .drop (not_exists.mp starts) (leaves_legible rest)
  termination_by bytes.length
  decreasing_by
    · exact shorter
    · exact Nat.lt_succ_self rest.length

/-- Any bytes leave exactly one text. -/
theorem leaves_iff
    {bytes : List UInt8}
    {text : Text} :
    Leaves bytes text ↔ text = legible bytes := by
  constructor
  · exact Leaves.eq_legible
  · rintro rfl
    exact leaves_legible bytes

end Utf8

end LineTally
