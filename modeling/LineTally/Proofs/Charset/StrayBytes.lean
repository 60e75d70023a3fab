import LineTally.Proofs.Charset.Legible

namespace LineTally.Utf8

/-!
# Stray bytes between texts

Only the first byte of a character is no continuation byte.  So no character that is
broken off reaches into a text that follows: of bytes between two texts both texts are
left, and between them what is left of the bytes alone.  That is nothing exactly if no
character stands anywhere in the bytes.
-/

/-- The first byte of a character is no continuation byte, and the later ones are. -/
theorem encodeChar_shape
    (c : Char) :
    ∃ first more, encodeChar c = first :: more ∧ isContinuation first = false ∧
      ∀ b ∈ more, isContinuation b = true := by
  have continues (code : Nat) : isContinuation (continuation code) = true := by
    rw [isContinuation_iff, continuation_toNat]
    omega
  have starts {value : Nat} (isStart : value < 0x80 ∨ 0xC0 ≤ value) (small : value < 0x100) :
      isContinuation (byte value) = false := by
    rw [Bool.eq_false_iff, Ne, isContinuation_iff, byte_toNat small]
    omega
  have valid : c.toNat < 0xD800 ∨ 0xDFFF < c.toNat ∧ c.toNat < 0x110000 :=
    c.valid
  simp only [encodeChar]
  split_ifs with one two three
  · exact ⟨_, _, rfl, starts (by omega) (by omega), by simp⟩
  · exact ⟨_, _, rfl, starts (by omega) (by omega), by simp [continues]⟩
  · exact ⟨_, _, rfl, starts (by omega) (by omega), by simp [continues]⟩
  · exact ⟨_, _, rfl, starts (by omega) (by omega), by simp [continues]⟩

/-- No character has no bytes. -/
theorem encodeChar_ne_nil
    (c : Char) :
    encodeChar c ≠ [] :=
  List.ne_nil_of_length_pos (encodeChar_length c).1

/-- The bytes of a text start with no continuation byte. -/
theorem isContinuation_of_encode_eq_cons
    {text : Text}
    {b : UInt8}
    {rest : List UInt8}
    (encoded : encode text = b :: rest) :
    isContinuation b = false := by
  cases text with
  | nil =>
      cases encoded
  | cons c text =>
      obtain ⟨first, more, shape, starts, _⟩ := encodeChar_shape c
      rw [encode, List.flatMap_cons, shape, List.cons_append, List.cons.injEq] at encoded
      exact encoded.1 ▸ starts

/-- A character that starts before a text does not reach into it. -/
theorem encodeChar_prefix_of_append_encode
    {c : Char}
    {b : UInt8}
    {rest : List UInt8}
    {text : Text}
    (here : encodeChar c <+: b :: rest ++ encode text) :
    encodeChar c <+: b :: rest := by
  rcases List.prefix_or_prefix_of_prefix here (List.prefix_append _ _) with
    within | ⟨beyond, reaches⟩
  · exact within
  · cases beyond with
    | nil =>
        rw [← reaches, List.append_nil]
    | cons d beyond =>
        -- The byte that follows would both continue the character and start the text.
        obtain ⟨first, more, shape, _, continues⟩ := encodeChar_shape c
        rw [← reaches, List.prefix_append_right_inj] at here
        obtain ⟨after, encoded⟩ := here
        rw [← reaches, List.cons_append, List.cons.injEq] at shape
        have startsText := isContinuation_of_encode_eq_cons encoded.symm
        rw [continues d (by simp [← shape.2])] at startsText
        cases startsText

/-- A text that follows some bytes is left behind what is left of them. -/
theorem Leaves.append_encode
    {bytes : List UInt8}
    {left : Text}
    (leaves : Leaves bytes left)
    (text : Text) :
    Leaves (bytes ++ encode text) (left ++ text) := by
  induction leaves with
  | nil =>
      exact leaves_iff.mpr (legible_encode text).symm
  | char c _ inductionHypothesis =>
      rw [List.append_assoc]
      exact .char c inductionHypothesis
  | drop startsNone _ inductionHypothesis =>
      exact .drop (fun c here => startsNone c (encodeChar_prefix_of_append_encode here))
        inductionHypothesis

/-- A text before some bytes is left before what is left of them. -/
theorem legible_encode_append
    (text : Text)
    (rest : List UInt8) :
    legible (encode text ++ rest) = text ++ legible rest := by
  induction text with
  | nil =>
      rfl
  | cons c text inductionHypothesis =>
      rw [encode] at inductionHypothesis
      rw [encode, List.flatMap_cons, List.append_assoc, legible_encodeChar_append,
        inductionHypothesis, List.cons_append]

/-- Of bytes between two texts, both are left and what is left of the bytes alone. -/
theorem legible_between
    (before behind : Text)
    (bytes : List UInt8) :
    legible (encode before ++ bytes ++ encode behind) =
      before ++ legible bytes ++ behind := by
  have follows := ((leaves_legible bytes).append_encode behind).eq_legible
  rw [List.append_assoc, legible_encode_append, ← follows, List.append_assoc]

/-- Nothing is left of some bytes exactly if no character stands anywhere in them. -/
theorem legible_eq_nil_iff
    {bytes : List UInt8} :
    legible bytes = [] ↔ ∀ c, ¬ encodeChar c <:+: bytes := by
  rw [eq_comm, ← leaves_iff]
  induction bytes with
  | nil =>
      simp [Leaves.nil, encodeChar_ne_nil]
  | cons b rest inductionHypothesis =>
      have dropped : Leaves (b :: rest) [] ↔
          (∀ c, ¬ encodeChar c <+: b :: rest) ∧ Leaves rest [] := by
        constructor
        · intro leaves
          generalize shape : b :: rest = bytes at leaves
          cases leaves with
          | nil =>
              cases shape
          | drop startsNone later =>
              cases shape
              exact ⟨startsNone, later⟩
        · rintro ⟨startsNone, later⟩
          exact .drop startsNone later
      simp only [dropped, inductionHypothesis, List.infix_cons_iff, not_or, forall_and]

/--
Bytes that belong to no character: continuation bytes on their own, bytes that no
character has, and characters that are broken off before their last byte.
-/
inductive AreStray : List UInt8 → Prop where
  | nil :
      AreStray []
  | continuation {b : UInt8} {rest : List UInt8}
      (continues : isContinuation b = true) :
      AreStray rest →
      AreStray (b :: rest)
  | impossible {b : UInt8} {rest : List UInt8}
      (inNone : ∀ c, b ∉ encodeChar c) :
      AreStray rest →
      AreStray (b :: rest)
  | brokenOff {c : Char} {start rest : List UInt8}
      (isStart : start <+: encodeChar c)
      (endsNowhere : ∀ d, ¬ encodeChar d <+: start ++ rest) :
      AreStray rest →
      AreStray (start ++ rest)

/-- The bytes of a character that is broken off are dropped. -/
theorem legible_append_of_brokenOff
    {c : Char}
    {start rest : List UInt8}
    (isStart : start <+: encodeChar c)
    (endsNowhere : ∀ d, ¬ encodeChar d <+: start ++ rest) :
    legible (start ++ rest) = legible rest := by
  cases start with
  | nil =>
      rfl
  | cons first started =>
      obtain ⟨head, more, shape, _, continues⟩ := encodeChar_shape c
      rw [shape, List.cons_prefix_cons] at isStart
      simp only [List.cons_append] at endsNowhere ⊢
      rw [legible_cons_of_startsNone endsNowhere]
      exact
        legible_continuations_append
          (fun b member => continues b (isStart.2.subset member)) rest

/-- Bytes of which nothing is left are stray ones. -/
theorem areStray_of_legible_eq_nil
    {bytes : List UInt8}
    (nothing : legible bytes = []) :
    AreStray bytes := by
  induction bytes with
  | nil =>
      exact .nil
  | cons b rest inductionHypothesis =>
      have nowhere := legible_eq_nil_iff.mp nothing
      have startsNone : ∀ c, ¬ encodeChar c <+: b :: rest :=
        fun c here => nowhere c here.isInfix
      rw [legible_cons_of_startsNone startsNone] at nothing
      have later := inductionHypothesis nothing
      by_cases continues : isContinuation b = true
      · exact .continuation continues later
      · by_cases inSome : ∃ c, b ∈ encodeChar c
        · -- A byte of a character that continues none is its first.
          obtain ⟨c, member⟩ := inSome
          obtain ⟨first, more, shape, _, allContinue⟩ := encodeChar_shape c
          rw [shape, List.mem_cons] at member
          have isFirst := member.resolve_right fun behind => continues (allContinue b behind)
          have isStart : [b] <+: encodeChar c := by
            simp [shape, isFirst]
          exact @AreStray.brokenOff c [b] rest isStart startsNone later
        · exact .impossible (not_exists.mp inSome) later

/-- Nothing is left of some bytes exactly if they are stray ones. -/
theorem legible_eq_nil_iff_areStray
    {bytes : List UInt8} :
    legible bytes = [] ↔ AreStray bytes := by
  refine ⟨areStray_of_legible_eq_nil, ?_⟩
  intro stray
  induction stray with
  | nil =>
      rfl
  | continuation continues _ inductionHypothesis =>
      rw [legible_continuation_cons continues, inductionHypothesis]
  | @impossible b rest inNone _ inductionHypothesis =>
      have startsNone : ∀ c, ¬ encodeChar c <+: b :: rest := by
        intro c here
        obtain ⟨first, more, shape, _, _⟩ := encodeChar_shape c
        rw [shape, List.cons_prefix_cons] at here
        exact inNone c (by simp [shape, here.1])
      rw [legible_cons_of_startsNone startsNone, inductionHypothesis]
  | brokenOff isStart endsNowhere _ inductionHypothesis =>
      rw [legible_append_of_brokenOff isStart endsNowhere, inductionHypothesis]

end LineTally.Utf8
