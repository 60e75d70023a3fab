import LineTally.Charset.Utf8
import Mathlib.Data.List.Infix

namespace LineTally

/-!
# Characters in UTF-8

The bytes of a character and the piece that is cut off at its first byte belong
together: a piece with a character holds exactly the bytes of that character, and
wherever the bytes of a character stand, that character is cut off.  A stray piece
is a byte that starts no character there, with bytes after it that could start
none anywhere.

From this follows what is left of any bytes if those that stand for nothing are
dropped: at each place the character that stands there, or else one byte less.
-/

namespace Utf8

/-- A small number is the value of its byte. -/
theorem byte_toNat
    {value : Nat}
    (small : value < 0x100) :
    (byte value).toNat = value :=
  UInt8.toNat_ofNat_of_lt' small

/-- The value of a continuation byte. -/
theorem continuation_toNat
    (code : Nat) :
    (continuation code).toNat = 0x80 + code % 0x40 := by
  apply byte_toNat
  omega

/-- Continuation bytes by their values. -/
theorem isContinuation_iff
    {b : UInt8} :
    isContinuation b = true ↔ 0x80 ≤ b.toNat ∧ b.toNat < 0xC0 := by
  simp [isContinuation, UInt8.le_iff_toNat_le, UInt8.lt_iff_toNat_lt]

/-- How many bytes a character has, by the value of its first one. -/
theorem sizeFrom?_eq_some_iff
    {first : UInt8}
    {size : Nat} :
    sizeFrom? first = some size ↔
      size = 1 ∧ first.toNat < 0x80 ∨
        size = 2 ∧ 0xC2 ≤ first.toNat ∧ first.toNat < 0xE0 ∨
        size = 3 ∧ 0xE0 ≤ first.toNat ∧ first.toNat < 0xF0 ∨
        size = 4 ∧ 0xF0 ≤ first.toNat ∧ first.toNat < 0xF5 := by
  simp only [sizeFrom?, UInt8.lt_iff_toNat_lt, UInt8.reduceToNat]
  split_ifs <;> simp <;> omega

/-- Which second bytes fit, by the values of both. -/
theorem fitsSecond_iff
    {first second : UInt8} :
    fitsSecond first second = true ↔
      (0x80 ≤ second.toNat ∧ second.toNat < 0xC0) ∧
        (first.toNat = 0xE0 → 0xA0 ≤ second.toNat) ∧
        (first.toNat = 0xED → second.toNat < 0xA0) ∧
        (first.toNat = 0xF0 → 0x90 ≤ second.toNat) ∧
        (first.toNat = 0xF4 → second.toNat < 0x90) := by
  simp [fitsSecond, isContinuation_iff, UInt8.le_iff_toNat_le, UInt8.lt_iff_toNat_lt,
    ← UInt8.toNat_inj]
  omega

/-- A continuation byte is known by the six bits that it holds. -/
theorem continuation_eq_iff
    {code : Nat}
    {b : UInt8} :
    continuation code = b ↔ isContinuation b = true ∧ payload b = code % 0x40 := by
  rw [← UInt8.toNat_inj, continuation_toNat, isContinuation_iff, payload]
  omega

/-- A byte of a small number is known by its value. -/
theorem byte_eq_iff
    {value : Nat}
    {b : UInt8}
    (small : value < 0x100) :
    byte value = b ↔ b.toNat = value := by
  rw [← UInt8.toNat_inj, byte_toNat small]
  exact eq_comm

/-- The characters of one byte. -/
theorem encodeChar_eq_one_iff
    {c : Char}
    {a : UInt8} :
    encodeChar c = [a] ↔ sizeFrom? a = some 1 ∧ c.toNat = a.toNat := by
  have starts : sizeFrom? a = some 1 ↔ a.toNat < 0x80 := by
    simp [sizeFrom?_eq_some_iff]
  rw [starts]
  simp only [encodeChar]
  split_ifs with one two three
  · rw [List.singleton_inj, byte_eq_iff (by omega)]
    omega
  all_goals
    simp only [List.cons.injEq, reduceCtorEq, and_false, false_iff]
    omega

/-- The characters of two bytes. -/
theorem encodeChar_eq_two_iff
    {c : Char}
    {a b : UInt8} :
    encodeChar c = [a, b] ↔
      sizeFrom? a = some 2 ∧ fitsSecond a b = true ∧
        c.toNat = (a.toNat - 0xC0) * 0x40 + payload b := by
  have starts : sizeFrom? a = some 2 ↔ 0xC2 ≤ a.toNat ∧ a.toNat < 0xE0 := by
    simp [sizeFrom?_eq_some_iff]
  rw [starts, fitsSecond_iff, payload]
  simp only [encodeChar]
  split_ifs with one two three
  · simp only [List.cons.injEq, reduceCtorEq, and_false, false_iff]
    omega
  · simp only [List.cons.injEq, and_true]
    rw [byte_eq_iff (by omega), continuation_eq_iff, isContinuation_iff, payload]
    omega
  all_goals
    simp only [List.cons.injEq, reduceCtorEq, and_false, false_iff]
    omega

/-- The characters of three bytes. -/
theorem encodeChar_eq_three_iff
    {c : Char}
    {a b d : UInt8} :
    encodeChar c = [a, b, d] ↔
      sizeFrom? a = some 3 ∧ fitsSecond a b = true ∧ isContinuation d = true ∧
        c.toNat = ((a.toNat - 0xE0) * 0x40 + payload b) * 0x40 + payload d := by
  have starts : sizeFrom? a = some 3 ↔ 0xE0 ≤ a.toNat ∧ a.toNat < 0xF0 := by
    simp [sizeFrom?_eq_some_iff]
  have valid : c.toNat < 0xD800 ∨ 0xDFFF < c.toNat ∧ c.toNat < 0x110000 :=
    c.valid
  rw [starts, fitsSecond_iff, payload, isContinuation_iff, payload]
  simp only [encodeChar]
  split_ifs with one two three
  · simp only [List.cons.injEq, reduceCtorEq, and_false, false_iff]
    omega
  · simp only [List.cons.injEq, reduceCtorEq, and_false, false_iff]
    omega
  · simp only [List.cons.injEq, and_true]
    rw [byte_eq_iff (by omega), continuation_eq_iff, continuation_eq_iff,
      isContinuation_iff, isContinuation_iff, payload, payload]
    omega
  · simp only [List.cons.injEq, reduceCtorEq, and_false, false_iff]
    omega

/-- The characters of four bytes. -/
theorem encodeChar_eq_four_iff
    {c : Char}
    {a b d e : UInt8} :
    encodeChar c = [a, b, d, e] ↔
      sizeFrom? a = some 4 ∧ fitsSecond a b = true ∧ isContinuation d = true ∧
        isContinuation e = true ∧
        c.toNat =
          (((a.toNat - 0xF0) * 0x40 + payload b) * 0x40 + payload d) * 0x40 + payload e := by
  have starts : sizeFrom? a = some 4 ↔ 0xF0 ≤ a.toNat ∧ a.toNat < 0xF5 := by
    simp [sizeFrom?_eq_some_iff]
  have valid : c.toNat < 0xD800 ∨ 0xDFFF < c.toNat ∧ c.toNat < 0x110000 :=
    c.valid
  rw [starts, fitsSecond_iff, payload, isContinuation_iff, payload, isContinuation_iff, payload]
  simp only [encodeChar]
  split_ifs with one two three
  · simp only [List.cons.injEq, reduceCtorEq, and_false, false_iff]
    omega
  · simp only [List.cons.injEq, reduceCtorEq, and_false, false_iff]
    omega
  · simp only [List.cons.injEq, reduceCtorEq, and_false, false_iff]
    omega
  · simp only [List.cons.injEq, and_true]
    rw [byte_eq_iff (by omega), continuation_eq_iff, continuation_eq_iff, continuation_eq_iff,
      isContinuation_iff, isContinuation_iff, isContinuation_iff, payload, payload, payload]
    omega

/-- A code that a character can have is the code of its character. -/
theorem toNat_ofNat
    {code : Nat}
    (valid : code.isValidChar) :
    (Char.ofNat code).toNat = code := by
  rw [Char.ofNat, dif_pos valid]
  rfl

/-- A character has one to four bytes. -/
theorem encodeChar_length
    (c : Char) :
    0 < (encodeChar c).length ∧ (encodeChar c).length ≤ 4 := by
  simp only [encodeChar]
  split_ifs <;> simp

/-- Texts one after the other take as many bytes as both. -/
theorem size_append
    (first second : Text) :
    size (first ++ second) = size first + size second := by
  simp [size, encode]

/-- Every text but the empty one takes bytes. -/
theorem size_pos
    {text : Text}
    (notEmpty : text ≠ []) :
    0 < size text := by
  obtain ⟨c, rest, rfl⟩ := List.exists_cons_of_ne_nil notEmpty
  have ofFirst := (encodeChar_length c).1
  simp only [size, encode, List.flatMap_cons, List.length_append]
  omega

/-- Where the bytes of a character stand, that character is cut off. -/
theorem firstPiece_of_encodeChar
    {c : Char}
    {a : UInt8}
    {more : List UInt8}
    (encoded : encodeChar c = a :: more)
    (rest : List UInt8) :
    firstPiece a (more ++ rest) = .char c (a :: more) := by
  match more with
  | [] =>
      obtain ⟨starts, code⟩ := encodeChar_eq_one_iff.mp encoded
      simp [firstPiece, starts, ← code]
  | [b] =>
      obtain ⟨starts, fits, code⟩ := encodeChar_eq_two_iff.mp encoded
      simp [firstPiece, starts, fits, ← code]
  | [b, d] =>
      obtain ⟨starts, fits, continues, code⟩ := encodeChar_eq_three_iff.mp encoded
      simp [firstPiece, starts, fits, continues, ← code]
  | [b, d, e] =>
      obtain ⟨starts, fits, third, fourth, code⟩ := encodeChar_eq_four_iff.mp encoded
      simp [firstPiece, starts, fits, third, fourth, ← code]
  | b :: d :: e :: f :: more =>
      have short := (encodeChar_length c).2
      simp only [encoded, List.length_cons] at short
      omega

/-- What a piece is that starts with a byte: a character, or bytes that start none. -/
inductive FirstPiece (a : UInt8) (rest : List UInt8) : Piece → Prop where
  | char {c : Char} {more : List UInt8}
      (encoded : encodeChar c = a :: more)
      (here : more <+: rest) :
      FirstPiece a rest (.char c (a :: more))
  | stray {more : List UInt8} {reason : Text}
      (here : more <+: rest)
      (continues : ∀ b ∈ more, isContinuation b = true) :
      FirstPiece a rest (.stray (a :: more) reason)

namespace FirstPiece

/-- A byte alone that starts no character. -/
theorem alone
    (a : UInt8)
    (rest : List UInt8)
    (reason : Text) :
    FirstPiece a rest (.stray [a] reason) :=
  .stray rest.nil_prefix (by simp)

/-- The piece that starts with the first of two bytes. -/
theorem ofTwo
    {a : UInt8}
    (starts : sizeFrom? a = some 2)
    (rest : List UInt8) :
    FirstPiece a rest (firstPiece a rest) := by
  have range : 0xC2 ≤ a.toNat ∧ a.toNat < 0xE0 := by
    simpa using sizeFrom?_eq_some_iff.mp starts
  cases rest with
  | nil =>
      simpa [firstPiece, starts] using alone a [] cutShort
  | cons b rest =>
      by_cases fits : fitsSecond a b = true
      · have second := fitsSecond_iff.mp fits
        have encoded :
            encodeChar (Char.ofNat ((a.toNat - 0xC0) * 0x40 + payload b)) = [a, b] := by
          refine encodeChar_eq_two_iff.mpr ⟨starts, fits, toNat_ofNat (.inl ?_)⟩
          simp only [payload]
          omega
        simpa [firstPiece, starts, fits] using
          @FirstPiece.char a (b :: rest) _ _ encoded (by simp)
      · simpa [firstPiece, starts, fits] using alone a (b :: rest) badContinuation

/-- The piece that starts with the first of three bytes. -/
theorem ofThree
    {a : UInt8}
    (starts : sizeFrom? a = some 3)
    (rest : List UInt8) :
    FirstPiece a rest (firstPiece a rest) := by
  have range : 0xE0 ≤ a.toNat ∧ a.toNat < 0xF0 := by
    simpa using sizeFrom?_eq_some_iff.mp starts
  match rest with
  | [] =>
      simpa [firstPiece, starts] using alone a [] cutShort
  | b :: rest =>
      by_cases fits : fitsSecond a b = true
      · have second := fitsSecond_iff.mp fits
        have secondContinues : isContinuation b = true :=
          isContinuation_iff.mpr second.1
        have brokenOff (reason : Text) :
            FirstPiece a (b :: rest) (.stray [a, b] reason) :=
          .stray (by simp) (by simp [secondContinues])
        match rest with
        | [] =>
            simpa [firstPiece, starts, fits] using brokenOff cutShort
        | d :: rest =>
            by_cases continues : isContinuation d = true
            · have third := isContinuation_iff.mp continues
              have encoded :
                  encodeChar
                      (Char.ofNat
                        (((a.toNat - 0xE0) * 0x40 + payload b) * 0x40 + payload d)) =
                    [a, b, d] := by
                refine encodeChar_eq_three_iff.mpr ⟨starts, fits, continues, toNat_ofNat ?_⟩
                simp only [Nat.isValidChar, payload]
                omega
              simpa [firstPiece, starts, fits, continues] using
                @FirstPiece.char a (b :: d :: rest) _ _ encoded (by simp)
            · simpa [firstPiece, starts, fits, continues] using brokenOff badContinuation
      · simpa [firstPiece, starts, fits] using alone a (b :: rest) badContinuation

/-- The piece that starts with the first of four bytes. -/
theorem ofFour
    {a : UInt8}
    (starts : sizeFrom? a = some 4)
    (rest : List UInt8) :
    FirstPiece a rest (firstPiece a rest) := by
  have range : 0xF0 ≤ a.toNat ∧ a.toNat < 0xF5 := by
    simpa using sizeFrom?_eq_some_iff.mp starts
  match rest with
  | [] =>
      simpa [firstPiece, starts] using alone a [] cutShort
  | b :: rest =>
      by_cases fits : fitsSecond a b = true
      · have second := fitsSecond_iff.mp fits
        have secondContinues : isContinuation b = true :=
          isContinuation_iff.mpr second.1
        have brokenSecond (reason : Text) :
            FirstPiece a (b :: rest) (.stray [a, b] reason) :=
          .stray (by simp) (by simp [secondContinues])
        match rest with
        | [] =>
            simpa [firstPiece, starts, fits] using brokenSecond cutShort
        | d :: rest =>
            by_cases continues : isContinuation d = true
            · have brokenThird (reason : Text) :
                  FirstPiece a (b :: d :: rest) (.stray [a, b, d] reason) :=
                .stray (by simp) (by simp [secondContinues, continues])
              match rest with
              | [] =>
                  simpa [firstPiece, starts, fits, continues] using brokenThird cutShort
              | e :: rest =>
                  by_cases ends : isContinuation e = true
                  · have third := isContinuation_iff.mp continues
                    have fourth := isContinuation_iff.mp ends
                    have encoded :
                        encodeChar
                            (Char.ofNat
                              ((((a.toNat - 0xF0) * 0x40 + payload b) * 0x40 + payload d) * 0x40
                                + payload e)) =
                          [a, b, d, e] := by
                      refine encodeChar_eq_four_iff.mpr
                        ⟨starts, fits, continues, ends, toNat_ofNat (.inr ?_)⟩
                      simp only [payload]
                      omega
                    simpa [firstPiece, starts, fits, continues, ends] using
                      @FirstPiece.char a (b :: d :: e :: rest) _ _ encoded (by simp)
                  · simpa [firstPiece, starts, fits, continues, ends] using
                      brokenThird badContinuation
            · simpa [firstPiece, starts, fits, continues] using brokenSecond badContinuation
      · simpa [firstPiece, starts, fits] using alone a (b :: rest) badContinuation

end FirstPiece

/-- Every piece that is cut off is one of the two. -/
theorem firstPiece_spec
    (a : UInt8)
    (rest : List UInt8) :
    FirstPiece a rest (firstPiece a rest) := by
  cases starts : sizeFrom? a with
  | none =>
      simpa [firstPiece, starts] using FirstPiece.alone a rest badStart
  | some size =>
      rcases sizeFrom?_eq_some_iff.mp starts with
        ⟨rfl, range⟩ | ⟨rfl, range⟩ | ⟨rfl, range⟩ | ⟨rfl, range⟩
      · have encoded : encodeChar (Char.ofNat a.toNat) = [a] :=
          encodeChar_eq_one_iff.mpr ⟨starts, toNat_ofNat (.inl (by omega))⟩
        simpa [firstPiece, starts] using FirstPiece.char encoded rest.nil_prefix
      · exact .ofTwo starts rest
      · exact .ofThree starts rest
      · exact .ofFour starts rest

end Utf8

end LineTally
