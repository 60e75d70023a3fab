import LineTally.Proofs.Charset.Strict

namespace LineTally

/-!
# Text in UTF-8

Bytes are read strictly as a text exactly if they are the bytes of this text.  So what is
written in UTF-8 is read as it was, and bytes that are those of no text are a fault.
-/

namespace Utf8

/-- The bytes of a text are cut into its characters. -/
theorem pieces_encode
    (text : Text) :
    pieces (encode text) = text.map fun c => .char c (encodeChar c) := by
  induction text with
  | nil =>
      rfl
  | cons c rest inductionHypothesis =>
      obtain ⟨a, more, encoded⟩ :=
        List.exists_cons_of_length_pos (encodeChar_length c).1
      rw [encode] at inductionHypothesis
      rw [encode, List.flatMap_cons, encoded, List.cons_append, pieces, Piece.cut_cons,
        firstPiece_of_encodeChar encoded, List.map_cons, encoded, ← inductionHypothesis]
      simp [Piece.bytes, pieces]

end Utf8

namespace Charset

/-- Characters are settled as they are under every policy. -/
theorem settled_chars
    (policy : StrayPolicy)
    (codec : Text)
    (start : Nat)
    (text : Text) :
    (settled policy codec
        (Reading.partsOf start (text.map fun c => .char c (Utf8.encodeChar c)))).map
        Reading.textOf =
      .ok text := by
  induction text generalizing start with
  | nil =>
      rfl
  | cons c rest inductionHypothesis =>
      have later := inductionHypothesis (start + (Utf8.encodeChar c).length)
      rw [List.map_cons, Reading.partsOf, settled_cons_of_survives rfl]
      cases settles :
          settled policy codec
            (Reading.partsOf (start + (Utf8.encodeChar c).length)
              (rest.map fun c => .char c (Utf8.encodeChar c))) with
      | error fault =>
          rw [settles] at later
          cases later
      | ok parts =>
          rw [settles] at later
          have restText : Reading.textOf parts = rest := Except.ok.inj later
          simp [Except.map, Reading.textOf, restText]

/-- Bytes of which no piece is stray are those of the text that the pieces hold. -/
theorem eq_encode_of_settled
    {codec : Text}
    {start : Nat}
    {bytes : List UInt8}
    {parts : List Reading.Part}
    (settles : settled .strict codec (Reading.partsOf start (Utf8.pieces bytes)) = .ok parts) :
    bytes = Utf8.encode (Reading.textOf parts) := by
  match bytes with
  | [] =>
      cases settles
      rfl
  | b :: rest =>
      have spec := Utf8.firstPiece_spec b rest
      rw [Utf8.pieces, Piece.cut_cons] at settles
      generalize Utf8.firstPiece b rest = piece at spec settles
      cases spec with
      | @char c more encoded here =>
          obtain ⟨after, rfl⟩ := here
          simp only [Piece.bytes, List.length_cons, Nat.add_sub_cancel, List.drop_left,
            Reading.partsOf] at settles
          rw [settled_cons_of_survives rfl] at settles
          cases later :
              settled .strict codec
                (Reading.partsOf (start + (more.length + 1))
                  (Piece.cut Utf8.firstPiece after)) with
          | error fault =>
              rw [later] at settles
              cases settles
          | ok restParts =>
              rw [later] at settles
              cases settles
              have ofRest : after = Utf8.encode (Reading.textOf restParts) :=
                eq_encode_of_settled later
              rw [Utf8.encode] at ofRest
              rw [Reading.textOf, Utf8.encode, List.singleton_append, List.flatMap_cons, encoded,
                ← ofRest, List.cons_append]
      | stray =>
          cases settles
  termination_by bytes.length

/-- UTF-8 is read strictly from its pieces. -/
theorem decode_utf8_strict
    (bytes : List UInt8) :
    utf8.decode .strict bytes =
      (settled .strict "utf-8".toList (Reading.partsOf 0 (Utf8.pieces bytes))).map
        Reading.textOf := by
  have joins :
      joined .strict (utf8.reading .strict bytes) =
        (settled .strict "utf-8".toList (Reading.partsOf 0 (Utf8.pieces bytes))).map
          Reading.textOf :=
    rfl
  simp only [decode, refusal?, failWith, joins, markFault?]
  cases settled .strict "utf-8".toList (Reading.partsOf 0 (Utf8.pieces bytes)) <;> rfl

/-- Bytes are read strictly as a text in UTF-8 exactly if they are its bytes. -/
theorem decode_utf8_strict_iff
    {bytes : List UInt8}
    {text : Text} :
    utf8.decode .strict bytes = .ok text ↔ bytes = Utf8.encode text := by
  rw [decode_utf8_strict]
  constructor
  · intro read
    cases settles :
        settled .strict "utf-8".toList (Reading.partsOf 0 (Utf8.pieces bytes)) with
    | error fault =>
        rw [settles] at read
        cases read
    | ok parts =>
        rw [settles] at read
        cases read
        exact eq_encode_of_settled settles
  · rintro rfl
    rw [Utf8.pieces_encode]
    exact settled_chars _ _ _ _

end Charset

namespace Utf8

/-- A text is known from its bytes. -/
theorem encode_injective :
    Function.Injective encode := by
  intro text other same
  have read := Charset.decode_utf8_strict_iff.mpr (rfl : encode text = encode text)
  rw [Charset.decode_utf8_strict_iff.mpr same] at read
  exact (Except.ok.inj read).symm

end Utf8

end LineTally
