import LineTally.Text.Spelling

namespace LineTally

/-!
# Spellings that are texts

A string is a text exactly if there is no half of a character in it.  It is encoded then as
this text, and it is not encoded otherwise.
-/

namespace Spelling

variable
  {spelling : Spelling}
  {text : Text}

/-- A string is a text exactly if it consists of its characters. -/
theorem text?_eq_some_iff :
    spelling.text? = some text ↔ spelling = ofText text := by
  induction spelling generalizing text with
  | nil =>
      cases text <;> simp [text?, ofText]
  | cons sign rest inductionHypothesis =>
      cases sign with
      | half number =>
          cases text <;> simp [text?, ofText]
      | char c =>
          simp only [text?, Option.map_eq_some_iff, inductionHypothesis]
          constructor
          · rintro ⟨others, rfl, rfl⟩
            rfl
          · intro isText
            cases text with
            | nil => cases isText
            | cons first others =>
                cases isText
                exact ⟨others, rfl, rfl⟩

/-- A string is no text exactly if there is half of a character in it. -/
theorem text?_eq_none_iff :
    spelling.text? = none ↔ ∃ number, .half number ∈ spelling := by
  induction spelling with
  | nil =>
      simp [text?]
  | cons sign rest inductionHypothesis =>
      cases sign with
      | half number => simp [text?]
      | char c => simp [text?, inductionHypothesis]

/-- A string that is a text is encoded as this text. -/
theorem encodeFrom_ofText
    (position : Nat)
    (text : Text) :
    encodeFrom position (ofText text) = .ok (Utf8.encode text) := by
  induction text generalizing position with
  | nil =>
      rfl
  | cons c rest inductionHypothesis =>
      rw [ofText, List.map_cons, encodeFrom, ← ofText, inductionHypothesis]
      rfl

/-- A string with half of a character in it is not encoded. -/
theorem exists_encodeFrom_eq_error
    (position : Nat)
    (noText : spelling.text? = none) :
    ∃ fault, encodeFrom position spelling = .error fault := by
  induction spelling generalizing position with
  | nil =>
      cases noText
  | cons sign rest inductionHypothesis =>
      cases sign with
      | half number =>
          exact ⟨_, rfl⟩
      | char c =>
          rw [text?, Option.map_eq_none_iff] at noText
          obtain ⟨fault, failed⟩ := inductionHypothesis (position + 1) noText
          exact ⟨fault, by rw [encodeFrom, failed]; rfl⟩

/-- A string that is put together of texts is the text that these make. -/
theorem ofText_append
    (first second : Text) :
    ofText (first ++ second) = ofText first ++ ofText second :=
  List.map_append

/-- The bytes of the name that a text spells are those of the text. -/
theorem diskBytes?_ofText
    (text : Text) :
    (ofText text).diskBytes? = some (Utf8.encode text) := by
  induction text with
  | nil =>
      rfl
  | cons c rest inductionHypothesis =>
      rw [ofText, List.map_cons, diskBytes?, ← ofText, inductionHypothesis]
      rfl

end Spelling

end LineTally
