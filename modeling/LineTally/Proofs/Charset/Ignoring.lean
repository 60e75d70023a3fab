import LineTally.Proofs.Charset.Legible
import LineTally.Run.Counting
import Mathlib.Data.List.DropRight

namespace LineTally

/-!
# Decoding with stray bytes left out

With stray bytes left out there is hardly a way in which decoding can fail: the
charset may not take the policy, it may miss a byte-order mark, or it may read
some of its bytes strictly all the same.  This module says exactly when one of
these happens, for every charset, and which text UTF-8 gives, which never fails.
-/

namespace Reading.Part

/-- A part that is still there when stray bytes and empty texts are left out. -/
def survives :
    Part → Bool
  | .text chars => !chars.isEmpty
  | .half _ => true
  | .stray _ _ _ => false

end Reading.Part

namespace Piece

/-- What holds of the piece that starts with any byte holds of every piece that is cut. -/
theorem forall_mem_cut
    {first : UInt8 → List UInt8 → Piece}
    {property : Piece → Prop}
    (ofFirst : ∀ a rest, property (first a rest))
    (bytes : List UInt8) :
    ∀ piece ∈ cut first bytes, property piece := by
  match bytes with
  | [] =>
      intro piece member
      cases member
  | a :: rest =>
      intro piece member
      rw [cut_cons] at member
      rcases List.mem_cons.mp member with rfl | later
      · exact ofFirst a rest
      · exact forall_mem_cut ofFirst _ piece later
  termination_by bytes.length
  decreasing_by
    simp only [List.length_drop, List.length_cons]
    omega

end Piece

namespace Charset

/-- If stray bytes are left out, no part is a fault. -/
theorem settled_ignore
    (codec : Text)
    (parts : List Reading.Part) :
    settled .ignore codec parts = .ok (parts.filter Reading.Part.survives) := by
  induction parts with
  | nil =>
      rfl
  | cons part rest inductionHypothesis =>
      cases part with
      | text chars =>
          cases chars with
          | nil =>
              simpa [settled, List.filter_cons, Reading.Part.survives] using inductionHypothesis
          | cons c chars =>
              rw [settled, inductionHypothesis]
              · rfl
              all_goals simp
      | half unit =>
          rw [settled, inductionHypothesis]
          · rfl
          all_goals simp
      | stray start bytes reason =>
          rw [settled, inductionHypothesis]
          rfl

/-- If stray bytes are left out, every reading has a text. -/
theorem joined_ignore
    (reading : Reading) :
    joined .ignore reading =
      .ok (Reading.textOf (reading.parts.filter Reading.Part.survives)) := by
  rw [joined, settled_ignore]
  rfl

/-- The text of pieces without halves of characters is what the pieces hold. -/
theorem textOf_partsOf
    {pieces : List Piece}
    (noHalves : ∀ piece ∈ pieces, ∀ units bytes, piece ≠ .halves units bytes)
    (start : Nat) :
    Reading.textOf ((Reading.partsOf start pieces).filter Reading.Part.survives) =
      pieces.flatMap fun piece => piece.text?.getD [] := by
  induction pieces generalizing start with
  | nil =>
      rfl
  | cons piece rest inductionHypothesis =>
      have later :=
        inductionHypothesis fun piece member => noHalves piece (by simp [member])
      cases piece with
      | text chars bytes =>
          cases chars <;>
            simp [Reading.partsOf, Reading.Part.survives, Reading.textOf, Piece.text?, later]
      | halves units bytes =>
          exact (noHalves _ (by simp) units bytes rfl).elim
      | stray bytes reason =>
          simp [Reading.partsOf, Reading.Part.survives, Piece.text?, later]

/-- UTF-8 with stray bytes left out gives the legible text, whatever the bytes are. -/
theorem decode_utf8_ignore
    (bytes : List UInt8) :
    utf8.decode .ignore bytes = .ok (Utf8.legible bytes) := by
  have noHalves :
      ∀ piece ∈ Piece.cut Utf8.firstPiece bytes,
        ∀ units bytes, piece ≠ .halves units bytes := by
    apply Piece.forall_mem_cut
    intro a rest units bytes same
    have spec := Utf8.firstPiece_spec a rest
    rw [same] at spec
    cases spec
  have text := textOf_partsOf noHalves 0
  simp [decode, refusal?, failWith, joined_ignore, reading, utf8Reading, piecesUnder,
    Reading.ofPieces, text, markFault?, Utf8.legible, Utf8.pieces, bind, Except.bind,
    pure, Except.pure]

/--
Bytes on which a charset fails although stray ones are left out: a byte-order mark
is missing, the digits of Punycode are not ASCII, or the charset never takes this
policy or any text at all.
-/
def Refuses :
    Charset → List UInt8 → Prop
  | .utf16, bytes =>
      2 ≤ bytes.length ∧ ¬ [0xFF, 0xFE] <+: bytes ∧ ¬ [0xFE, 0xFF] <+: bytes
  | .utf32, bytes =>
      4 ≤ bytes.length ∧
        ¬ [0xFF, 0xFE, 0x00, 0x00] <+: bytes ∧ ¬ [0x00, 0x00, 0xFE, 0xFF] <+: bytes
  | .punycode, bytes => ∃ b ∈ bytes.rtakeWhile (· ≠ 0x2D), 0x80 ≤ b
  | .domainNames, _ => True
  | .refusing, _ => True
  | _, _ => False

/-- Two-byte units miss a mark exactly if there is a unit and it is none. -/
theorem markFault?_utf16
    (bytes : List UInt8) :
    markFault? .utf16 bytes =
      if 2 ≤ bytes.length ∧ ¬ [0xFF, 0xFE] <+: bytes ∧ ¬ [0xFE, 0xFF] <+: bytes then
        some (.noByteOrder "UTF-16".toList)
      else
        none := by
  match bytes with
  | [] =>
      simp [markFault?]
  | [a] =>
      simp [markFault?]
  | a :: b :: rest =>
      by_cases low : a = 0xFF ∧ b = 0xFE
      · obtain ⟨rfl, rfl⟩ := low
        simp [markFault?]
      by_cases high : a = 0xFE ∧ b = 0xFF
      · obtain ⟨rfl, rfl⟩ := high
        simp [markFault?]
      have missed :
          markFault? .utf16 (a :: b :: rest) = some (.noByteOrder "UTF-16".toList) := by
        rw [markFault?]
        · exact fun first second => low ⟨first, second⟩
        · exact fun first second => high ⟨first, second⟩
      rw [missed, if_pos]
      simp only [List.cons_prefix_cons, List.nil_prefix, and_true]
      exact ⟨by simp, fun same => low ⟨same.1.symm, same.2.symm⟩,
        fun same => high ⟨same.1.symm, same.2.symm⟩⟩

/-- Four-byte units miss a mark exactly if there is a unit and it is none. -/
theorem markFault?_utf32
    (bytes : List UInt8) :
    markFault? .utf32 bytes =
      if 4 ≤ bytes.length ∧
          ¬ [0xFF, 0xFE, 0x00, 0x00] <+: bytes ∧ ¬ [0x00, 0x00, 0xFE, 0xFF] <+: bytes then
        some (.noByteOrder "UTF-32".toList)
      else
        none := by
  match bytes with
  | [] =>
      simp [markFault?]
  | [a] =>
      simp [markFault?]
  | [a, b] =>
      simp [markFault?]
  | [a, b, c] =>
      simp [markFault?]
  | a :: b :: c :: d :: rest =>
      by_cases low : a = 0xFF ∧ b = 0xFE ∧ c = 0x00 ∧ d = 0x00
      · obtain ⟨rfl, rfl, rfl, rfl⟩ := low
        simp [markFault?]
      by_cases high : a = 0x00 ∧ b = 0x00 ∧ c = 0xFE ∧ d = 0xFF
      · obtain ⟨rfl, rfl, rfl, rfl⟩ := high
        simp [markFault?]
      have missed :
          markFault? .utf32 (a :: b :: c :: d :: rest) =
            some (.noByteOrder "UTF-32".toList) := by
        rw [markFault?]
        · exact fun first second third fourth => low ⟨first, second, third, fourth⟩
        · exact fun first second third fourth => high ⟨first, second, third, fourth⟩
      rw [missed, if_pos]
      simp only [List.cons_prefix_cons, List.nil_prefix, and_true]
      exact ⟨by simp,
        fun same => low ⟨same.1.symm, same.2.1.symm, same.2.2.1.symm, same.2.2.2.symm⟩,
        fun same => high ⟨same.1.symm, same.2.1.symm, same.2.2.1.symm, same.2.2.2.symm⟩⟩

/-- Reading ASCII strictly: every byte has to be below 128, or the first that is not is a fault. -/
theorem settled_ascii_strict
    (codec reason : Text)
    (start : Nat)
    (bytes : List UInt8) :
    (∃ parts,
      settled .strict codec
          (Reading.partsOf start (Piece.cut (asciiBased (fun _ => none) reason) bytes)) =
        .ok parts ∧
      ∀ b ∈ bytes, b < 0x80) ∨
    (∃ place b,
      settled .strict codec
          (Reading.partsOf start (Piece.cut (asciiBased (fun _ => none) reason) bytes)) =
        .error (.stray codec place [b] reason) ∧
      b ∈ bytes ∧ 0x80 ≤ b) := by
  induction bytes generalizing start with
  | nil =>
      exact .inl ⟨[], rfl, by simp⟩
  | cons b rest inductionHypothesis =>
      rw [Piece.cut_cons]
      by_cases ascii : b < 0x80
      · have small : b.toNat < 0x80 := UInt8.lt_iff_toNat_lt.mp ascii
        have first :
            asciiBased (fun _ => none) reason b rest = .char (Char.ofNat b.toNat) [b] := by
          simp [asciiBased, small]
        have cons (result : Except DecodeFault (List Reading.Part))
            (later :
              settled .strict codec
                  (Reading.partsOf (start + 1)
                    (Piece.cut (asciiBased (fun _ => none) reason) rest)) =
                result) :
            settled .strict codec
                (Reading.partsOf start
                  (.char (Char.ofNat b.toNat) [b] ::
                    Piece.cut (asciiBased (fun _ => none) reason) rest)) =
              result.map (.text [Char.ofNat b.toNat] :: ·) := by
          rw [Reading.partsOf, List.length_singleton, settled, later]
          · cases result <;> rfl
          all_goals simp
        rw [first]
        simp only [Piece.bytes, List.length_singleton, Nat.sub_self, List.drop_zero]
        rcases inductionHypothesis (start + 1) with
          ⟨parts, later, restAscii⟩ | ⟨place, stray, later, member, high⟩
        · exact .inl ⟨_, cons _ later, by simpa [ascii] using restAscii⟩
        · exact .inr ⟨place, stray, cons _ later, by simp [member], high⟩
      · have large : ¬ b.toNat < 0x80 :=
          fun small => ascii (UInt8.lt_iff_toNat_lt.mpr small)
        have first :
            asciiBased (fun _ => none) reason b rest = .stray [b] reason := by
          simp [asciiBased, large]
        rw [first]
        exact .inr ⟨start, b, rfl, by simp, UInt8.not_lt.mp ascii⟩

/-- A reader of Punycode that is not strict never fails. -/
theorem read_lenient
    (base digits : Text) :
    ∃ codes, Punycode.read false base digits = .ok codes := by
  rw [Punycode.read]
  rcases Punycode.readFrom false { codes := base.map Char.toNat } digits with
    ⟨codes, fault | fault⟩
  · exact ⟨codes, rfl⟩
  · exact ⟨codes, rfl⟩

/-- Punycode with stray bytes left out fails exactly if its digits are not ASCII. -/
theorem decodePunycode_ignore
    (bytes : List UInt8) :
    (∃ text, decodePunycode .ignore bytes = .ok text ∧ ¬ Refuses .punycode bytes) ∨
      (∃ fault, decodePunycode .ignore bytes = .error fault ∧
        Counting.isUnreadable fault = false ∧ Refuses .punycode bytes) := by
  have digits :=
    settled_ascii_strict "ascii".toList "ordinal not in range(128)".toList 0
      (bytes.rtakeWhile (· ≠ 0x2D))
  rcases digits with ⟨parts, strict, ascii⟩ | ⟨place, b, strict, member, high⟩
  · left
    obtain ⟨codes, lenient⟩ :=
      read_lenient
        (Reading.textOf
          ((reading .ascii .ignore
            (bytes.take (bytes.length - (bytes.rtakeWhile (· ≠ 0x2D)).length - 1))).parts.filter
              Reading.Part.survives))
        (Reading.textOf parts)
    refine ⟨Reading.textOf (codes.map Reading.partOfCode), ?_, ?_⟩
    · simp only [List.rtakeWhile] at strict lenient
      rw [decodePunycode, joined_ignore]
      simp only [joined, reading, byteReading, Reading.ofPieces] at lenient ⊢
      simp only [strict, bind, Except.bind, Except.map, pure, Except.pure]
      have notStrict : decide (StrayPolicy.ignore = StrayPolicy.strict) = false := rfl
      rw [notStrict, lenient]
      rfl
    · rintro ⟨b, member, high⟩
      exact UInt8.not_lt.mpr high (ascii b member)
  · right
    refine ⟨.stray "ascii".toList place [b] "ordinal not in range(128)".toList, ?_, rfl,
      b, member, high⟩
    simp only [List.rtakeWhile] at strict
    rw [decodePunycode, joined_ignore]
    simp only [joined, reading, byteReading, Reading.ofPieces]
    simp only [strict, bind, Except.bind, Except.map]

/--
A charset that takes the policy, misses no mark and has no decoder of its own gives a
text if stray bytes are left out.
-/
theorem decode_ignore_plain
    {charset : Charset}
    {bytes : List UInt8}
    (taken : refusal? charset .ignore = none)
    (notDigits : charset ≠ .punycode)
    (notName : charset ≠ .domainNames)
    (marked : markFault? charset bytes = none)
    (notRefused : ¬ Refuses charset bytes) :
    ∃ text, charset.decode .ignore bytes = .ok text ∧ ¬ Refuses charset bytes := by
  refine
    ⟨Reading.textOf ((charset.reading .ignore bytes).parts.filter Reading.Part.survives),
      ?_, notRefused⟩
  rw [decode, taken]
  · simp only [joined_ignore, marked, failWith, bind, Except.bind, pure, Except.pure]
  · exact notDigits
  · exact notName

/--
Unless it is no charset of text at all, a charset fails on exactly the bytes that it
refuses, if stray ones are left out, and never with a fault that a reader takes for
an unreadable file.
-/
theorem decode_ignore
    {charset : Charset}
    (isText : charset ≠ .transform)
    (bytes : List UInt8) :
    (∃ text, charset.decode .ignore bytes = .ok text ∧ ¬ Refuses charset bytes) ∨
      (∃ fault, charset.decode .ignore bytes = .error fault ∧
        Counting.isUnreadable fault = false ∧ Refuses charset bytes) := by
  cases charset with
  | punycode =>
      exact decodePunycode_ignore bytes
  | utf16 =>
      simp only [decode, refusal?, failWith, joined_ignore, bind, Except.bind,
        markFault?_utf16]
      split_ifs with missed
      · exact .inr ⟨_, rfl, rfl, missed⟩
      · exact .inl ⟨_, rfl, missed⟩
  | utf32 =>
      simp only [decode, refusal?, failWith, joined_ignore, bind, Except.bind,
        markFault?_utf32]
      split_ifs with missed
      · exact .inr ⟨_, rfl, rfl, missed⟩
      · exact .inl ⟨_, rfl, missed⟩
  | domainNames =>
      exact .inr ⟨_, rfl, rfl, trivial⟩
  | refusing =>
      exact .inr ⟨_, rfl, rfl, trivial⟩
  | transform =>
      exact (isText rfl).elim
  | _ =>
      exact .inl (decode_ignore_plain rfl nofun nofun rfl not_false)

/-- Stray bytes are all that can be wrong with parts that are read strictly. -/
theorem settled_strict_error
    {codec : Text}
    {parts : List Reading.Part}
    {fault : DecodeFault}
    (failed : settled .strict codec parts = .error fault) :
    ∃ start bytes reason, fault = .stray codec start bytes reason := by
  induction parts with
  | nil =>
      cases failed
  | cons part rest inductionHypothesis =>
      cases part with
      | stray start bytes reason =>
          cases failed
          exact ⟨start, bytes, reason, rfl⟩
      | half unit =>
          rw [settled] at failed
          · cases later : settled .strict codec rest <;> rw [later] at failed <;> cases failed
            exact inductionHypothesis later
          all_goals simp
      | text chars =>
          cases chars with
          | nil =>
              exact inductionHypothesis failed
          | cons c chars =>
              rw [settled] at failed
              · cases later : settled .strict codec rest <;> rw [later] at failed <;> cases failed
                exact inductionHypothesis later
              all_goals simp

/-- Punycode does not fail for the sake of a policy for encoding. -/
theorem decodePunycode_ne_policyForEncoding
    {bytes : List UInt8}
    {fault : DecodeFault}
    (failed : decodePunycode .ignore bytes = .error fault) :
    fault ≠ .policyForEncoding := by
  rw [decodePunycode, joined_ignore] at failed
  simp only [bind, Except.bind] at failed
  split at failed
  next other digits =>
    cases failed
    rw [joined] at digits
    cases settledDigits : settled .strict
        (reading .ascii .strict (bytes.reverse.takeWhile (· ≠ 0x2D)).reverse).codec
        (reading .ascii .strict (bytes.reverse.takeWhile (· ≠ 0x2D)).reverse).parts with
    | error found =>
        obtain ⟨start, stray, reason, rfl⟩ := settled_strict_error settledDigits
        rw [settledDigits] at digits
        cases digits
        nofun
    | ok parts =>
        rw [settledDigits] at digits
        cases digits
  next digits =>
    split at failed
    next other codes =>
      cases failed
      generalize Punycode.read _ _ _ = read at codes
      cases read <;> cases codes
      nofun
    next =>
      cases failed

/-- With stray bytes left out no charset fails for the sake of a policy for encoding. -/
theorem decode_ignore_ne_policyForEncoding
    {charset : Charset}
    {bytes : List UInt8}
    {fault : DecodeFault}
    (failed : charset.decode .ignore bytes = .error fault) :
    fault ≠ .policyForEncoding := by
  by_cases isText : charset = .transform
  · subst isText
    cases failed
    nofun
  rcases decode_ignore isText bytes with ⟨text, decoded, -⟩ | ⟨other, -, -, refuses⟩
  · cases failed.symm.trans decoded
  cases charset with
  | punycode =>
      exact decodePunycode_ne_policyForEncoding failed
  | utf16 =>
      simp only [decode, refusal?, failWith, joined_ignore, bind, Except.bind,
        markFault?_utf16] at failed
      split_ifs at failed with missed
      · cases failed
        nofun
      · exact (missed refuses).elim
  | utf32 =>
      simp only [decode, refusal?, failWith, joined_ignore, bind, Except.bind,
        markFault?_utf32] at failed
      split_ifs at failed with missed
      · cases failed
        nofun
      · exact (missed refuses).elim
  | domainNames | refusing =>
      cases failed
      nofun
  | _ =>
      cases refuses

end Charset

end LineTally
