import LineTally.Proofs.Charset.Ignoring
import LineTally.Proofs.Charset.Strict
import LineTally.Settings.Plan

namespace LineTally

/-!
# Known charsets

A name that the settings take as a charset is known when a file is read, too, and
the name of the charset of the surroundings is not among them.  What reading with
stray bytes left out does is then settled by the charset that the name stands for.
-/

namespace Counting

/-- Names of charsets in which only the NUL character has a zero byte. -/
def narrowCharsets : List Text :=
  ["utf-8".toList, "utf-8-sig".toList, "ascii".toList, "latin-1".toList, "cp1252".toList]

/-- Names of charsets with units of two bytes. -/
def wideCharsets : List Text :=
  ["utf-16".toList, "utf-16-le".toList, "utf-16-be".toList]

end Counting

namespace Charset

/--
Charsets of names that the results rely on.  Each lookup goes through the whole
registry, so they are made together.
-/
theorem lookups :
    ofName? "utf-8".toList = some .utf8 ∧
      ofName? "utf-16".toList = some .utf16 ∧
      ofName? localName = none ∧
      (∀ name ∈ Counting.narrowCharsets, (ofName? name).any isNarrow = true) ∧
      ∀ name ∈ Counting.wideCharsets, (ofName? name).any isWide = true := by
  decide +kernel

/-- A known name is not the one of the charset of the surroundings. -/
theorem ne_localName
    {name : Text}
    {charset : Charset}
    (known : ofName? name = some charset) :
    name ≠ localName := by
  rintro rfl
  rw [lookups.2.2.1] at known
  cases known

/-- A known name of a charset of text stands for the same charset when a file is read. -/
theorem ofTextName_of_ofName?
    {name : Text}
    {charset : Charset}
    (known : ofName? name = some charset)
    (isText : charset ≠ .transform) :
    ofTextName name = .ok charset := by
  rw [ofTextName, if_neg (ne_localName known), known]
  cases charset <;> first | rfl | exact (isText rfl).elim

/-- A known name of a charset that is none of text is refused when a file is read. -/
theorem ofTextName_of_transform
    {name : Text}
    (known : ofName? name = some .transform) :
    ofTextName name = .error (.notText name) := by
  rw [ofTextName, if_neg (ne_localName known), known]

/-- Under names without NUL, bytes are decoded by the charset and by the policy of these. -/
theorem decodeNamed_eq
    {name policy : Text}
    (noNul : '\x00' ∉ name)
    (policyNoNul : '\x00' ∉ policy)
    (bytes : List UInt8) :
    decodeNamed name policy bytes =
      (ofTextName name).bind (·.decode (.ofName policy) bytes) := by
  have noneOf {text : Text} (noNul : '\x00' ∉ text) : text.any (· = '\x00') = false := by
    rw [List.any_eq_false]
    rintro c member nul
    exact noNul (of_decide_eq_true nul ▸ member)
  rw [decodeNamed, noneOf noNul, noneOf policyNoNul]
  rfl

end Charset

namespace Settings

/-- The settings take a name exactly if it has no NUL and stands for a charset. -/
theorem isKnownCharset_iff
    {name : Text} :
    isKnownCharset name = .ok true ↔
      '\x00' ∉ name ∧ ∃ charset, Charset.ofName? name = some charset := by
  rw [isKnownCharset]
  split_ifs with nul
  · simp at nul
    simp [nul]
  · simp at nul
    simp [nul, Option.isSome_iff_exists]

end Settings

namespace Counting

/-- Stray bytes are left out when files are counted. -/
theorem ofName_strayPolicy : StrayPolicy.ofName strayPolicy = .ignore := by
  decide

/-- The bytes of a file that is counted are decoded by the charset, with stray ones left out. -/
theorem decodeNamed_strayPolicy
    {name : Text}
    (noNul : '\x00' ∉ name)
    (content : List UInt8) :
    Charset.decodeNamed name strayPolicy content =
      (Charset.ofTextName name).bind (·.decode .ignore content) := by
  rw [Charset.decodeNamed_eq noNul (by decide), ofName_strayPolicy]

end Counting

end LineTally
