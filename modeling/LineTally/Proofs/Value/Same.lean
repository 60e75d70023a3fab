import LineTally.Value.Basic

namespace LineTally.Value

/-!
# The same value

The comparison of values goes through them part by part.  It holds of equal values only, so
values can be told apart.
-/

mutual

/-- Values are the same exactly if they are equal. -/
theorem same_iff_eq :
    ∀ value other : Value, value.same other = true ↔ value = other
  | .list items, other => by
      cases other <;> simp [same, sameItems_iff_eq items]
  | .tuple items, other => by
      cases other <;> simp [same, sameItems_iff_eq items]
  | .set items, other => by
      cases other <;> simp [same, sameItems_iff_eq items]
  | .table entries, other => by
      cases other <;> simp [same, sameEntries_iff_eq entries]
  | .absent, other | .bool _, other | .integer _, other | .real _, other | .string _, other
  | .bytes _, other | .path _, other | .moment _ _, other => by
      cases other <;> simp [same]

/-- Rows of values are the same exactly if they are equal. -/
theorem sameItems_iff_eq :
    ∀ items others : List Value, sameItems items others = true ↔ items = others
  | [], others => by
      cases others <;> simp [sameItems]
  | item :: rest, others => by
      cases others <;> simp [sameItems, same_iff_eq item, sameItems_iff_eq rest]

/-- Rows of entries are the same exactly if they are equal. -/
theorem sameEntries_iff_eq :
    ∀ entries others : List (Text × Value), sameEntries entries others = true ↔ entries = others
  | [], others => by
      cases others <;> simp [sameEntries]
  | (key, value) :: rest, others => by
      cases others <;>
        simp [sameEntries, same_iff_eq value, sameEntries_iff_eq rest, Prod.ext_iff, and_assoc]

end

instance : LawfulBEq Value where
  eq_of_beq := (same_iff_eq _ _).mp
  rfl := (same_iff_eq _ _).mpr rfl

instance : DecidableEq Value :=
  instDecidableEqOfLawfulBEq

end LineTally.Value
