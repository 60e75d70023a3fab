import LineTally.Number.Double
import LineTally.Text.Basic

namespace LineTally

/-!
# JSON values

Whole numbers keep all their digits and are told apart from numbers with a
point or an exponent, which are doubles.  The entries of an object keep their
order.
-/

/-- A JSON value. -/
inductive Json where
  | null
  | bool (value : Bool)
  | integer (value : Int)
  | real (value : Double)
  | string (value : Text)
  | array (items : List Json)
  | object (entries : List (Text × Json))
  deriving Repr, BEq

namespace Json

/-- The value of the first entry with the given key. -/
def get?
    (key : Text) :
    Json → Option Json
  | .object entries => entries.lookup key
  | _ => none

end Json

end LineTally
