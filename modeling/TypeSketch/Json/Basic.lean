-- Documents: the values that a JSON text can hold. Entries of an object stay in
-- the order of the text.
import TypeSketch.Decimal.Basic
import TypeSketch.Entries

namespace TypeSketch

/-- A number of a document. Besides whole numbers and decimals a text may hold the marks for
an infinity and for no number. -/
inductive Number where
  | whole (n : Int)
  | decimal (d : Decimal)
  | infinity (negative : Bool)
  | nan
  deriving DecidableEq, Repr

/-- A document. -/
inductive Json where
  | null
  | bool (b : Bool)
  | num (n : Number)
  | str (s : String)
  | arr (items : List Json)
  | obj (entries : List (String × Json))
  deriving Repr, Inhabited

namespace Json

/-- The entries of an object. -/
def entries? : Json → Option (List (String × Json))
  | obj es => some es
  | _ => none

/-- The value under a key of an object. -/
def get? (k : String) : Json → Option Json
  | obj es => Entries.get? k es
  | _ => none

end Json

end TypeSketch
