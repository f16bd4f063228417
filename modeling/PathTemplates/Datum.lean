set_option autoImplicit false

/-! Data in the shape of a document: what settings and parameters are read from and written to. -/

namespace PathTemplates

-- A `real` is a number written with a fraction or an exponent, kept as written; it is never an integer.
inductive Datum where
  | null
  | bool (value : Bool)
  | int (value : Int)
  | real (written : String)
  | text (value : String)
  | list (items : List Datum)
  | record (fields : List (String × Datum))
  deriving Repr

end PathTemplates
