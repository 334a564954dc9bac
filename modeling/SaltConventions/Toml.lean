/-!
# TOML values

What a TOML document denotes. Floats keep their digits, and dates and times are kept as text in the
usual form, with `T` between date and time.
-/

namespace SaltConventions.Toml

/-- A TOML value. The members of a table have different names. -/
inductive Value where
  | string (text : String)
  | integer (value : Int)
  | float (digits : String)
  | boolean (value : Bool)
  | datetime (text : String)
  | array (items : List Value)
  | table (members : List (String × Value))
  deriving Repr, Inhabited

end SaltConventions.Toml
