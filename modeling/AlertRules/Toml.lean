import AlertRules.Double.Floating

/-!
# TOML values

What a TOML document says: tables of named values. Instants are kept as their texts.
-/

namespace AlertRules

/-- A TOML value. -/
inductive Toml
  | string (s : String)
  | integer (n : Int)
  | float (f : Floating)
  | bool (b : Bool)
  | dateTime (text : String)
  | array (items : List Toml)
  | table (entries : List (String × Toml))

end AlertRules
