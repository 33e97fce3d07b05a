/-!
What a document in TOML holds.
-/

set_option autoImplicit false

namespace WikiQuery.Toml

/-- A value of a document. Fractions are only known to be such, and points in time by their text. -/
inductive Value
  | text (s : String)
  | integer (n : Int)
  | fraction
  | bool (b : Bool)
  | time (s : String)
  | array (items : List Value)
  | table (members : List (String × Value))

/-- The name under which a point in time is a member of its own. -/
def timeKey : String := "$__toml_private_datetime"

/-- The members of a table. A point in time is a table with its text for the only member. -/
def Value.members? : Value → Option (List (String × Value))
  | table members => some members
  | time s => some [(timeKey, .text s)]
  | _ => none

end WikiQuery.Toml
