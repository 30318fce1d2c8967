import PrivacyAudit.Numeral.Shortest
import PrivacyAudit.Text.Visible

/-!
# TOML values

A TOML text stands for a table. A table remembers how it came to be, for that decides what may still
be added to it; the elements of an array of tables are tables that were opened by a header. Members
keep the order in which they were put in. Of a date only that it is one is of interest here.
-/

namespace PrivacyAudit.Toml

/-- How a table came to be. -/
inductive Origin
  /-- A header opened it. -/
  | header
  /-- It stands on the way of a header to another table. -/
  | passed
  /-- It stands on the way of a dotted key. -/
  | dotted
  /-- It is written between braces. -/
  | braces
  deriving DecidableEq, Repr

/-- A TOML value. -/
inductive Value
  | string (s : String)
  | integer (n : Int)
  | float (x : Numeral.Double)
  | boolean (b : Bool)
  | date
  | array (items : List Value)
  | table (origin : Origin) (members : List (String × Value))
  /-- An array of tables, each opened by a header. -/
  | tables (elements : List (List (String × Value)))
  deriving Repr, Inhabited

/-- The members of a table. -/
abbrev Members := List (String × Value)

/-- The name of a value's type. -/
def Value.typeName : Value → String
  | .string _ => "string"
  | .integer _ => "integer"
  | .float _ => "float"
  | .boolean _ => "boolean"
  | .date => "datetime"
  | .array _ => "array"
  | .table .braces _ => "inline table"
  | .table _ _ => "table"
  | .tables _ => "array of tables"

/-- A value as a message speaks of it: scalars are shown, of all others only the shape. -/
def Value.description : Value → String
  | .string s => "string " ++ Text.quoted s
  | .integer n => "integer `" ++ toString n ++ "`"
  | .float x => "floating point `" ++ x.text ++ "`"
  | .boolean b => "boolean `" ++ (if b then "true" else "false") ++ "`"
  | .array _ | .tables _ => "sequence"
  | .date | .table _ _ => "map"

end PrivacyAudit.Toml
