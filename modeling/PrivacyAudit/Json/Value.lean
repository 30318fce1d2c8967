/-!
# JSON values

A JSON text stands for a value. Numbers keep what tells them apart in a text: natural numbers,
negative integers and decimal fractions. Members of an object keep the order in which they are
written.
-/

namespace PrivacyAudit.Json

/-- A number as it is written. -/
inductive Number
  /-- A natural number of at most 64 bits. -/
  | natural (n : Nat)
  /-- The negative of a number, of at most 63 bits or exactly the least. -/
  | negative (n : Nat)
  /-- All other numbers: `mantissa` times the power of ten `exponent`. -/
  | decimal (mantissa exponent : Int)
  deriving DecidableEq, Repr

/-- A JSON value. -/
inductive Value
  | null
  | bool (b : Bool)
  | number (n : Number)
  | string (s : String)
  | array (items : List Value)
  | object (members : List (String × Value))
  deriving Repr, Inhabited

namespace Value

/-- A natural number as a value. -/
def natural (n : Nat) : Value := .number (.natural n)

/-- Texts as an array. -/
def strings (ss : List String) : Value := .array (ss.map .string)

/-- The text of a string. -/
def string? : Value → Option String
  | .string s => some s
  | _ => none

/-- The members of an object. -/
def members? : Value → Option (List (String × Value))
  | .object members => some members
  | _ => none

/-- The last member of a name. -/
def member? (members : List (String × Value)) (name : String) : Option Value :=
  (members.reverse.find? (·.1 == name)).map (·.2)

/-- The last member of a name, if the value is an object. -/
def get? (v : Value) (name : String) : Option Value := v.members?.bind (member? · name)

end Value

end PrivacyAudit.Json
