import PrivacyAudit.Toml.Reader

/-!
# TOML of a known type

What is read from a TOML text must fit what it is read as. Values are taken in the order of the
document, so of several misfits the first one counts; that a member is missing shows only when all
others have been taken.
-/

namespace PrivacyAudit.Toml

/-- How a value does not fit. -/
inductive Misfit
  | wrongType (found : Value) (expected : String)
  | outOfRange (found : Int) (expected : String)
  | missing (member : String)
  | tooShort (length : Nat) (expected : String)
  | unknownName (name : String) (known : List String)
  | neitherNameNorTable
  | noMember
  | severalMembers
  | tableNotEmpty
  | noTable (found : Value)
  deriving Repr

/-- The misfit in words. -/
def Misfit.message : Misfit → String
  | .wrongType found expected => "invalid type: " ++ found.description ++ ", expected " ++ expected
  | .outOfRange found expected =>
    "invalid value: " ++ (Value.integer found).description ++ ", expected " ++ expected
  | .missing member => "missing field `" ++ member ++ "`"
  | .tooShort length expected => "invalid length " ++ toString length ++ ", expected " ++ expected
  | .unknownName name known =>
    "unknown variant `" ++ name ++ "`, expected one of " ++
      ", ".intercalate (known.map fun k => "`" ++ k ++ "`")
  | .neitherNameNorTable => "wanted string or table"
  | .noMember => "wanted exactly 1 element, found 0 elements"
  | .severalMembers => "wanted exactly 1 element, more than 1 element"
  | .tableNotEmpty => "expected empty table"
  | .noTable found => "expected table, found " ++ found.typeName

/-- Why a text cannot be read as a value of the wanted type. -/
inductive Fault
  /-- The text is no TOML. -/
  | malformed
  | misfit (m : Misfit)
  deriving Repr

/-- Takes a value as one of a type. -/
abbrev Take (α : Type) := Value → Except Misfit α

/-- A text. -/
def takeText (expected : String) : Take String
  | .string s => .ok s
  | v => .error (.wrongType v expected)

/-- A truth value. -/
def takeBool : Take Bool
  | .boolean b => .ok b
  | v => .error (.wrongType v "a boolean")

/-- A natural number. -/
def takeNatural (expected : String) : Take Nat
  | .integer n => if 0 ≤ n then .ok n.toNat else .error (.outOfRange n expected)
  | v => .error (.wrongType v expected)

/-- The values of a list, one after the other. -/
def takeAll {α : Type} (take : Take α) : List Value → Except Misfit (List α)
  | [] => .ok []
  | v :: vs => do
    let x ← take v
    let xs ← takeAll take vs
    return x :: xs

/-- A list. -/
def takeList {α : Type} (take : Take α) : Take (List α)
  | .array items => takeAll take items
  | .tables elements => takeAll take (elements.map (.table .header))
  | v => .error (.wrongType v "a sequence")

/-- One of several names, or a table whose only member has such a name and is an empty table. -/
def takeChoice {α : Type} (known : List String) (choice? : String → Option α) : Take α
  | .string s => named s
  | .table _ [] => .error .noMember
  | .table _ [(name, v)] => do
    let x ← named name
    match v with
    | .table _ [] => return x
    | .table _ _ => throw .tableNotEmpty
    | v => throw (.noTable v)
  | .table _ _ => .error .severalMembers
  | _ => .error .neitherNameNorTable
where
  /-- The choice of a name. -/
  named (name : String) : Except Misfit α :=
    match choice? name with
    | some x => .ok x
    | none => .error (.unknownName name known)

/-- A text that is read as a table of which a record is made, member by member. -/
def readAs {α : Type} (take : Members → Except Misfit α) (text : String) : Except Fault α :=
  match read? text.toList with
  | none => .error .malformed
  | some ms => (take ms).mapError .misfit

end PrivacyAudit.Toml
