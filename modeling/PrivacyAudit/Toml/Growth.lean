import PrivacyAudit.Toml.Value

/-!
# How tables grow

A document is built line by line. A header opens a table, or one more element of an array of tables,
at the end of a way through tables; tables that are missing on the way are made. Every line below it
adds a member, perhaps at the end of a dotted key. No table is opened twice, no member is set twice,
and a dotted key adds only to tables that dotted keys made. An array of tables stands for its last
element on any way.
-/

namespace PrivacyAudit.Toml

/-- What is done to the table at the end of a way. -/
abbrev Change := Origin → Members → Option Members

/-- The members with a new value of a name that is there. -/
def Members.replace (ms : Members) (name : String) (v : Value) : Members :=
  ms.map fun (n, old) => (n, if n == name then v else old)

/-- The members without a name. -/
def Members.erase (ms : Members) (name : String) : Members := ms.filter (·.1 != name)

/-- Changes the table at the end of a way. The way of a dotted key may only lead through tables that
no header opened, and makes tables of its own kind. -/
def Members.descend (dotted : Bool) (change : Change) : (way : List String) → Change
  | [], origin, ms => change origin ms
  | name :: way, _, ms =>
    let made := if dotted then Origin.dotted else Origin.passed
    match List.lookup name ms with
    | none => do return ms ++ [(name, .table made (← descend dotted change way made []))]
    | some (.table origin inner) =>
      if origin = .braces ∨ dotted ∧ origin = .header then none
      else do return ms.replace name (.table origin (← descend dotted change way origin inner))
    | some (.tables elements) =>
      match elements.getLast? with
      | none => none
      | some last => do
        let last ← descend dotted change way .header last
        return ms.replace name (.tables (elements.dropLast ++ [last]))
    | some _ => none

/-- Adds a member behind a dotted key to a table. A table that the key leads to must have been made
by dotted keys. -/
def Members.add (way : List String) (name : String) (v : Value) : Change :=
  descend true (fun origin ms =>
    if (origin == .dotted) == way.isEmpty || (ms.lookup name).isSome then none
    else some (ms ++ [(name, v)])) way

/-- Opens a table of a name. A table that only stood on the way of headers may be opened later, and
then moves to the end. -/
def Members.openTable (name : String) : Change := fun _ ms =>
  match ms.lookup name with
  | none => some (ms ++ [(name, .table .header [])])
  | some (.table .passed inner) => some (ms.erase name ++ [(name, .table .header inner)])
  | some _ => none

/-- Opens one more element of an array of tables of a name. -/
def Members.openElement (name : String) : Change := fun _ ms =>
  match ms.lookup name with
  | none => some (ms ++ [(name, .tables [[]])])
  | some (.tables elements) => some (ms.replace name (.tables (elements ++ [[]])))
  | some _ => none

/-- A document as far as it has been read. -/
structure Draft where
  root : Members
  /-- The way to the table that lines add to. -/
  opened : List String
  deriving Repr

namespace Draft

/-- Nothing read yet. -/
def empty : Draft := ⟨[], []⟩

/-- The document with a member more in the table that is open. -/
def add (d : Draft) (key : List String) (v : Value) : Option Draft := do
  let name ← key.getLast?
  let root ← d.root.descend false (fun _ ms =>
      Members.add key.dropLast name v .header ms) d.opened .header
  return { d with root }

/-- The document with a table opened at the end of a way. -/
def openTable (d : Draft) (way : List String) : Option Draft := do
  let name ← way.getLast?
  return ⟨← d.root.descend false (Members.openTable name) way.dropLast .header, way⟩

/-- The document with one more element of an array of tables at the end of a way. -/
def openElement (d : Draft) (way : List String) : Option Draft := do
  let name ← way.getLast?
  return ⟨← d.root.descend false (Members.openElement name) way.dropLast .header, way⟩

end Draft

/-- The table between braces that keys and values make, one after the other. -/
def Members.ofPairs (pairs : List (List String × Value)) : Option Members :=
  pairs.foldlM (fun ms (key, v) => do Members.add key.dropLast (← key.getLast?) v .header ms) []

end PrivacyAudit.Toml
