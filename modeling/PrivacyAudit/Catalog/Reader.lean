import PrivacyAudit.Catalog.Basic
import PrivacyAudit.Toml.Typed

/-!
# Catalogs in TOML

A catalog is written in TOML: its name, the extensions, and the rules as an array of tables or of
tuples. Members of other names are passed over.
-/

namespace PrivacyAudit

open Toml (Misfit Members Value takeText takeList takeChoice)

/-- A category by its name. -/
def takeCategory : Toml.Take Category :=
  takeChoice (Category.all.map Category.name) Category.ofName?

/-! ## 1. Rules -/

/-- The members of a rule that have been read so far. -/
structure RuleMembers where
  category? : Option Category
  tag? : Option String
  pattern? : Option String
  onlyIn? : Option String

namespace RuleMembers

/-- No members yet. -/
def none : RuleMembers := ⟨.none, .none, .none, .none⟩

/-- One more member. -/
def add (m : RuleMembers) : String × Value → Except Misfit RuleMembers
  | ("category", v) => do return { m with category? := some (← takeCategory v) }
  | ("tag", v) => do return { m with tag? := some (← takeText "a string" v) }
  | ("pattern", v) => do return { m with pattern? := some (← takeText "a string" v) }
  | ("only_in", v) => do return { m with onlyIn? := some (← takeText "a string" v) }
  | _ => .ok m

/-- The rule that the members make. -/
def rule (m : RuleMembers) : Except Misfit RuleText :=
  match m.category?, m.tag?, m.pattern? with
  | some category, some tag, some pattern => .ok ⟨category, tag, pattern, m.onlyIn?⟩
  | .none, _, _ => .error (.missing "category")
  | _, .none, _ => .error (.missing "tag")
  | _, _, .none => .error (.missing "pattern")

end RuleMembers

/-- What a list that is too short for a rule is told. -/
def ruleLength : String := "struct RuleEntry with 4 elements"

/-- A rule as a list: category, tag, pattern and perhaps the name of the files. -/
def takeRuleItems : List Value → Except Misfit RuleText
  | [] => .error (.tooShort 0 ruleLength)
  | c :: rest => do
    let category ← takeCategory c
    match rest with
    | [] => throw (.tooShort 1 ruleLength)
    | t :: rest =>
      let tag ← takeText "a string" t
      match rest with
      | [] => throw (.tooShort 2 ruleLength)
      | p :: rest =>
        let pattern ← takeText "a string" p
        let onlyIn? ← rest.head?.mapM (takeText "a string")
        return ⟨category, tag, pattern, onlyIn?⟩

/-- A rule. A date counts as a table without any member that is known. -/
def takeRule : Toml.Take RuleText
  | .table _ members => do (← members.foldlM RuleMembers.add .none).rule
  | .date => RuleMembers.none.rule
  | .array items => takeRuleItems items
  | .tables elements => takeRuleItems (elements.map (.table .header))
  | v => .error (.wrongType v "struct RuleEntry")

/-! ## 2. Catalogs -/

/-- The members of a catalog that have been read so far. -/
structure CatalogMembers where
  name? : Option String
  extensions : List String
  rules : List RuleText

/-- One more member. -/
def CatalogMembers.add (m : CatalogMembers) : String × Value → Except Misfit CatalogMembers
  | ("name", v) => do return { m with name? := some (← takeText "a string" v) }
  | ("extensions", v) => do return { m with extensions := ← takeList (takeText "a string") v }
  | ("rules", v) => do return { m with rules := ← takeList takeRule v }
  | _ => .ok m

/-- The catalog that the members of a document make. -/
def takeCatalog (members : Members) : Except Misfit CatalogText := do
  let m ← members.foldlM CatalogMembers.add ⟨none, [], []⟩
  match m.name? with
  | some name => return ⟨name, m.extensions, m.rules⟩
  | none => throw (.missing "name")

/-- The catalog that a TOML text spells out. -/
def CatalogText.read (text : String) : Except Toml.Fault CatalogText := Toml.readAs takeCatalog text

end PrivacyAudit
