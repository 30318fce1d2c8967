import PrivacyAudit.Finding
import PrivacyAudit.Pattern.Compile
import PrivacyAudit.Pattern.Occurrence
import PrivacyAudit.Text.Ascii
import PrivacyAudit.Text.Lower

/-!
# Catalogs

A catalog names the files that it is for, by their extensions, and lists rules: a rule gives a file
a tag if the rule's pattern occurs in the file's text, whatever the case of the letters. Some rules
are for files of one name only. Catalogs are written with patterns as texts; they are checked rule
by rule, and the first faulty rule is reported.
-/

namespace PrivacyAudit

/-- A rule as it is written. -/
structure RuleText where
  category : Category
  tag : String
  pattern : String
  onlyIn? : Option String
  deriving DecidableEq, Repr

/-- A catalog as it is written. -/
structure CatalogText where
  name : String
  extensions : List String
  rules : List RuleText
  deriving DecidableEq, Repr

/-- A rule with its pattern. -/
structure Rule where
  category : Category
  tag : String
  pattern : Pattern
  onlyIn? : Option String
  deriving DecidableEq, Repr

/-- A catalog that was accepted. -/
structure Catalog where
  name : String
  extensions : List String
  rules : List Rule
  deriving DecidableEq, Repr

/-- A rule whose pattern is faulty. -/
structure InvalidRule where
  tag : String
  catalog : String
  fault : Pattern.Fault
  deriving DecidableEq, Repr

/-- What is wrong with a rule, in words. -/
def InvalidRule.message (r : InvalidRule) : String :=
  "invalid rule `" ++ r.tag ++ "` in catalog " ++ r.catalog

/-- The rule with its pattern, which ignores case. -/
def RuleText.compile (catalog : String) (r : RuleText) : Except InvalidRule Rule :=
  match Pattern.ofText? true r.pattern with
  | .ok pattern => .ok ⟨r.category, r.tag, pattern, r.onlyIn?⟩
  | .error fault => .error ⟨r.tag, catalog, fault⟩

/-- The rules with their patterns, or the first faulty one. -/
def compileRules (catalog : String) : List RuleText → Except InvalidRule (List Rule)
  | [] => .ok []
  | r :: rs => do
    let rule ← r.compile catalog
    let rules ← compileRules catalog rs
    return rule :: rules

/-- The catalog with its patterns. Extensions count in lower case. -/
def CatalogText.compile (c : CatalogText) : Except InvalidRule Catalog := do
  let rules ← compileRules c.name c.rules
  return ⟨c.name, c.extensions.map Text.lower, rules⟩

namespace Rule

/-- Whether the rule is for files of this name. -/
def isFor (r : Rule) (fileName : String) : Bool :=
  match r.onlyIn? with
  | none => true
  | some only => Text.equalIgnoringAsciiCase fileName only

/-- Whether the rule gives its tag to a text in a file of this name. -/
def fires (r : Rule) (fileName : String) (text : List Char) : Bool :=
  r.isFor fileName && r.pattern.occurs text

/-- The finding with the rule's tag, if the rule gives it. -/
def apply (r : Rule) (fileName : String) (text : List Char) (f : Finding) : Finding :=
  if r.fires fileName text then f.push r.category r.tag else f

end Rule

/-- The finding with the tags of all rules that give theirs to the text, in the order of the
rules. -/
def Catalog.apply (c : Catalog) (text : List Char) (path : Path) (f : Finding) : Finding :=
  let fileName := path.fileNameText
  c.rules.foldl (fun f r => r.apply fileName text f) f

end PrivacyAudit
