import PrivacyAudit.Category
import PrivacyAudit.Disk.Path

/-!
# Findings

What one detector found in one file: tags in each category, in the order in which they were found
and each once; the dependencies that the file declares; and for a page of markup the scripts, meta
elements and frames in it. A finding without any of these is no signal and is dropped before a
report is made.
-/

namespace PrivacyAudit

/-- A declared dependency. -/
structure Dependency where
  name : String
  version? : Option String
  deriving DecidableEq, Repr

/-- What a page of markup brings along. -/
structure HtmlAnalysis where
  externalScripts : List String
  metaTags : List String
  iframes : List String
  deriving DecidableEq, Repr

/-- Whether a page brings nothing along. -/
def HtmlAnalysis.isEmpty (h : HtmlAnalysis) : Bool :=
  h.externalScripts.isEmpty && h.metaTags.isEmpty && h.iframes.isEmpty

/-- What a detector found in a file. -/
structure Finding where
  detector : String
  path : Path
  permissions : List String
  apis : List String
  thirdPartyServices : List String
  thirdPartyLibs : List String
  dataCollection : List String
  storage : List String
  tracking : List String
  webApis : List String
  dependencies : List Dependency
  html? : Option HtmlAnalysis
  deriving DecidableEq, Repr

namespace Finding

/-- A finding of nothing. -/
def empty (detector : String) (path : Path) : Finding :=
  ⟨detector, path, [], [], [], [], [], [], [], [], [], none⟩

/-- The tags of a category. -/
def tags (f : Finding) : Category → List String
  | .permissions => f.permissions
  | .apis => f.apis
  | .thirdPartyServices => f.thirdPartyServices
  | .thirdPartyLibs => f.thirdPartyLibs
  | .dataCollection => f.dataCollection
  | .storage => f.storage
  | .tracking => f.tracking
  | .webApis => f.webApis

/-- The finding with other tags in a category. -/
def setTags (f : Finding) (c : Category) (ts : List String) : Finding :=
  match c with
  | .permissions => { f with permissions := ts }
  | .apis => { f with apis := ts }
  | .thirdPartyServices => { f with thirdPartyServices := ts }
  | .thirdPartyLibs => { f with thirdPartyLibs := ts }
  | .dataCollection => { f with dataCollection := ts }
  | .storage => { f with storage := ts }
  | .tracking => { f with tracking := ts }
  | .webApis => { f with webApis := ts }

/-- A list with a tag at its end, unless the tag is in it. -/
def withTag (ts : List String) (tag : String) : List String :=
  if ts.contains tag then ts else ts ++ [tag]

/-- The finding with one more tag in a category. -/
def push (f : Finding) (c : Category) (tag : String) : Finding :=
  f.setTags c (withTag (f.tags c) tag)

/-- Whether anything was found. -/
def hasSignal (f : Finding) : Bool :=
  Category.all.any (fun c => !(f.tags c).isEmpty) || !f.dependencies.isEmpty ||
    f.html?.any (!·.isEmpty)

@[simp] theorem tags_setTags_self (f : Finding) (c : Category) (ts : List String) :
    (f.setTags c ts).tags c = ts := by
  cases c <;> rfl

theorem tags_setTags_of_ne (f : Finding) {c d : Category} (ts : List String) (h : d ≠ c) :
    (f.setTags c ts).tags d = f.tags d := by
  cases c <;> cases d <;> first | rfl | exact absurd rfl h

@[simp] theorem mem_withTag {ts : List String} {tag t : String} :
    t ∈ withTag ts tag ↔ t ∈ ts ∨ t = tag := by
  unfold withTag
  split
  · rename_i h
    have h : tag ∈ ts := by simpa using h
    exact ⟨Or.inl, fun h' => h'.elim id fun e => e ▸ h⟩
  · simp

end Finding

end PrivacyAudit
