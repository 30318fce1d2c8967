import Mathlib.Data.List.Sort
import PrivacyAudit.Risk

/-!
# What a merge keeps

`Merged.ofFindings` folds findings one by one into sets and lists. This file says what comes out of
the fold, without the fold:

* `mem_set_ofFindings`, `mem_assets_ofFindings`: a merged set holds exactly the texts that some
  finding holds in a category that joins it;
* `detectors_ofFindings`, `dependencies_ofFindings`: the two lists are the findings' own, one after
  the other;
* `SameSets.ofFindings_perm`: so the order of the findings shows in the two lists only, and not in
  the summary (`SameSets.summary`).
-/

namespace PrivacyAudit

open Text (Before)

/-! ## 1. Sets of tags -/

namespace TagSet

instance : Std.Irrefl Before := ⟨Before.irrefl⟩

instance : Std.Antisymm Before :=
  ⟨fun s _ h h' => absurd (h.trans h') (Before.irrefl s)⟩

/-- A set is determined by its members: both lists ascend. -/
theorem ext_mem {s s' : TagSet} (h : ∀ t, t ∈ s ↔ t ∈ s') : s = s' := by
  obtain ⟨l, hl⟩ := s
  obtain ⟨l', hl'⟩ := s'
  have hll : l = l' := hl.eq_of_mem_iff hl' fun {t} => h t
  subst hll
  rfl

theorem insertAll_append (s : TagSet) (ts us : List String) :
    (s.insertAll ts).insertAll us = s.insertAll (ts ++ us) := by
  unfold insertAll
  rw [List.foldl_append]

/-- A fold that inserts what `tagsOf` says of each member collects all of it. -/
theorem mem_of_foldl {α β : Type} {step : β → α → β} (view : β → TagSet) {tagsOf : α → List String}
    (hstep : ∀ b a, view (step b a) = (view b).insertAll (tagsOf a)) (as : List α) (b : β)
    (t : String) : t ∈ view (as.foldl step b) ↔ t ∈ view b ∨ ∃ a ∈ as, t ∈ tagsOf a := by
  induction as generalizing b with
  | nil => simp
  | cons a as ih =>
    rw [List.foldl_cons, ih, hstep, mem_insertAll]
    simp only [List.mem_cons, exists_eq_or_imp]
    constructor
    · rintro ((h | h) | h)
      · exact .inr (.inl h)
      · exact .inl h
      · exact .inr (.inr h)
    · rintro (h | h | h)
      · exact .inl (.inr h)
      · exact .inl (.inl h)
      · exact .inr h

end TagSet

/-! ## 2. The parts of a merge -/

/-- The lists that a page of markup brings along. -/
inductive PagePart
  | externalScripts
  | metaTags
  | iframes
  deriving DecidableEq, Repr

/-- The texts of a part of a page. -/
def HtmlAnalysis.part (h : HtmlAnalysis) : PagePart → List String
  | .externalScripts => h.externalScripts
  | .metaTags => h.metaTags
  | .iframes => h.iframes

/-- The texts of a part of all pages. -/
def HtmlAssets.part (a : HtmlAssets) : PagePart → TagSet
  | .externalScripts => a.externalScripts
  | .metaTags => a.metaTags
  | .iframes => a.iframes

/-- The tags of a finding that join a category when findings are merged: those of libraries join the
third-party services. -/
def Finding.joining (f : Finding) : Category → List String
  | .thirdPartyServices | .thirdPartyLibs => f.thirdPartyServices ++ f.thirdPartyLibs
  | c => f.tags c

/-- The texts of a part of a finding's page, none if it is of no page. -/
def Finding.pagePart (f : Finding) (p : PagePart) : List String := (f.html?.map (·.part p)).getD []

namespace Merged

/-- The set that the tags of a category are merged into. -/
def set (m : Merged) : Category → TagSet
  | .permissions => m.permissions
  | .apis => m.apis
  | .thirdPartyServices | .thirdPartyLibs => m.thirdPartyServices
  | .dataCollection => m.dataCollection
  | .storage => m.storage
  | .tracking => m.tracking
  | .webApis => m.webApis

theorem set_add (m : Merged) (f : Finding) (c : Category) :
    (m.add f).set c = (m.set c).insertAll (f.joining c) := by
  cases c with
  | thirdPartyServices | thirdPartyLibs => exact TagSet.insertAll_append _ _ _
  | _ => rfl

theorem part_add (m : Merged) (f : Finding) (p : PagePart) :
    (m.add f).assets.part p = (m.assets.part p).insertAll (f.pagePart p) := by
  unfold add Finding.pagePart
  cases f.html? with
  | none => rfl
  | some h => cases p <;> rfl

/-- **A merged set holds exactly what some finding brings into its category.** -/
theorem mem_set_ofFindings (fs : List Finding) (c : Category) (t : String) :
    t ∈ (ofFindings fs).set c ↔ ∃ f ∈ fs, t ∈ f.joining c := by
  have h := TagSet.mem_of_foldl (·.set c) (fun m f => set_add m f c) fs empty t
  have hempty : t ∉ empty.set c := by cases c <;> exact TagSet.not_mem_empty
  unfold ofFindings
  rw [h, or_iff_right hempty]

/-- **The pages of a project bring along exactly what some finding's page does.** -/
theorem mem_assets_ofFindings (fs : List Finding) (p : PagePart) (t : String) :
    t ∈ (ofFindings fs).assets.part p ↔ ∃ f ∈ fs, t ∈ f.pagePart p := by
  have h := TagSet.mem_of_foldl (·.assets.part p) (fun m f => part_add m f p) fs empty t
  have hempty : t ∉ empty.assets.part p := by cases p <;> exact TagSet.not_mem_empty
  unfold ofFindings
  rw [h, or_iff_right hempty]

theorem detectors_foldl (fs : List Finding) (m : Merged) :
    (fs.foldl add m).detectors = m.detectors ++ fs.map (·.detector) := by
  induction fs generalizing m with
  | nil => simp
  | cons f fs ih =>
    rw [List.foldl_cons, ih]
    simp [add]

theorem detectors_ofFindings (fs : List Finding) :
    (ofFindings fs).detectors = fs.map (·.detector) := detectors_foldl fs empty

theorem dependencies_foldl (fs : List Finding) (m : Merged) :
    (fs.foldl add m).dependencies = m.dependencies ++ fs.flatMap (·.dependencies) := by
  induction fs generalizing m with
  | nil => simp
  | cons f fs ih =>
    rw [List.foldl_cons, ih]
    simp [add]

theorem dependencies_ofFindings (fs : List Finding) :
    (ofFindings fs).dependencies = fs.flatMap (·.dependencies) := dependencies_foldl fs empty

/-! ## 3. The order of findings -/

/-- Two merges hold the same sets, whatever their lists. -/
structure SameSets (m m' : Merged) : Prop where
  permissions : m.permissions = m'.permissions
  apis : m.apis = m'.apis
  thirdPartyServices : m.thirdPartyServices = m'.thirdPartyServices
  dataCollection : m.dataCollection = m'.dataCollection
  storage : m.storage = m'.storage
  tracking : m.tracking = m'.tracking
  webApis : m.webApis = m'.webApis
  assets : m.assets = m'.assets

namespace SameSets

variable {m m' : Merged}

theorem of_sets (hset : ∀ c, m.set c = m'.set c) (hpart : ∀ p, m.assets.part p = m'.assets.part p) :
    m.SameSets m' where
  permissions := hset .permissions
  apis := hset .apis
  thirdPartyServices := hset .thirdPartyServices
  dataCollection := hset .dataCollection
  storage := hset .storage
  tracking := hset .tracking
  webApis := hset .webApis
  assets := by
    have h1 : m.assets.externalScripts = m'.assets.externalScripts := hpart .externalScripts
    have h2 : m.assets.metaTags = m'.assets.metaTags := hpart .metaTags
    have h3 : m.assets.iframes = m'.assets.iframes := hpart .iframes
    calc m.assets = ⟨m.assets.externalScripts, m.assets.metaTags, m.assets.iframes⟩ := rfl
      _ = m'.assets := by rw [h1, h2, h3]

/-- The summary is made from the sets alone. -/
theorem summary (h : m.SameSets m') : m.summary = m'.summary := by
  cases m
  cases m'
  obtain ⟨h1, h2, h3, h4, h5, h6, h7, h8⟩ := h
  simp only at h1 h2 h3 h4 h5 h6 h7 h8
  subst h1 h2 h3 h4 h5 h6 h7 h8
  rfl

/-- **The sets of a merge do not depend on the order of the findings.** -/
theorem ofFindings_perm {fs gs : List Finding} (h : fs.Perm gs) :
    (ofFindings fs).SameSets (ofFindings gs) := by
  refine of_sets (fun c => TagSet.ext_mem fun t => ?_) (fun p => TagSet.ext_mem fun t => ?_)
  · rw [mem_set_ofFindings, mem_set_ofFindings]
    simp only [h.mem_iff]
  · rw [mem_assets_ofFindings, mem_assets_ofFindings]
    simp only [h.mem_iff]

end SameSets

end Merged

end PrivacyAudit
