import Mathlib.Algebra.Order.Ring.Rat
import PrivacyAudit.Proofs.Merging

/-!
# Merges put together

A merge is determined by its findings up to what their order and repetition can show:

* `Merged.MergeOf`: what it means that a merge is that of some findings, without the fold that makes
  it. There is one such merge for a list of findings, `Merged.MergeOf.unique`;
* `Merged.SameSets.ofFindings_of_mem`: lists with the same findings have the same sets, in whatever
  order and however often they hold them;
* `Merged.union`: two merges taken together. The merge of a list in parts is the union of the merges
  of the parts, `Merged.ofFindings_append` and `Merged.ofFindings_flatten`;
* `Merged.ofFindings_algebra`: all of this in one statement;
* `Merged.holdsNothing_ofFindings_iff`: a merge holds nothing but names of detectors exactly if no
  finding of its list has a signal.
-/

namespace PrivacyAudit

open Text (Before)

/-! ## 1. Unions -/

namespace TagSet

/-- The members of two sets. -/
def union (s s' : TagSet) : TagSet := s.insertAll s'.toList

@[simp] theorem mem_union {s s' : TagSet} {t : String} : t ∈ s.union s' ↔ t ∈ s ∨ t ∈ s' := by
  rw [union, mem_insertAll, mem_toList, or_comm]

end TagSet

/-- What two collections of pages bring along. -/
def HtmlAssets.union (a a' : HtmlAssets) : HtmlAssets where
  externalScripts := a.externalScripts.union a'.externalScripts
  metaTags := a.metaTags.union a'.metaTags
  iframes := a.iframes.union a'.iframes

theorem HtmlAssets.part_union (a a' : HtmlAssets) (p : PagePart) :
    (a.union a').part p = (a.part p).union (a'.part p) := by
  cases p <;> rfl

theorem Finding.mem_pagePart_iff {f : Finding} {p : PagePart} {t : String} :
    t ∈ f.pagePart p ↔ ∃ h, f.html? = some h ∧ t ∈ h.part p := by
  unfold pagePart
  cases f.html? <;> simp

namespace Merged

/-- Two merges taken together: sets are united, lists stand one after the other. -/
def union (m m' : Merged) : Merged where
  detectors := m.detectors ++ m'.detectors
  permissions := m.permissions.union m'.permissions
  apis := m.apis.union m'.apis
  thirdPartyServices := m.thirdPartyServices.union m'.thirdPartyServices
  dataCollection := m.dataCollection.union m'.dataCollection
  storage := m.storage.union m'.storage
  tracking := m.tracking.union m'.tracking
  webApis := m.webApis.union m'.webApis
  dependencies := m.dependencies ++ m'.dependencies
  assets := m.assets.union m'.assets

theorem set_union (m m' : Merged) (c : Category) :
    (m.union m').set c = (m.set c).union (m'.set c) := by
  cases c <;> rfl

/-! ## 2. The merge of a list of findings -/

/-- A merge is that of some findings: its sets ascend and hold exactly what a finding brings into a
category or what the page of one brings along, and its lists are the findings' own. -/
structure MergeOf (m : Merged) (fs : List Finding) : Prop where
  ascending : ∀ c, (m.set c).toList.Pairwise Before
  partsAscending : ∀ p, (m.assets.part p).toList.Pairwise Before
  mem_set : ∀ c t, t ∈ m.set c ↔ ∃ f ∈ fs, t ∈ f.joining c
  mem_part : ∀ p t, t ∈ m.assets.part p ↔ ∃ f ∈ fs, ∃ h, f.html? = some h ∧ t ∈ h.part p
  detectors : m.detectors = fs.map (·.detector)
  dependencies : m.dependencies = fs.flatMap (·.dependencies)

theorem mergeOf_ofFindings (fs : List Finding) : (ofFindings fs).MergeOf fs where
  ascending c := ((ofFindings fs).set c).ascending
  partsAscending p := ((ofFindings fs).assets.part p).ascending
  mem_set := mem_set_ofFindings fs
  mem_part p t := by
    rw [mem_assets_ofFindings]
    simp only [Finding.mem_pagePart_iff]
  detectors := detectors_ofFindings fs
  dependencies := dependencies_ofFindings fs

/-- Merges with the same sets and lists are the same. -/
theorem SameSets.eq {m m' : Merged} (h : m.SameSets m') (hdetectors : m.detectors = m'.detectors)
    (hdependencies : m.dependencies = m'.dependencies) : m = m' := by
  cases m
  cases m'
  obtain ⟨h1, h2, h3, h4, h5, h6, h7, h8⟩ := h
  simp only at h1 h2 h3 h4 h5 h6 h7 h8 hdetectors hdependencies
  subst h1 h2 h3 h4 h5 h6 h7 h8 hdetectors hdependencies
  rfl

namespace MergeOf

variable {m m' : Merged} {fs gs : List Finding}

/-- The sets of a merge depend on which findings there are, not on their order or number. -/
theorem sameSets (h : m.MergeOf fs) (h' : m'.MergeOf gs) (hmem : ∀ f, f ∈ fs ↔ f ∈ gs) :
    m.SameSets m' := by
  refine SameSets.of_sets (fun c => TagSet.ext_mem fun t => ?_)
    (fun p => TagSet.ext_mem fun t => ?_)
  · rw [h.mem_set, h'.mem_set]
    simp only [hmem]
  · rw [h.mem_part, h'.mem_part]
    simp only [hmem]

/-- There is one merge of a list of findings. -/
theorem unique (h : m.MergeOf fs) (h' : m'.MergeOf fs) : m = m' := by
  have hsets : m.SameSets m' := h.sameSets h' fun _ => Iff.rfl
  exact hsets.eq (h.detectors.trans h'.detectors.symm) (h.dependencies.trans h'.dependencies.symm)

/-- The union of two merges is the merge of both lists, one after the other. -/
theorem union (h : m.MergeOf fs) (h' : m'.MergeOf gs) : (m.union m').MergeOf (fs ++ gs) where
  ascending c := ((m.union m').set c).ascending
  partsAscending p := ((m.union m').assets.part p).ascending
  mem_set c t := by
    rw [set_union, TagSet.mem_union, h.mem_set, h'.mem_set]
    simp only [List.mem_append, or_and_right, exists_or]
  mem_part p t := by
    have hpart : (m.union m').assets.part p = (m.assets.part p).union (m'.assets.part p) :=
      HtmlAssets.part_union m.assets m'.assets p
    rw [hpart, TagSet.mem_union, h.mem_part, h'.mem_part]
    simp only [List.mem_append, or_and_right, exists_or]
  detectors := by
    show m.detectors ++ m'.detectors = _
    rw [h.detectors, h'.detectors, List.map_append]
  dependencies := by
    show m.dependencies ++ m'.dependencies = _
    rw [h.dependencies, h'.dependencies, List.flatMap_append]

end MergeOf

/-- **The sets of a merge show neither the order nor the repetition of findings.** -/
theorem SameSets.ofFindings_of_mem {fs gs : List Finding} (h : ∀ f, f ∈ fs ↔ f ∈ gs) :
    (ofFindings fs).SameSets (ofFindings gs) :=
  (mergeOf_ofFindings fs).sameSets (mergeOf_ofFindings gs) h

/-- **The merge of two lists is the union of their merges.** -/
theorem ofFindings_append (fs gs : List Finding) :
    ofFindings (fs ++ gs) = (ofFindings fs).union (ofFindings gs) :=
  (mergeOf_ofFindings (fs ++ gs)).unique ((mergeOf_ofFindings fs).union (mergeOf_ofFindings gs))

/-- Merging part by part, behind findings that are merged already. -/
theorem foldl_union_ofFindings (before : List Finding) (chunks : List (List Finding)) :
    (chunks.map ofFindings).foldl union (ofFindings before) =
      ofFindings (before ++ chunks.flatten) := by
  induction chunks generalizing before with
  | nil => simp
  | cons chunk chunks ih =>
    rw [List.map_cons, List.foldl_cons, ← ofFindings_append, ih, List.flatten_cons,
      List.append_assoc]

/-- **Findings may be merged part by part.** -/
theorem ofFindings_flatten (chunks : List (List Finding)) :
    ofFindings chunks.flatten = (chunks.map ofFindings).foldl union empty :=
  (foldl_union_ofFindings [] chunks).symm

/-- **What a merge is made of.** The merge of a list of findings has ascending sets of exactly the
texts that findings bring, and the lists of the findings one after the other. Lists with the same
findings have the same sets and the same summary. And a list merged in two parts, or in any number
of parts, gives the merge of the whole. -/
theorem ofFindings_algebra (xs ys : List Finding) :
    (ofFindings xs).MergeOf xs ∧
      ((∀ f, f ∈ xs ↔ f ∈ ys) →
        (ofFindings xs).SameSets (ofFindings ys) ∧
          (ofFindings xs).summary = (ofFindings ys).summary) ∧
      ofFindings (xs ++ ys) = (ofFindings xs).union (ofFindings ys) ∧
      ∀ chunks : List (List Finding), chunks.flatten = xs →
        (chunks.map ofFindings).foldl union empty = ofFindings xs := by
  refine ⟨mergeOf_ofFindings xs, fun hmem => ?_, ofFindings_append xs ys, fun chunks hchunks => ?_⟩
  · have hsets : (ofFindings xs).SameSets (ofFindings ys) := SameSets.ofFindings_of_mem hmem
    exact ⟨hsets, hsets.summary⟩
  · rw [← hchunks, ofFindings_flatten]

/-- A page with a frame, found together with a library. -/
def pageFinding : Finding :=
  { Finding.empty "web" (.ofText "index.html") with
    thirdPartyLibs := ["FIREBASE", "FIREBASE"]
    html? := some ⟨[], [], ["https://ads.example"]⟩ }

/-- A script that asks where the user is. -/
def locatingFinding : Finding :=
  { Finding.empty "web" (.ofText "map.js") with
    permissions := ["LOCATION_FINE"]
    thirdPartyServices := ["MAPBOX"]
    dependencies := [⟨"mapbox-gl", some "3.0"⟩] }

/-- Two findings, once each and with one of them repeated behind the other, merged whole and one by
one. -/
theorem ofFindings_algebra_pageFirst :
    (ofFindings [pageFinding, locatingFinding]).SameSets
        (ofFindings [locatingFinding, pageFinding, locatingFinding]) ∧
      (ofFindings [pageFinding, locatingFinding]).thirdPartyServices.toList =
        ["FIREBASE", "MAPBOX"] ∧
      [ofFindings [pageFinding], ofFindings [locatingFinding]].foldl union empty =
        ofFindings [pageFinding, locatingFinding] := by
  obtain ⟨_, hsame, _, hparts⟩ := ofFindings_algebra [pageFinding, locatingFinding]
    [locatingFinding, pageFinding, locatingFinding]
  have hmem : ∀ f, f ∈ [pageFinding, locatingFinding] ↔
      f ∈ [locatingFinding, pageFinding, locatingFinding] := by
    intro f
    simp only [List.mem_cons, List.not_mem_nil, or_false]
    tauto
  exact ⟨(hsame hmem).1, by decide +kernel, hparts [[pageFinding], [locatingFinding]] rfl⟩

end Merged

/-! ## 3. A merge of nothing -/

namespace HtmlAnalysis

theorem isEmpty_eq_true_iff {h : HtmlAnalysis} : h.isEmpty = true ↔ ∀ p, h.part p = [] := by
  rw [isEmpty, Bool.and_eq_true, Bool.and_eq_true, List.isEmpty_iff, List.isEmpty_iff,
    List.isEmpty_iff]
  constructor
  · rintro ⟨⟨hscripts, hmetas⟩, hframes⟩ p
    cases p with
    | externalScripts => exact hscripts
    | metaTags => exact hmetas
    | iframes => exact hframes
  · intro h
    exact ⟨⟨h .externalScripts, h .metaTags⟩, h .iframes⟩

end HtmlAnalysis

namespace Finding

variable {f : Finding}

/-- The tags that a finding brings into categories are its tags, each in a category that need not be
its own. -/
theorem joining_eq_nil_iff : (∀ c, f.joining c = []) ↔ ∀ c, f.tags c = [] := by
  constructor
  · intro h c
    have hown : f.joining c = [] := h c
    cases c with
    | thirdPartyServices => exact (List.append_eq_nil_iff.1 hown).1
    | thirdPartyLibs => exact (List.append_eq_nil_iff.1 hown).2
    | _ => exact hown
  · intro h c
    have hservices : f.thirdPartyServices ++ f.thirdPartyLibs = [] :=
      List.append_eq_nil_iff.2 ⟨h .thirdPartyServices, h .thirdPartyLibs⟩
    have hown : f.tags c = [] := h c
    cases c with
    | thirdPartyServices | thirdPartyLibs => exact hservices
    | _ => exact hown

theorem pagePart_eq_nil_iff : (∀ p, f.pagePart p = []) ↔ f.html?.all (·.isEmpty) = true := by
  unfold pagePart
  cases f.html? with
  | none => simp
  | some h => simp [HtmlAnalysis.isEmpty_eq_true_iff]

/-- A finding is no signal if it brings nothing but the name of its detector. -/
theorem hasSignal_eq_false_iff :
    f.hasSignal = false ↔ (∀ c, f.joining c = []) ∧ f.dependencies = [] ∧ ∀ p,
    f.pagePart p = [] := by
  have hhtml : f.html?.any (!·.isEmpty) = false ↔ f.html?.all (·.isEmpty) = true := by
    cases f.html? <;> simp
  have htags : Category.all.any (fun c => !(f.tags c).isEmpty) = false ↔ ∀ c, f.tags c = [] := by
    simp [List.any_eq_false, Category.mem_all]
  rw [hasSignal, Bool.or_eq_false_iff, Bool.or_eq_false_iff, hhtml, htags, joining_eq_nil_iff,
    pagePart_eq_nil_iff, and_assoc]
  simp

end Finding

namespace Merged

variable {m : Merged}

/-- Nothing is in a merge, up to the names of detectors. -/
structure HoldsNothing (m : Merged) : Prop where
  sets : ∀ c, m.set c = ∅
  dependencies : m.dependencies = []
  parts : ∀ p, m.assets.part p = ∅

/-- **A merge holds nothing exactly if no finding of its list has a signal.** -/
theorem holdsNothing_ofFindings_iff (fs : List Finding) :
    (ofFindings fs).HoldsNothing ↔ ∀ f ∈ fs, f.hasSignal = false := by
  have hmerge : (ofFindings fs).MergeOf fs := mergeOf_ofFindings fs
  constructor
  · intro h f hf
    rw [Finding.hasSignal_eq_false_iff]
    refine ⟨fun c => ?_, ?_, fun p => ?_⟩
    · refine List.eq_nil_iff_forall_not_mem.2 fun t ht => ?_
      have hset : t ∈ (ofFindings fs).set c := (hmerge.mem_set c t).2 ⟨f, hf, ht⟩
      rw [h.sets] at hset
      exact TagSet.not_mem_empty hset
    · have hnil : fs.flatMap (·.dependencies) = [] := hmerge.dependencies.symm.trans h.dependencies
      exact List.flatMap_eq_nil_iff.1 hnil f hf
    · refine List.eq_nil_iff_forall_not_mem.2 fun t ht => ?_
      have hpart : t ∈ (ofFindings fs).assets.part p := (mem_assets_ofFindings fs p t).2 ⟨f, hf, ht⟩
      rw [h.parts] at hpart
      exact TagSet.not_mem_empty hpart
  · intro h
    have hnone : ∀ f ∈ fs, (∀ c, f.joining c = []) ∧ f.dependencies = [] ∧ ∀ p, f.pagePart p = [] :=
      fun f hf => Finding.hasSignal_eq_false_iff.1 (h f hf)
    refine ⟨fun c => TagSet.ext_mem fun t => ?_, ?_, fun p => TagSet.ext_mem fun t => ?_⟩
    · rw [mem_set_ofFindings]
      refine ⟨fun ⟨f, hf, ht⟩ => ?_, fun ht => absurd ht TagSet.not_mem_empty⟩
      rw [(hnone f hf).1 c] at ht
      exact absurd ht List.not_mem_nil
    · rw [hmerge.dependencies]
      exact List.flatMap_eq_nil_iff.2 fun f hf => (hnone f hf).2.1
    · rw [mem_assets_ofFindings]
      refine ⟨fun ⟨f, hf, ht⟩ => ?_, fun ht => absurd ht TagSet.not_mem_empty⟩
      rw [(hnone f hf).2.2 p] at ht
      exact absurd ht List.not_mem_nil

/-- Nothing is no risk. -/
theorem HoldsNothing.riskScore_eq_zero (h : m.HoldsNothing) : m.riskScore = 0 := by
  have hpermissions : m.permissions = ∅ := h.sets .permissions
  have hservices : m.thirdPartyServices = ∅ := h.sets .thirdPartyServices
  have htracking : m.tracking = ∅ := h.sets .tracking
  have hcount : (∅ : TagSet).toList.countP sensitivePermissions.contains = 0 := rfl
  have hsize : (∅ : TagSet).size = 0 := rfl
  rw [riskScore, sensitiveCount, hpermissions, hservices, htracking, hcount, hsize]
  simp

theorem HoldsNothing.level_eq_low (h : m.HoldsNothing) : m.summary.level = .low := by
  show RiskLevel.ofScore m.riskScore = .low
  rw [h.riskScore_eq_zero]
  rfl

end Merged

end PrivacyAudit
