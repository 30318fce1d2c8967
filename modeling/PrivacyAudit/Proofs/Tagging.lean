import Mathlib.Data.List.Infix
import PrivacyAudit.Proofs.Mentioning
import PrivacyAudit.Proofs.Surrounding

/-!
# Tags, in order and each once

What a detector lists in a category is said here without a finding that grows: the tags of the rules
that apply to the file, in the order of the catalog, of which each stays where it occurs first
(`Catalog.tagsIn`). The web detector's tags are these and what they entail: analytics that track go
in front of the services (`withAnalyticsService`), permissions behind the others
(`withPermissions`).

* `Catalog.tags_apply`: a catalog's rules, one after the other, make exactly these lists, by
  induction on the rules;
* `Finding.Distinct`: no category lists a tag twice. A rule keeps that (`Finding.Distinct.push`), so
  a catalog keeps it; the analytics are put in front without a look at the list, so they need the
  test that is made first (`Finding.Distinct.addAnalyticsService`);
* `detectors_list_tags`: so each of the detectors lists these tags, whatever its catalog is.
-/

namespace PrivacyAudit

/-! ## 1. The lists -/

/-- The rule is for files of this name, whatever the case of the letters, and its pattern describes
a span of the text. -/
def Rule.Applies (r : Rule) (fileName : String) (text : List Char) : Prop :=
  (∀ only, r.onlyIn? = some only → Text.equalIgnoringAsciiCase fileName only = true) ∧
  r.pattern.Occurs text

theorem Rule.fires_iff_applies {r : Rule} {fileName : String} {text : List Char} :
    r.fires fileName text = true ↔ r.Applies fileName text := by
  have hfor : r.isFor fileName = true ↔
      ∀ only, r.onlyIn? = some only → Text.equalIgnoringAsciiCase fileName only = true := by
    unfold isFor
    cases r.onlyIn? with
    | none => simp
    | some only => simp
  rw [fires, Bool.and_eq_true, hfor, Pattern.occurs_iff, Applies]

instance (r : Rule) (fileName : String) (text : List Char) : Decidable (r.Applies fileName text) :=
  decidable_of_iff _ r.fires_iff_applies

/-- The tags of the rules of a category that apply, in the order of the rules, each where it occurs
first. -/
def Catalog.tagsIn (cat : Catalog) (fileName : String) (text : List Char) (c : Category) :
    List String :=
  ((cat.rules.filter fun r => r.category = c ∧ r.Applies fileName text).map (·.tag)).eraseDups

/-- The lists with the analytics as the first service, if they track and are not among the
services. -/
def withAnalyticsService (given : Category → List String) : Category → List String
  | .thirdPartyServices =>
    if analyticsTag ∈ given .tracking ∧ analyticsTag ∉ given .thirdPartyServices then
      analyticsTag :: given .thirdPartyServices
    else given .thirdPartyServices
  | c => given c

/-- The lists with the permissions behind the others that the interfaces of the browser ask for, if
they are not among them: that for the camera, then that for the position. -/
def withPermissions (given : Category → List String) : Category → List String
  | .permissions =>
    let permissions :=
      if "CAMERA" ∈ given .webApis ∧
        "CAMERA" ∉ given .permissions then given .permissions ++ ["CAMERA"]
      else given .permissions
    if (∃ api ∈ given .webApis, "GEOLOCATION".toList <:+: api.toList) ∧
      "LOCATION" ∉ permissions then
      permissions ++ ["LOCATION"]
    else permissions
  | c => given c

/-! ## 2. One tag after the other -/

namespace Finding

theorem tags_push (f : Finding) (c d : Category) (tag : String) :
    (f.push c tag).tags d = if d = c then withTag (f.tags d) tag else f.tags d := by
  by_cases hd : d = c
  · subst hd
    rw [if_pos rfl, push, tags_setTags_self]
  · rw [if_neg hd, push, tags_setTags_of_ne f _ hd]

/-- Tags that are added one after the other are added in their order, each once, unless they are
there already. -/
theorem foldl_withTag (ts added : List String) :
    added.foldl withTag ts = ts ++ (added.filter (· ∉ ts)).eraseDups := by
  induction added generalizing ts with
  | nil => simp
  | cons tag added ih =>
    rw [List.foldl_cons, ih]
    by_cases hmem : tag ∈ ts
    · have hsame : withTag ts tag = ts := if_pos (List.contains_iff_mem.mpr hmem)
      rw [hsame, List.filter_cons_of_neg (by simpa using hmem)]
    · have hmore : withTag ts tag = ts ++ [tag] := if_neg fun h => hmem (List.contains_iff_mem.mp h)
      -- What is new behind the tag is what is new without it and is not the tag.
      have hrest : added.filter (· ∉ ts ++ [tag]) = (added.filter (· ∉ ts)).filter fun t =>
          !t == tag := by
        rw [List.filter_filter]
        refine List.filter_congr fun t _ => ?_
        by_cases ht : t = tag
        · simp [ht]
        · simp [ht]
      rw [hmore, hrest,
        List.filter_cons_of_pos (by simpa using hmem), List.eraseDups_cons, List.append_assoc,
        List.singleton_append]

/-- No category lists a tag twice. -/
def Distinct (f : Finding) : Prop := ∀ c, (f.tags c).Nodup

theorem distinct_empty (detector : String) (path : Path) : (empty detector path).Distinct := by
  intro c
  cases c <;> exact List.nodup_nil

theorem nodup_withTag {ts : List String} (h : ts.Nodup) (tag : String) :
    (withTag ts tag).Nodup := by
  unfold withTag
  split
  · exact h
  · rename_i hnew
    have hnew : tag ∉ ts := fun hmem => hnew (List.contains_iff_mem.mpr hmem)
    have hsingle : [tag].Nodup := List.nodup_cons.mpr ⟨List.not_mem_nil, List.nodup_nil⟩
    refine List.nodup_append.mpr ⟨h, hsingle, ?_⟩
    intro t ht s hs heq
    rw [heq, List.mem_singleton.mp hs] at ht
    exact hnew ht

/-- One more tag is no tag twice. -/
theorem Distinct.push {f : Finding} (h : f.Distinct) (c : Category) (tag : String) :
    (f.push c tag).Distinct := by
  intro d
  rw [tags_push]
  split
  · exact nodup_withTag (h d) tag
  · exact h d

end Finding

/-! ## 3. Catalogs -/

theorem Rule.tags_apply (r : Rule) (fileName : String) (text : List Char) (f : Finding)
    (c : Category) : (r.apply fileName text f).tags c =
      if r.category = c ∧ r.Applies fileName text then Finding.withTag (f.tags c) r.tag
        else f.tags c := by
  unfold apply
  by_cases hfires : r.fires fileName text = true
  · rw [if_pos hfires, Finding.tags_push]
    simp only [← fires_iff_applies, hfires, and_true, eq_comm]
  · rw [if_neg hfires]
    simp only [← fires_iff_applies, hfires, and_false, if_false, Bool.false_eq_true]

/-- The rules of a catalog add their tags one after the other. -/
theorem Catalog.tags_apply_eq_foldl (cat : Catalog) (text : List Char) (path : Path) (f : Finding)
    (c : Category) : (cat.apply text path f).tags c =
      ((cat.rules.filter fun r => r.category = c ∧
        r.Applies path.fileNameText text).map (·.tag)).foldl
        Finding.withTag (f.tags c) := by
  unfold apply
  generalize cat.rules = rules
  induction rules generalizing f with
  | nil => rfl
  | cons r rules ih =>
    rw [List.foldl_cons, ih, Rule.tags_apply]
    by_cases happlies : r.category = c ∧ r.Applies path.fileNameText text
    · rw [if_pos happlies,
        List.filter_cons_of_pos (by simpa using happlies), List.map_cons, List.foldl_cons]
    · rw [if_neg happlies, List.filter_cons_of_neg (by simpa using happlies)]

/-- **What a catalog lists** is the tags of its rules that apply, in their order, each where it
occurs first. -/
theorem Catalog.tags_apply (cat : Catalog) (text : List Char) (path : Path) (detector : String)
    (c : Category) :
    (cat.apply text path (.empty detector path)).tags c = cat.tagsIn path.fileNameText text c := by
  have hnone : (Finding.empty detector path).tags c = [] := by cases c <;> rfl
  rw [tags_apply_eq_foldl, hnone, Finding.foldl_withTag, tagsIn]
  simp

/-- The rules of a catalog list no tag twice, by induction on the rules. -/
theorem Finding.Distinct.catalog {f : Finding} (h : f.Distinct) (cat : Catalog) (text : List Char)
    (path : Path) : (cat.apply text path f).Distinct := by
  unfold Catalog.apply
  generalize cat.rules = rules
  induction rules generalizing f with
  | nil => exact h
  | cons r rules ih =>
    have hstep : (r.apply path.fileNameText text f).Distinct := by
      unfold Rule.apply
      split
      · exact h.push r.category r.tag
      · exact h
    exact ih hstep

/-! ## 4. What tags entail -/

theorem tags_addAnalyticsService (f : Finding) :
    (addAnalyticsService f).tags = withAnalyticsService f.tags := by
  have htest : (f.tracking.contains analyticsTag && !f.thirdPartyServices.contains analyticsTag) =
      true ↔ analyticsTag ∈ f.tags .tracking ∧ analyticsTag ∉ f.tags .thirdPartyServices := by
    simp [Finding.tags]
  funext c
  unfold addAnalyticsService
  by_cases hadds : analyticsTag ∈ f.tags .tracking ∧ analyticsTag ∉ f.tags .thirdPartyServices
  · rw [if_pos (htest.mpr hadds)]
    cases c with
    | thirdPartyServices => exact (if_pos hadds).symm
    | _ => rfl
  · rw [if_neg fun h => hadds (htest.mp h)]
    cases c with
    | thirdPartyServices => exact (if_neg hadds).symm
    | _ => rfl

/-- A tag is added exactly where it is missing. -/
theorem Finding.tags_push_if_self {p : Prop} [Decidable p] (f : Finding) (c : Category)
    (tag : String) :
    (if p then f.push c tag else f).tags c = if p ∧ tag ∉ f.tags c then f.tags c ++ [tag]
      else f.tags c := by
  by_cases hp : p
  · rw [if_pos hp, Finding.tags_push, if_pos rfl, Finding.withTag]
    simp [hp]
  · rw [if_neg hp, if_neg fun h => hp h.1]

theorem Finding.tags_push_if_of_ne {p : Prop} [Decidable p] (f : Finding) {c d : Category}
    (tag : String) (hd : d ≠ c) : (if p then f.push c tag else f).tags d = f.tags d := by
  split
  · rw [Finding.tags_push, if_neg hd]
  · rfl

theorem tags_addPermissions (f : Finding) : (addPermissions f).tags = withPermissions f.tags := by
  -- The first permission leaves the interfaces as they are, so the second one goes by the same
  -- list.
  have hapis : (if f.webApis.contains "CAMERA" then f.push .permissions "CAMERA" else f).webApis =
      f.webApis := by
    split <;> rfl
  have hposition : f.webApis.any (Text.contains · "GEOLOCATION") = true ↔
      ∃ api ∈ f.tags .webApis, "GEOLOCATION".toList <:+: api.toList := by
    simp only [List.any_eq_true, Text.contains, Text.occursIn_iff_isInfix, Finding.tags]
  unfold addPermissions
  funext c
  by_cases hc : c = .permissions
  · subst hc
    simp only [Finding.tags_push_if_self, hapis, hposition]
    simp only [List.contains_iff_mem]
    rfl
  · simp only [Finding.tags_push_if_of_ne _ _ hc]
    cases c with
    | permissions => exact absurd rfl hc
    | _ => rfl

/-- A permission that the catalog lists itself stays where it is. -/
example :
    withPermissions
        (fun
          | .webApis => ["CAMERA", "GEOLOCATION_WATCH"]
          | .permissions => ["LOCATION"]
          | _ => [])
        .permissions = ["LOCATION", "CAMERA"] := by decide +kernel

namespace Finding

/-- The analytics are in front only where they were not in the list. -/
theorem Distinct.addAnalyticsService {f : Finding} (h : f.Distinct) :
    (addAnalyticsService f).Distinct := by
  intro c
  unfold PrivacyAudit.addAnalyticsService
  split
  · rename_i hadds
    have hnew : analyticsTag ∉ f.thirdPartyServices := by
      simpa using (Bool.and_eq_true_iff.mp hadds).2
    have hkept := h c
    cases c with
    | thirdPartyServices => exact List.nodup_cons.mpr ⟨hnew, hkept⟩
    | _ => exact hkept
  · exact h c

theorem Distinct.push_if {p : Prop} [Decidable p] {f : Finding} (h : f.Distinct) (c : Category)
    (tag : String) : (if p then f.push c tag else f).Distinct := by
  split
  · exact h.push c tag
  · exact h

theorem Distinct.addPermissions {f : Finding} (h : f.Distinct) : (addPermissions f).Distinct :=
  (h.push_if .permissions "CAMERA").push_if .permissions "LOCATION"

end Finding

/-! ## 5. Detectors -/

/-- The finding lists no tag twice, and its lists are these. -/
structure Finding.Lists (f : Finding) (lists : Category → List String) : Prop where
  distinct : f.Distinct
  tags : f.tags = lists

/-- Only the tags of a finding count for its lists. -/
theorem Finding.Lists.of_tags_eq {f g : Finding} {lists : Category → List String}
    (h : f.Lists lists) (htags : ∀ c, g.tags c = f.tags c) : g.Lists lists where
  distinct c := by
    rw [htags c]
    exact h.distinct c
  tags := (funext htags).trans h.tags

/-- Dependencies are in no category. -/
theorem Finding.Lists.dependencies_if {p : Prop} [Decidable p] {f : Finding}
    {lists : Category → List String} (h : f.Lists lists) (ds : List Dependency) :
    (if p then { f with dependencies := ds } else f).Lists lists := by
  refine h.of_tags_eq fun c => ?_
  split <;> cases c <;> rfl

theorem Catalog.apply_lists (cat : Catalog) (text : List Char) (path : Path) :
    (cat.apply text path (.empty cat.name path)).Lists (cat.tagsIn path.fileNameText text) where
  distinct := (Finding.distinct_empty cat.name path).catalog cat text path
  tags := funext (cat.tags_apply text path cat.name)

theorem Finding.Lists.addAnalyticsService {f : Finding} {lists : Category → List String}
    (h : f.Lists lists) : (addAnalyticsService f).Lists (withAnalyticsService lists) where
  distinct := h.distinct.addAnalyticsService
  tags := by rw [tags_addAnalyticsService, h.tags]

theorem Finding.Lists.addPermissions {f : Finding} {lists : Category → List String}
    (h : f.Lists lists) : (addPermissions f).Lists (withPermissions lists) where
  distinct := h.distinct.addPermissions
  tags := by rw [tags_addPermissions, h.tags]

/-- The detector has an answer to every text at every path, with the lists for the file's name and
the text. -/
def Detector.Lists (d : Detector) (lists : String → List Char → Category → List String) : Prop :=
  ∀ content path, ∃ found, d.scan content path = some found ∧
  found.Lists (lists path.fileNameText content.toList)

/-- **What the detectors list**: whatever the catalog is, each of them has an answer to every text
at every path, which lists no tag twice. What it lists in a category is the tags of the catalog's
rules that apply, in their order and each where it occurs first; the web detector adds what they
entail, and nothing else. -/
theorem detectors_list_tags (cat : Catalog) :
    (Detector.android cat).Lists cat.tagsIn ∧ (Detector.ios cat).Lists cat.tagsIn ∧
      (Detector.web cat).Lists fun fileName text =>
        withPermissions (withAnalyticsService (cat.tagsIn fileName text)) := by
  refine ⟨fun content path => ?_, fun content path => ?_, fun content path => ?_⟩
  · exact ⟨_, rfl, (cat.apply_lists content.toList path).dependencies_if _⟩
  · exact ⟨_, rfl, (cat.apply_lists content.toList path).dependencies_if _⟩
  · have hservices := (cat.apply_lists content.toList path).addAnalyticsService
    have hfile := hservices.of_tags_eq (tags_addFileContents path.fileNameText content.toList _)
    exact ⟨_, rfl, hfile.addPermissions⟩

end PrivacyAudit
