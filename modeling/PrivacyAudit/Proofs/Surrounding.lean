import PrivacyAudit.Detector.Android
import PrivacyAudit.Detector.Ios
import PrivacyAudit.Detector.Web
import PrivacyAudit.Proofs.Occurring

/-!
# Lines around a text

A pattern that asks for nothing but what lines begin and end with finds a text also where other
lines stand around it. What such a pattern asks of a position is `Look.keepsLines`: where the text
ends, a line feed does as well as nothing.

* `Pattern.Matches.surround`, `Pattern.Occurs.surround`: a span that is described stays described,
  by induction on the way that describes it;
* `Catalog.mem_tags_apply_iff`: the tags of a catalog are those of its rules that fire, so with
  rules of such patterns a catalog gives no fewer tags (`Catalog.tags_apply_surround`);
* `Detector.KeepsTags`: so do the detectors, also with the tags that others entail
  (`Detector.web_keepsTags`).
-/

namespace PrivacyAudit

/-! ## 1. Positions -/

namespace Look

/-- Whether a condition that holds next to nothing also holds next to a line feed. The ends of the
text do not, nor do the ends of lines that may end with a carriage return: a line feed behind it
belongs to the same end. -/
def keepsLines : Look → Bool
  | .textStart | .textEnd | .lineStartAny | .lineEndAny => false
  | _ => true

/-- A line feed is no part of a word. -/
theorem holds_lineFeed (w : WordAlphabet) : w.holds (some '\n') = w.holds none := by
  cases w <;> decide +kernel

theorem holds_before_lineFeed {l : Look} (hl : l.keepsLines = true) {after : Option Char}
    (h : l.holds none after = true) : l.holds (some '\n') after = true := by
  cases l with
  | textStart | textEnd | lineStartAny | lineEndAny => cases hl
  | lineStart => rfl
  | lineEnd => exact h
  | boundary w | inner w | wordStart w | wordEnd w | wordStartHalf w | wordEndHalf w =>
    simpa only [holds, holds_lineFeed] using h

theorem holds_after_lineFeed {l : Look} (hl : l.keepsLines = true) {before : Option Char}
    (h : l.holds before none = true) : l.holds before (some '\n') = true := by
  cases l with
  | textStart | textEnd | lineStartAny | lineEndAny => cases hl
  | lineStart => exact h
  | lineEnd => rfl
  | boundary w | inner w | wordStart w | wordEnd w | wordStartHalf w | wordEndHalf w =>
    simpa only [holds, holds_lineFeed] using h

/-- Lines around a text do not take away what holds at a position in it. -/
theorem holds_surround {l : Look} (hl : l.keepsLines = true) (a b : List Char)
    {pre post : List Char} (h : l.holds pre.getLast? post.head? = true) :
    l.holds (a ++ '\n' :: pre).getLast? (post ++ '\n' :: b).head? = true := by
  have hbefore : l.holds (a ++ '\n' :: pre).getLast? post.head? = true := by
    cases pre with
    | nil =>
      rw [List.getLast?_append]
      exact holds_before_lineFeed hl h
    | cons c pre =>
      have hlast : (a ++ '\n' :: c :: pre).getLast? = (c :: pre).getLast? := by
        rw [List.getLast?_append, List.getLast?_cons_cons, List.getLast?_cons]
        rfl
      rw [hlast]
      exact h
  cases post with
  | nil => exact holds_after_lineFeed hl hbefore
  | cons c post => exact hbefore

end Look

/-! ## 2. Patterns -/

namespace Pattern

/-- Whether all conditions in a pattern are such. -/
def keepsLines : Pattern → Bool
  | .look l => l.keepsLines
  | .seq p q | .alt p q => p.keepsLines && q.keepsLines
  | .loop body _ _ _ => body.keepsLines
  | _ => true

/-- **A span that is described stays described where lines stand around the text.** -/
theorem Matches.surround {p : Pattern} {pre mid post : List Char} (h : p.Matches pre mid post)
    (hp : p.keepsLines = true) (a b : List Char) :
    p.Matches (a ++ '\n' :: pre) mid (post ++ '\n' :: b) := by
  -- The parts in front of and behind a part of the span grow along, so they are regrouped in each
  -- case.
  induction h with
  | empty => exact .empty
  | set hc => exact .set hc
  | look hl => exact .look (Look.holds_surround hp a b hl)
  | mark => exact .mark
  | seq _ _ ih₁ ih₂ =>
    obtain ⟨hfirst, hsecond⟩ := Bool.and_eq_true_iff.mp hp
    have h₁ := ih₁ hfirst
    have h₂ := ih₂ hsecond
    rw [List.append_assoc] at h₁
    rw [← List.cons_append, ← List.append_assoc] at h₂
    exact .seq h₁ h₂
  | altFirst _ ih => exact .altFirst (ih (Bool.and_eq_true_iff.mp hp).1)
  | altSecond _ ih => exact .altSecond (ih (Bool.and_eq_true_iff.mp hp).2)
  | loopDone => exact .loopDone
  | loopMore hmost _ _ ih₁ ih₂ =>
    have h₁ := ih₁ hp
    have h₂ := ih₂ hp
    rw [List.append_assoc] at h₁
    rw [← List.cons_append, ← List.append_assoc] at h₂
    exact .loopMore hmost h₁ h₂

theorem Occurs.surround {p : Pattern} {text : List Char} (h : p.Occurs text)
    (hp : p.keepsLines = true) (a b : List Char) : p.Occurs (a ++ '\n' :: text ++ '\n' :: b) := by
  obtain ⟨pre, mid, post, rfl, hmatches⟩ := h
  refine ⟨a ++ '\n' :: pre, mid, post ++ '\n' :: b, ?_, hmatches.surround hp a b⟩
  simp only [List.append_assoc, List.cons_append]

end Pattern

/-! ## 3. Catalogs -/

/-- Every tag of a finding is in the other one, in the same category. -/
def Finding.TagsWithin (f g : Finding) : Prop := ∀ c tag, tag ∈ f.tags c → tag ∈ g.tags c

/-- All patterns of the catalog are such. -/
def Catalog.KeepsLines (c : Catalog) : Prop := ∀ r ∈ c.rules, r.pattern.keepsLines = true

theorem Finding.mem_tags_push_iff {f : Finding} {c d : Category} {tag t : String} :
    t ∈ (f.push c tag).tags d ↔ t ∈ f.tags d ∨ c = d ∧ tag = t := by
  unfold push
  by_cases hd : d = c
  · subst hd
    rw [tags_setTags_self, mem_withTag]
    simp only [true_and, eq_comm]
  · rw [tags_setTags_of_ne f _ hd]
    simp only [Ne.symm hd, false_and, or_false]

theorem Finding.mem_tags_push_if_iff {p : Prop} [Decidable p] {f : Finding} {c d : Category}
    {tag t : String} :
    t ∈ (if p then f.push c tag else f).tags d ↔ t ∈ f.tags d ∨ p ∧ c = d ∧ tag = t := by
  by_cases hp : p
  · rw [if_pos hp, mem_tags_push_iff, and_iff_right hp]
  · rw [if_neg hp, or_iff_left fun h => hp h.1]

theorem Rule.mem_tags_apply_iff {r : Rule} {fileName : String} {text : List Char} {f : Finding}
    {c : Category} {t : String} : t ∈ (r.apply fileName text f).tags c ↔
      t ∈ f.tags c ∨ r.fires fileName text = true ∧ r.category = c ∧ r.tag = t :=
  Finding.mem_tags_push_if_iff

/-- **The tags that a catalog gives are those of its rules that fire.** -/
theorem Catalog.mem_tags_apply_iff (cat : Catalog) {text : List Char} {path : Path} {f : Finding}
    {c : Category} {t : String} : t ∈ (cat.apply text path f).tags c ↔
      t ∈ f.tags c ∨ ∃ r ∈ cat.rules, r.fires path.fileNameText text = true ∧ r.category = c ∧
      r.tag = t := by
  unfold apply
  generalize cat.rules = rules
  induction rules generalizing f with
  | nil => simp
  | cons r rules ih =>
    rw [List.foldl_cons, ih, Rule.mem_tags_apply_iff, or_assoc]
    simp only [List.mem_cons, exists_eq_or_imp]

theorem Rule.fires_surround {r : Rule} {fileName : String} {text : List Char}
    (hr : r.pattern.keepsLines = true) (a b : List Char) (h : r.fires fileName text = true) :
    r.fires fileName (a ++ '\n' :: text ++ '\n' :: b) = true := by
  obtain ⟨hfor, hoccurs⟩ := Bool.and_eq_true_iff.mp h
  have hmore := ((Pattern.occurs_iff r.pattern text).mp hoccurs).surround hr a b
  exact Bool.and_eq_true_iff.mpr ⟨hfor, (Pattern.occurs_iff _ _).mpr hmore⟩

theorem Catalog.tags_apply_surround {cat : Catalog} (hcat : cat.KeepsLines) (a b text : List Char)
    (path : Path) (f : Finding) :
    (cat.apply text path f).TagsWithin (cat.apply (a ++ '\n' :: text ++ '\n' :: b) path f) := by
  intro c t ht
  rw [mem_tags_apply_iff] at ht ⊢
  rcases ht with hbefore | ⟨r, hr, hfires, hcategory, htag⟩
  · exact .inl hbefore
  · exact .inr ⟨r, hr, r.fires_surround (hcat r hr) a b hfires, hcategory, htag⟩

/-! ## 4. What tags entail -/

/-- The tags that others entail: analytics that track are a service as well, and interfaces of the
browser ask for permissions. -/
inductive Finding.Entails (f : Finding) : Category → String → Prop
  | service : analyticsTag ∈ f.tags .tracking → Entails f .thirdPartyServices analyticsTag
  | camera : "CAMERA" ∈ f.tags .webApis → Entails f .permissions "CAMERA"
  | location {api : String} : api ∈ f.tags .webApis → Text.contains api "GEOLOCATION" = true →
      Entails f .permissions "LOCATION"

/-- More tags entail more. -/
theorem Finding.Entails.mono {f g : Finding} {c : Category} {t : String} (h : f.Entails c t)
    (hfg : f.TagsWithin g) : g.Entails c t := by
  cases h with
  | service htracks => exact .service (hfg _ _ htracks)
  | camera hcamera => exact .camera (hfg _ _ hcamera)
  | location hapi hcontains => exact .location (hfg _ _ hapi) hcontains

theorem mem_tags_addAnalyticsService_iff {f : Finding} {c : Category} {t : String} :
    t ∈ (addAnalyticsService f).tags c ↔
      t ∈ f.tags c ∨ c = .thirdPartyServices ∧ t = analyticsTag ∧ analyticsTag ∈ f.tracking := by
  unfold addAnalyticsService
  by_cases htracks : analyticsTag ∈ f.tracking
  · by_cases hservice : analyticsTag ∈ f.thirdPartyServices
    · have hkeeps :
          (f.tracking.contains analyticsTag && !f.thirdPartyServices.contains analyticsTag) =
            false := by
        simp [hservice]
      rw [hkeeps, if_neg Bool.false_ne_true]
      constructor
      · exact Or.inl
      · intro ht
        rcases ht with ht | ⟨rfl, rfl, -⟩
        · exact ht
        · exact hservice
    · have hadds :
          (f.tracking.contains analyticsTag && !f.thirdPartyServices.contains analyticsTag) =
            true := by
        simp [htracks, hservice]
      rw [if_pos hadds]
      cases c with
      | thirdPartyServices => simp [Finding.tags, htracks, or_comm]
      | _ => simp [Finding.tags]
  · simp [htracks]

theorem mem_tags_addPermissions_iff {f : Finding} {c : Category} {t : String} :
    t ∈ (addPermissions f).tags c ↔ t ∈ f.tags c ∨ c = .permissions ∧
      (t = "CAMERA" ∧ "CAMERA" ∈ f.webApis ∨
        t = "LOCATION" ∧ ∃ api ∈ f.webApis, Text.contains api "GEOLOCATION" = true) := by
  have hapis : (if f.webApis.contains "CAMERA" then f.push .permissions "CAMERA" else f).webApis =
      f.webApis := by
    split <;> rfl
  unfold addPermissions
  simp only [Finding.mem_tags_push_if_iff, hapis]
  rw [List.contains_iff_mem, List.any_eq_true, or_assoc]
  refine or_congr_right ?_
  constructor
  · intro h
    rcases h with ⟨hcamera, rfl, rfl⟩ | ⟨hapi, rfl, rfl⟩
    · exact ⟨rfl, .inl ⟨rfl, hcamera⟩⟩
    · exact ⟨rfl, .inr ⟨rfl, hapi⟩⟩
  · intro h
    rcases h with ⟨rfl, ⟨rfl, hcamera⟩ | ⟨rfl, hapi⟩⟩
    · exact .inl ⟨hcamera, rfl, rfl⟩
    · exact .inr ⟨hapi, rfl, rfl⟩

/-- What only files of certain names hold is in no category. -/
theorem tags_addFileContents (fileName : String) (text : List Char) (f : Finding) (c : Category) :
    (addFileContents fileName text f).tags c = f.tags c := by
  unfold addFileContents
  split <;> split <;> cases c <;> rfl

/-- **What the web detector makes of tags**: it keeps them, and adds what they entail. -/
theorem mem_tags_entailed_iff {f : Finding} {fileName : String} {text : List Char} {c : Category}
    {t : String} :
    t ∈ (addPermissions (addFileContents fileName text (addAnalyticsService f))).tags c ↔
      t ∈ f.tags c ∨ f.Entails c t := by
  have hapis : (addFileContents fileName text (addAnalyticsService f)).webApis =
      f.tags .webApis := by
    have hfile := tags_addFileContents fileName text (addAnalyticsService f) .webApis
    refine hfile.trans ?_
    unfold addAnalyticsService
    split <;> rfl
  rw [mem_tags_addPermissions_iff, tags_addFileContents, mem_tags_addAnalyticsService_iff,
    hapis, or_assoc]
  refine or_congr_right ?_
  constructor
  · intro h
    rcases h with ⟨rfl, rfl, htracks⟩ | ⟨rfl, ⟨rfl, hcamera⟩ | ⟨rfl, api, hapi, hcontains⟩⟩
    · exact .service htracks
    · exact .camera hcamera
    · exact .location hapi hcontains
  · intro h
    cases h with
    | service htracks => exact .inl ⟨rfl, rfl, htracks⟩
    | camera hcamera => exact .inr ⟨rfl, .inl ⟨rfl, hcamera⟩⟩
    | location hapi hcontains => exact .inr ⟨rfl, .inr ⟨rfl, _, hapi, hcontains⟩⟩

/-! ## 5. Detectors -/

/-- The detector has an answer to every text, and keeps the tags that it finds where lines stand
around a text. -/
def Detector.KeepsTags (d : Detector) : Prop :=
  ∀ before content after path, ∃ found more, d.scan content path = some found ∧
    d.scan (before ++ "\n" ++ content ++ "\n" ++ after) path = some more ∧ found.TagsWithin more

/-- The characters of a text with lines around it. -/
theorem toList_surround (before content after : String) :
    (before ++ "\n" ++ content ++ "\n" ++ after).toList =
      before.toList ++ '\n' :: content.toList ++ '\n' :: after.toList := by
  have hfeed : "\n".toList = ['\n'] := rfl
  simp only [String.toList_append, hfeed, List.append_assoc, List.cons_append, List.nil_append]

/-- Dependencies are in no category. -/
theorem Finding.TagsWithin.dependencies_if {p : Prop} [Decidable p] {f g : Finding}
    (h : f.TagsWithin g) (ofFirst ofSecond : List Dependency) :
    (if p then { f with dependencies := ofFirst } else f).TagsWithin
      (if p then { g with dependencies := ofSecond } else g) := by
  by_cases hp : p
  · rw [if_pos hp, if_pos hp]
    intro c t ht
    have hkept := h c t
    cases c <;> exact hkept ht
  · rw [if_neg hp, if_neg hp]
    exact h

/-- What the web detector finds in a category: what its catalog gives, and what that entails. -/
theorem Detector.mem_tags_web_iff {cat : Catalog} {content : String} {path : Path} {found : Finding}
    {c : Category} {t : String} (h : (web cat).scan content path = some found) :
    t ∈ found.tags c ↔ t ∈ (cat.apply content.toList path (.empty cat.name path)).tags c ∨
      (cat.apply content.toList path (.empty cat.name path)).Entails c t := by
  obtain rfl := Option.some.inj h
  exact mem_tags_entailed_iff

section Detectors

variable {cat : Catalog} (hcat : cat.KeepsLines)

include hcat in
/-- What a catalog finds in a text it finds there as well where lines stand around the text. -/
theorem Catalog.tags_found_surround (before content after : String) (path : Path) :
    (cat.apply content.toList path (.empty cat.name path)).TagsWithin
      (cat.apply (before ++ "\n" ++ content ++ "\n" ++ after).toList path
        (.empty cat.name path)) := by
  rw [toList_surround]
  exact tags_apply_surround hcat before.toList after.toList content.toList path
    (.empty cat.name path)

include hcat in
theorem Detector.android_keepsTags : (android cat).KeepsTags := by
  intro before content after path
  have hkept := Catalog.tags_found_surround hcat before content after path
  exact ⟨_, _, rfl, rfl, hkept.dependencies_if _ _⟩

include hcat in
theorem Detector.ios_keepsTags : (ios cat).KeepsTags := by
  intro before content after path
  have hkept := Catalog.tags_found_surround hcat before content after path
  exact ⟨_, _, rfl, rfl, hkept.dependencies_if _ _⟩

include hcat in
/-- **The web detector keeps its tags**, those that others entail among them. -/
theorem Detector.web_keepsTags : (web cat).KeepsTags := by
  intro before content after path
  have hkept := Catalog.tags_found_surround hcat before content after path
  refine ⟨_, _, rfl, rfl, fun c t ht => ?_⟩
  rw [mem_tags_web_iff rfl] at ht ⊢
  rcases ht with hgiven | hentailed
  · exact .inl (hkept c t hgiven)
  · exact .inr (hentailed.mono hkept)

end Detectors

end PrivacyAudit
