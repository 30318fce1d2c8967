import Mathlib.Algebra.Order.Ring.Rat
import Mathlib.Data.Finset.Card
import Mathlib.Tactic.Linarith
import Mathlib.Tactic.Ring
import PrivacyAudit.Proofs.Merging

/-!
# How risk grows with findings

A score counts tags that occur anywhere in the findings, each once, so it is a matter of
cardinalities:

* `Merged.two_mul_riskScore`, `Merged.level_summary`: twice the score is a natural number, and the
  levels begin at 6 and 12 of these half points;
* `Merged.Within.summary`: what holds more tags in every category has the larger summary, in its
  score, its level, its lines and the ways that data goes;
* `Merged.members_ofFindings`, `Merged.members_append`: the tags of a merge are those of its
  findings, so more findings are never safer, and two parts of a project together never score more
  than apart.
-/

namespace PrivacyAudit

/-! ## 1. How many members a set has -/

namespace TagSet

/-- The members of a set without their order. -/
def members (s : TagSet) : Finset String := s.toList.toFinset

theorem mem_members {s : TagSet} {t : String} : t ∈ s.members ↔ t ∈ s := List.mem_toFinset

/-- The list of a set holds each member once. -/
theorem nodup (s : TagSet) : s.toList.Nodup := by
  refine s.ascending.imp fun hbefore heq => ?_
  subst heq
  exact Text.Before.irrefl _ hbefore

theorem size_eq_card (s : TagSet) : s.size = s.members.card :=
  (List.toFinset_card_of_nodup s.nodup).symm

theorem isEmpty_eq_false_iff {s : TagSet} : s.isEmpty = false ↔ ∃ t, t ∈ s := by
  rw [isEmpty, List.isEmpty_eq_false_iff_exists_mem]
  rfl

end TagSet

/-- The tags that findings bring into a category, each once. -/
def joiningTags (fs : List Finding) (c : Category) : Finset String :=
  (fs.flatMap (·.joining c)).toFinset

namespace Merged

/-- The members of a merged set are the tags that the findings bring into its category. -/
theorem members_ofFindings (fs : List Finding) (c : Category) :
    ((ofFindings fs).set c).members = joiningTags fs c := by
  ext t
  rw [TagSet.mem_members, mem_set_ofFindings, joiningTags, List.mem_toFinset, List.mem_flatMap]

theorem members_append (xs ys : List Finding) (c : Category) :
    ((ofFindings (xs ++ ys)).set c).members =
      ((ofFindings xs).set c).members ∪ ((ofFindings ys).set c).members := by
  simp only [members_ofFindings, joiningTags, List.flatMap_append, List.toFinset_append]

/-! ## 2. Half points -/

/-- The sensitive permissions among some tags. -/
def sensitiveAmong (tags : Finset String) : Finset String := tags.filter (· ∈ sensitivePermissions)

/-- Twice the score of sensitive permissions, services and tracking tags: a sensitive permission
counts four half points, a service two, a tracking tag three. -/
def halfPoints (permissions services tracking : Finset String) : Nat :=
  4 * (sensitiveAmong permissions).card + 2 * services.card + 3 * tracking.card

variable {m m' : Merged}

/-- The half points of a merge. -/
def points (m : Merged) : Nat :=
  halfPoints m.permissions.members m.thirdPartyServices.members m.tracking.members

theorem sensitiveCount_eq (m : Merged) :
    m.sensitiveCount = (sensitiveAmong m.permissions.members).card := by
  have hnodup : (m.permissions.toList.filter (sensitivePermissions.contains ·)).Nodup :=
    m.permissions.nodup.filter _
  rw [sensitiveCount, List.countP_eq_length_filter, ← List.toFinset_card_of_nodup hnodup]
  congr 1
  ext t
  simp [sensitiveAmong, TagSet.members]

/-- **Twice the score is the number of half points.** -/
theorem two_mul_riskScore (m : Merged) : 2 * m.riskScore = (m.points : Rat) := by
  rw [riskScore, points, halfPoints, sensitiveCount_eq, TagSet.size_eq_card, TagSet.size_eq_card]
  push_cast
  ring

theorem riskScore_le_iff : m.riskScore ≤ m'.riskScore ↔ m.points ≤ m'.points := by
  have h := m.two_mul_riskScore
  have h' := m'.two_mul_riskScore
  constructor
  · intro hle
    exact_mod_cast (by linarith : (m.points : Rat) ≤ m'.points)
  · intro hle
    have hcast : (m.points : Rat) ≤ m'.points := by exact_mod_cast hle
    linarith

/-- A score reaches a bound exactly if the half points reach twice the bound. -/
theorem le_riskScore_iff (m : Merged) (bound : Nat) : (bound : Rat) ≤ m.riskScore ↔
    2 * bound ≤ m.points := by
  have h := m.two_mul_riskScore
  constructor
  · intro hle
    exact_mod_cast (by push_cast; linarith : ((2 * bound : Nat) : Rat) ≤ m.points)
  · intro hle
    have hcast : ((2 * bound : Nat) : Rat) ≤ m.points := by exact_mod_cast hle
    push_cast at hcast
    linarith

/-- The level of a merge by its half points. -/
theorem level_summary (m : Merged) :
    m.summary.level = if 12 ≤ m.points then .high else if 6 ≤ m.points then .medium else .low := by
  have hhigh : (6 : Rat) ≤ m.riskScore ↔ 12 ≤ m.points := m.le_riskScore_iff 6
  have hmedium : (3 : Rat) ≤ m.riskScore ↔ 6 ≤ m.points := m.le_riskScore_iff 3
  show RiskLevel.ofScore m.riskScore = _
  simp only [RiskLevel.ofScore, hhigh, hmedium]

/-! ## 3. More tags -/

/-- Every tag of a merge is in the other one, in the same category. -/
def Within (m m' : Merged) : Prop := ∀ c t, t ∈ m.set c → t ∈ m'.set c

/-- Lines that hold stay where conditions hold that held before. -/
theorem linesThatHold_sublist {lines lines' : List (Bool × String)}
    (h : List.Forall₂ (fun l l' => l.2 = l'.2 ∧ (l.1 = true → l'.1 = true)) lines lines') :
    (linesThatHold lines).Sublist (linesThatHold lines') := by
  induction h with
  | nil => exact .slnil
  | @cons l l' lines lines' hl _ ih =>
    obtain ⟨holds, line⟩ := l
    obtain ⟨holds', line'⟩ := l'
    obtain ⟨rfl, himp⟩ : line = line' ∧ (holds = true → holds' = true) := hl
    cases holds with
    | true =>
      obtain rfl : holds' = true := himp rfl
      exact ih.cons_cons line
    | false =>
      cases holds' with
      | true => exact ih.cons line
      | false => exact ih

end Merged

/-- A summary says all that another one says, and counts at least as much. -/
structure Summary.GrowsTo (small large : Summary) : Prop where
  score : small.score ≤ large.score
  level : small.level.rank ≤ large.level.rank
  mainFeatures : small.mainFeatures.Sublist large.mainFeatures
  complianceHints : small.complianceHints.Sublist large.complianceHints
  collectsPersonalData :
    small.dataFlow.collectsPersonalData = true → large.dataFlow.collectsPersonalData = true
  sharesWithThirdParties :
    small.dataFlow.sharesWithThirdParties = true → large.dataFlow.sharesWithThirdParties = true
  usesTracking : small.dataFlow.usesTracking = true → large.dataFlow.usesTracking = true
  storesLocally : small.dataFlow.storesLocally = true → large.dataFlow.storesLocally = true

namespace Merged.Within

variable {m m' : Merged}

theorem members (h : m.Within m') (c : Category) : (m.set c).members ⊆ (m'.set c).members := by
  intro t ht
  exact TagSet.mem_members.mpr (h c t (TagSet.mem_members.mp ht))

theorem points (h : m.Within m') : m.points ≤ m'.points := by
  have hsensitive := Finset.card_le_card (Finset.filter_subset_filter (· ∈ sensitivePermissions)
    (h.members .permissions))
  have hservices := Finset.card_le_card (h.members .thirdPartyServices)
  have htracking := Finset.card_le_card (h.members .tracking)
  exact Nat.add_le_add
    (Nat.add_le_add (Nat.mul_le_mul_left 4 hsensitive) (Nat.mul_le_mul_left 2 hservices))
    (Nat.mul_le_mul_left 3 htracking)

theorem any (h : m.Within m') (c : Category) (test : String → Bool)
    (hany : (m.set c).toList.any test = true) : (m'.set c).toList.any test = true := by
  obtain ⟨t, ht, htest⟩ := List.any_eq_true.mp hany
  exact List.any_eq_true.mpr ⟨t, h c t ht, htest⟩

theorem not_isEmpty (h : m.Within m') (c : Category) (hsome : (!(m.set c).isEmpty) = true) :
    (!(m'.set c).isEmpty) = true := by
  rw [Bool.not_eq_true', TagSet.isEmpty_eq_false_iff] at hsome ⊢
  obtain ⟨t, ht⟩ := hsome
  exact ⟨t, h c t ht⟩

theorem mainFeatures (h : m.Within m') : m.mainFeatures.Sublist m'.mainFeatures := by
  have hcamera : m.permissions.toList.contains "CAMERA" = true →
      m'.permissions.toList.contains "CAMERA" = true := by
    intro hmem
    exact List.contains_iff_mem.mpr (h .permissions _ (List.contains_iff_mem.mp hmem))
  exact linesThatHold_sublist (.cons ⟨rfl, h.any .permissions _⟩ (.cons ⟨rfl, hcamera⟩
    (.cons ⟨rfl, h.any .thirdPartyServices _⟩ (.cons ⟨rfl, h.not_isEmpty .tracking⟩ .nil))))

theorem complianceHints (h : m.Within m') : m.complianceHints.Sublist m'.complianceHints :=
  linesThatHold_sublist
    (.cons ⟨rfl, h.any .permissions _⟩ (.cons ⟨rfl, h.not_isEmpty .thirdPartyServices⟩
    (.cons ⟨rfl, h.not_isEmpty .tracking⟩ .nil)))

/-- **What holds more tags has the larger summary.** -/
theorem summary (h : m.Within m') : m.summary.GrowsTo m'.summary where
  score := riskScore_le_iff.mpr h.points
  level := by
    have hpoints := h.points
    rw [level_summary, level_summary]
    split
    · rw [if_pos (by omega)]
    · split
      · split
        · decide
        · rw [if_pos (by omega)]
      · exact Nat.zero_le _
  mainFeatures := h.mainFeatures
  complianceHints := h.complianceHints
  collectsPersonalData hsome := by
    have hsome : (!m.permissions.isEmpty || !m.dataCollection.isEmpty) = true := hsome
    show (!m'.permissions.isEmpty || !m'.dataCollection.isEmpty) = true
    rw [Bool.or_eq_true] at hsome ⊢
    exact hsome.imp (h.not_isEmpty .permissions) (h.not_isEmpty .dataCollection)
  sharesWithThirdParties := h.not_isEmpty .thirdPartyServices
  usesTracking := h.not_isEmpty .tracking
  storesLocally := h.not_isEmpty .storage

end Merged.Within

/-! ## 4. More findings -/

namespace Merged

theorem within_of_subset {xs ys : List Finding} (h : ∀ f ∈ xs, f ∈ ys) :
    (ofFindings xs).Within (ofFindings ys) := by
  intro c t ht
  obtain ⟨f, hf, htag⟩ := (mem_set_ofFindings xs c t).mp ht
  exact (mem_set_ofFindings ys c t).mpr ⟨f, h f hf, htag⟩

/-- Tags that two parts of a project share count once in the whole. -/
theorem points_append_le (xs ys : List Finding) :
    (ofFindings (xs ++ ys)).points ≤ (ofFindings xs).points + (ofFindings ys).points := by
  have hpermissions := members_append xs ys .permissions
  have hservices := members_append xs ys .thirdPartyServices
  have htracking := members_append xs ys .tracking
  simp only [set] at hpermissions hservices htracking
  simp only [points, halfPoints, sensitiveAmong, hpermissions, hservices, htracking,
    Finset.filter_union]
  generalize (ofFindings xs).permissions.members.filter (· ∈ sensitivePermissions) = permissions
  generalize (ofFindings ys).permissions.members.filter (· ∈ sensitivePermissions) = permissions'
  generalize (ofFindings xs).thirdPartyServices.members = services
  generalize (ofFindings ys).thirdPartyServices.members = services'
  have h1 := Finset.card_union_le permissions permissions'
  have h2 := Finset.card_union_le services services'
  have h3 := Finset.card_union_le (ofFindings xs).tracking.members (ofFindings ys).tracking.members
  omega

theorem riskScore_append_le (xs ys : List Finding) :
    (ofFindings (xs ++ ys)).riskScore ≤ (ofFindings xs).riskScore + (ofFindings ys).riskScore := by
  have hpoints : ((ofFindings (xs ++ ys)).points : Rat) ≤
      (ofFindings xs).points + (ofFindings ys).points := by
    exact_mod_cast points_append_le xs ys
  have h := (ofFindings (xs ++ ys)).two_mul_riskScore
  have hx := (ofFindings xs).two_mul_riskScore
  have hy := (ofFindings ys).two_mul_riskScore
  linarith

/-- The half points of findings, counted on the findings themselves: libraries count as services,
and each tag counts once however often it is found. -/
theorem points_ofFindings (fs : List Finding) :
    (ofFindings fs).points =
      4 * ((fs.flatMap (·.permissions)).toFinset.filter (· ∈ sensitivePermissions)).card +
        2 * (fs.flatMap fun f => f.thirdPartyServices ++ f.thirdPartyLibs).toFinset.card +
        3 * (fs.flatMap (·.tracking)).toFinset.card := by
  have hpermissions := members_ofFindings fs .permissions
  have hservices := members_ofFindings fs .thirdPartyServices
  have htracking := members_ofFindings fs .tracking
  simp only [set] at hpermissions hservices htracking
  rw [points, hpermissions, hservices, htracking]
  rfl

end Merged

/-- **Risk is monotone and exact**: findings that all occur among others have the smaller summary;
two lists together score at most what they score apart; and the score and its level are those of the
distinct tags in the findings. -/
theorem risk_of_findings (xs ys : List Finding) :
    ((∀ f ∈ xs, f ∈ ys) → (Merged.ofFindings xs).summary.GrowsTo (Merged.ofFindings ys).summary) ∧
    (Merged.ofFindings (xs ++ ys)).riskScore ≤
    (Merged.ofFindings xs).riskScore + (Merged.ofFindings ys).riskScore ∧
    ∃ sensitive services tracking : Nat,
      sensitive = ((xs.flatMap (·.permissions)).toFinset.filter (· ∈ sensitivePermissions)).card ∧
      services = (xs.flatMap fun f => f.thirdPartyServices ++ f.thirdPartyLibs).toFinset.card ∧
      tracking = (xs.flatMap (·.tracking)).toFinset.card ∧
      (Merged.ofFindings xs).summary.score = (Merged.ofFindings xs).riskScore ∧
      2 * (Merged.ofFindings xs).riskScore =
        ((4 * sensitive + 2 * services + 3 * tracking : Nat) : Rat) ∧
      (Merged.ofFindings xs).summary.level =
        if 12 ≤ 4 * sensitive + 2 * services + 3 * tracking then .high
        else if 6 ≤ 4 * sensitive + 2 * services + 3 * tracking then .medium
        else .low := by
  refine ⟨fun h => (Merged.within_of_subset h).summary, Merged.riskScore_append_le xs ys, _, _, _,
    rfl, rfl, rfl, rfl, ?_, ?_⟩
  · rw [Merged.two_mul_riskScore, Merged.points_ofFindings]
  · rw [Merged.level_summary, Merged.points_ofFindings]

/-- A finding that is sensitive, with a service that is found as a library too. -/
def cameraFinding : Finding :=
  { Finding.empty "web" (.ofText "a.js") with
    permissions := ["CAMERA"], thirdPartyServices := ["STRIPE"], thirdPartyLibs := ["STRIPE"] }

/-- A finding with the same permission and the same library, another permission and a tracker. -/
def trackerFinding : Finding :=
  { Finding.empty "web" (.ofText "b.js") with
    permissions := ["MICROPHONE", "CAMERA"], thirdPartyLibs := ["STRIPE"], tracking := ["HOTJAR"] }

/-- Three points become six and a half, and a medium risk becomes a high one. -/
theorem risk_of_findings_camera :
    (∀ f ∈ [cameraFinding, cameraFinding], f ∈ [trackerFinding, cameraFinding]) ∧
    (Merged.ofFindings [cameraFinding, cameraFinding]).summary.GrowsTo
      (Merged.ofFindings [trackerFinding, cameraFinding]).summary ∧
    (Merged.ofFindings [cameraFinding, cameraFinding]).summary.level = .medium ∧
    (Merged.ofFindings [trackerFinding, cameraFinding]).summary.level = .high := by
  have hsubset : ∀ f ∈ [cameraFinding, cameraFinding],
      f ∈ [trackerFinding, cameraFinding] := by decide
  exact ⟨hsubset, (risk_of_findings _ _).1 hsubset, by decide +kernel, by decide +kernel⟩

end PrivacyAudit
