import PrivacyAudit.Proofs.Uniting

/-!
# Findings that are dropped

Findings without a signal are dropped before findings are merged. A signal is looked for in the
finding itself, while what a finding adds is decided by the merge, and the two go through the parts
of a finding each in its own way. They agree (`Finding.hasSignal_iff_contributes`), so what is
dropped is missed nowhere but among the names of detectors:

* `Merged.mergeOf_filter_hasSignal`: up to these names, the merge of all findings is that of the
  findings with a signal;
* `dropping_loses_nothing`: and the names that are missing are those of the findings that add
  nothing.
-/

namespace PrivacyAudit

namespace Merged

/-- The merge with other names of detectors. -/
def withDetectors (m : Merged) (names : List String) : Merged := { m with detectors := names }

/-- The merge without the names of detectors. -/
def unnamed (m : Merged) : Merged := m.withDetectors []

/-- A merge that holds nothing is that of no findings, up to the names. -/
theorem holdsNothing_iff_unnamed_eq_empty {m : Merged} : m.HoldsNothing ↔ m.unnamed = empty := by
  constructor
  · intro h
    have hset : ∀ c, m.unnamed.set c = empty.set c := by
      intro c
      have hnone := h.sets c
      cases c <;> exact hnone
    have hpart : ∀ p, m.unnamed.assets.part p = empty.assets.part p := by
      intro p
      have hnone := h.parts p
      cases p <;> exact hnone
    exact (SameSets.of_sets hset hpart).eq rfl h.dependencies
  · intro h
    have hset : ∀ c, m.unnamed.set c = ∅ := by
      intro c
      rw [h]
      cases c <;> rfl
    have hpart : ∀ p, m.unnamed.assets.part p = ∅ := by
      intro p
      rw [h]
      cases p <;> rfl
    have hdependencies : m.unnamed.dependencies = [] := by
      rw [h]
      rfl
    refine ⟨fun c => ?_, hdependencies, hpart⟩
    have hnone := hset c
    cases c <;> exact hnone

end Merged

/-- A finding adds something to a merge, besides the name of its detector. -/
def Finding.Contributes (f : Finding) : Prop :=
  (Merged.ofFindings [f]).unnamed ≠ (Merged.ofFindings []).unnamed

instance (f : Finding) : Decidable f.Contributes :=
  inferInstanceAs (Decidable ((Merged.ofFindings [f]).unnamed ≠ (Merged.ofFindings []).unnamed))

/-- **A finding has a signal exactly if it adds something to a merge.** -/
theorem Finding.hasSignal_iff_contributes (f : Finding) : f.hasSignal = true ↔ f.Contributes := by
  have hnone : (Merged.ofFindings []).unnamed = Merged.empty := rfl
  have hsingle := Merged.holdsNothing_ofFindings_iff [f]
  rw [List.forall_mem_singleton, Merged.holdsNothing_iff_unnamed_eq_empty] at hsingle
  rw [Contributes, hnone, ne_eq, hsingle, Bool.not_eq_false]

namespace Merged

/-- What a finding brings along is a signal. -/
theorem hasSignal_of_mem {f : Finding} {t : String}
    (h : (∃ c, t ∈ f.joining c) ∨ ∃ p, t ∈ f.pagePart p) : f.hasSignal = true := by
  refine Bool.not_eq_false _ ▸ fun hnone => ?_
  obtain ⟨hjoining, -, hparts⟩ := Finding.hasSignal_eq_false_iff.mp hnone
  rcases h with ⟨c, ht⟩ | ⟨p, ht⟩
  · rw [hjoining c] at ht
    exact absurd ht List.not_mem_nil
  · rw [hparts p] at ht
    exact absurd ht List.not_mem_nil

/-- What only findings with a signal have is not lost with the others. -/
theorem exists_mem_filter_hasSignal {fs : List Finding} {P : Finding → Prop}
    (h : ∀ f, P f → f.hasSignal = true) :
    (∃ f ∈ fs, P f) ↔ ∃ f ∈ fs.filter Finding.hasSignal, P f := by
  constructor
  · intro hexists
    obtain ⟨f, hf, hp⟩ := hexists
    exact ⟨f, List.mem_filter.mpr ⟨hf, h f hp⟩, hp⟩
  · intro hexists
    obtain ⟨f, hf, hp⟩ := hexists
    exact ⟨f, List.mem_of_mem_filter hf, hp⟩

/-- Findings without a signal declare no dependencies. -/
theorem flatMap_dependencies_filter (fs : List Finding) :
    (fs.filter Finding.hasSignal).flatMap (·.dependencies) = fs.flatMap (·.dependencies) := by
  induction fs with
  | nil => rfl
  | cons f fs ih =>
    rw [List.flatMap_cons]
    cases hsignal : f.hasSignal with
    | true => rw [List.filter_cons_of_pos hsignal, List.flatMap_cons, ih]
    | false =>
      have hnone := (Finding.hasSignal_eq_false_iff.mp hsignal).2.1
      rw [List.filter_cons_of_neg
        (by rw [hsignal]; exact Bool.false_ne_true), ih, hnone, List.nil_append]

/-- **The merge of all findings, with the names of those that have a signal, is the merge of the
latter.** -/
theorem mergeOf_filter_hasSignal (fs : List Finding) :
    ((ofFindings fs).withDetectors ((fs.filter Finding.hasSignal).map (·.detector))).MergeOf
      (fs.filter Finding.hasSignal) := by
  have hall := mergeOf_ofFindings fs
  refine ⟨hall.ascending, hall.partsAscending, fun c t => ?_, fun p t => ?_, rfl, ?_⟩
  · have hmem : t ∈ (ofFindings fs).set c ↔ ∃ f ∈ fs.filter Finding.hasSignal, t ∈ f.joining c := by
      rw [hall.mem_set]
      exact exists_mem_filter_hasSignal fun f ht => hasSignal_of_mem (.inl ⟨c, ht⟩)
    cases c <;> exact hmem
  · show t ∈ (ofFindings fs).assets.part p ↔ _
    simp only [← Finding.mem_pagePart_iff]
    rw [mem_assets_ofFindings]
    exact exists_mem_filter_hasSignal fun f ht => hasSignal_of_mem (.inr ⟨p, ht⟩)
  · rw [flatMap_dependencies_filter]
    exact hall.dependencies

theorem ofFindings_filter_hasSignal (fs : List Finding) :
    ofFindings (fs.filter Finding.hasSignal) =
      (ofFindings fs).withDetectors ((fs.filter Finding.hasSignal).map (·.detector)) :=
  (mergeOf_ofFindings _).unique (mergeOf_filter_hasSignal fs)

end Merged

/-- **Dropping loses nothing.** A finding has a signal exactly if its merge is not that of no
findings, up to the name of its detector. So the merge of the findings with a signal is that of all,
up to the names, with the same summary. Of the names, one for each finding, those stay whose finding
adds something. -/
theorem dropping_loses_nothing (fs : List Finding) :
    (∀ f : Finding, f.hasSignal = true ↔
      (Merged.ofFindings [f]).unnamed ≠ (Merged.ofFindings []).unnamed) ∧
      (Merged.ofFindings (fs.filter Finding.hasSignal)).unnamed = (Merged.ofFindings fs).unnamed ∧
      (Merged.ofFindings (fs.filter Finding.hasSignal)).summary = (Merged.ofFindings fs).summary ∧
      (Merged.ofFindings fs).detectors.length = fs.length ∧
      (Merged.ofFindings (fs.filter Finding.hasSignal)).detectors =
        ((fs.zip (Merged.ofFindings fs).detectors).filter (·.1.Contributes)).map (·.2) := by
  have hnames : fs.zip (Merged.ofFindings fs).detectors = fs.map fun f => (f, f.detector) := by
    rw [Merged.detectors_ofFindings]
    exact List.map_prod_left_eq_zip.symm
  have hkept : fs.filter (fun f => decide f.Contributes) = fs.filter Finding.hasSignal := by
    refine List.filter_congr fun f _ => ?_
    rw [Bool.eq_iff_iff, decide_eq_true_iff, f.hasSignal_iff_contributes]
  refine ⟨Finding.hasSignal_iff_contributes, ?_, ?_, ?_, ?_⟩
  · rw [Merged.ofFindings_filter_hasSignal]
    rfl
  · rw [Merged.ofFindings_filter_hasSignal]
    rfl
  · rw [Merged.detectors_ofFindings, List.length_map]
  · rw [hnames, List.filter_map, List.map_map, Merged.detectors_ofFindings, ← hkept]
    rfl

end PrivacyAudit
