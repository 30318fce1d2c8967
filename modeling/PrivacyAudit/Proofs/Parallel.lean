import PrivacyAudit.Disk.Build
import PrivacyAudit.Proofs.FreshReport

/-!
# Looking at files side by side

An auditor that looks at files side by side reports what one that takes them one by one reports. The
outcomes come about batch by batch, within a batch in any order; each file has one, with its own
number. Counts, sets and the summary do not show the order, and the three lists show it within
batches only.
-/

namespace PrivacyAudit

/-- **Side by side or one by one**: both requests fail alike, or both reports are made of the
outcome of every file, and the one made side by side only reorders the other within its batches. -/
theorem parallel_agrees_inOrder {s : Settings} (hs : 0 < s.batchSize)
    (ds : List Detector) (d : Disk) (schedule schedule' : Schedule) (t t' : Timing) (project : Path)
    (o : ScanOptions) :
    (∃ failure, freshReport { s with parallel := true } ds d schedule t project o = .error failure ∧
      freshReport { s with parallel := false } ds d schedule' t' project o = .error failure) ∨
    ∃ files done, requestedFiles d project o = .ok files ∧
      done = outcomes { s with parallel := true } ds schedule files ∧
      DoneInBatches s.batchSize (inspect ds s.sizeLimit?) files done ∧
      ∃ r r₀, r = Report.ofOutcomes (scanId project o) project t files done ∧
        r₀ = Report.ofOutcomes (scanId project o) project t' files
          (runInOrder (inspect ds s.sizeLimit?) files) ∧
        freshReport { s with parallel := true } ds d schedule t project o = .ok r ∧
        freshReport { s with parallel := false } ds d schedule' t' project o = .ok r₀ ∧
        r.ReordersWithin s.batchSize r₀ := by
  cases hfiles : requestedFiles d project o with
  | error failure =>
    refine .inl ⟨failure, ?_, ?_⟩
    · exact freshReport_eq_error_iff.mpr hfiles
    · exact freshReport_eq_error_iff.mpr hfiles
  | ok files =>
    have hpar : 0 < ({ s with parallel := true } : Settings).batchSize := hs
    have hdone := outcomes_shuffled hpar ds schedule files
    refine .inr ⟨files, _, rfl, rfl, .of_shuffled _ _ hs hdone, _, _, rfl, rfl, ?_, ?_, ?_⟩
    · exact freshReport_eq_ok_iff.mpr ⟨files, hfiles, rfl⟩
    · rw [← outcomes_inOrder ds schedule' (s := { s with parallel := false }) rfl]
      exact freshReport_eq_ok_iff.mpr ⟨files, hfiles, rfl⟩
    · exact Report.ofOutcomes_reorders _ _ _ _ _ hs hdone

/-- The schedule under which every batch is done from its end. -/
def Schedule.backwards : Schedule where
  order _ size := (List.range size).reverse
  perm _ _ := List.reverse_perm _

/-- A disk with five scripts, two of which hold the word `camera`. -/
def fiveScripts : Disk :=
  [("a", "camera"), ("b", ""), ("c", "camera"), ("d", ""), ("e", "")].foldl
    (fun d (name, text) => d.addFile (.ofText ("work/" ++ name ++ ".js")) (Text.encode text))
    (.fresh [Text.encode "home"])

/-- Five files in batches of two, done from the end of each batch: the last batch is short. -/
theorem parallel_agrees_inOrder_fiveScripts :
    let s : Settings := { Settings.default with batchSize := 2 }
    let ds := [Detector.ofNeedle "lens" ["js"] "camera" .permissions "CAMERA" none]
    0 < s.batchSize ∧ ∃ r r₀,
      freshReport { s with parallel := true } ds fiveScripts .backwards ⟨0, 0, 1, 2⟩
        (.ofText "work")
        .default = .ok r ∧
      freshReport { s with parallel := false } ds fiveScripts .inOrder ⟨0, 0, 3, 4⟩ (.ofText "work")
        .default = .ok r₀ ∧
      r.totalFiles = 5 ∧ r.ReordersWithin 2 r₀ := by
  intro s ds
  have hs : 0 < s.batchSize := by decide
  have hfive : (requestedFiles fiveScripts (.ofText "work") .default).toOption.map List.length =
      some 5 := by
    decide +kernel
  refine ⟨hs, ?_⟩
  rcases parallel_agrees_inOrder hs ds fiveScripts .backwards .inOrder ⟨0, 0, 1, 2⟩ ⟨0, 0, 3, 4⟩
    (.ofText "work") .default with
    ⟨failure, hf, _⟩ | ⟨files, _, hfiles, _, _, r, r₀, hr, _, h, h₀, hrr⟩
  · rw [freshReport_eq_error_iff] at hf
    rw [hf] at hfive
    cases hfive
  · rw [hfiles] at hfive
    refine ⟨r, r₀, h, h₀, ?_, hrr⟩
    rw [hr]
    exact Option.some.inj hfive

end PrivacyAudit
