import Mathlib.Data.List.Forall2
import PrivacyAudit.CommandLine.Run
import PrivacyAudit.Proofs.Numerals

/-!
# The settings of a run

A run takes the settings of a file, or the defaults if none is named or the file is missing, and
changes in them what the command line says: the number of files that are looked at at a time, if the
text for it can be followed (`read_eq_some_iff`), and whether files are looked at side by side. Only
the file can be at fault. Settings that were acceptable stay so, for a number that is followed is
above zero: no auditor refuses them (`settingsOf_assembled`).
-/

namespace PrivacyAudit

/-! ## 1. What auditors refuse -/

theorem Catalog.ofToml_ne_settings {text origin : String} {fault : SettingsFault} :
    Catalog.ofToml text origin ≠ .error (.settings fault) := by
  intro h
  unfold Catalog.ofToml at h
  split at h
  · cases h
  · next c _ => cases hc : c.compile <;> rw [hc] at h <;> cases h

theorem Catalog.loadOr_ne_settings {builtIn : CatalogText} {d : Disk} {directory? : Option Path}
    {fileName : String} {fault : SettingsFault} :
    Catalog.loadOr builtIn d directory? fileName ≠ .error (.settings fault) := by
  have hbuiltIn : builtIn.compile.mapError Failure.rule ≠ .error (.settings fault) := by
    intro h
    cases hc : builtIn.compile <;> rw [hc] at h <;> cases h
  unfold Catalog.loadOr
  split
  · exact hbuiltIn
  · simp only
    split
    · unfold Catalog.load
      split
      · exact fun h => nomatch h
      · exact Catalog.ofToml_ne_settings
    · exact hbuiltIn

/-- Catalogs are refused for other faults than those of the settings. -/
theorem Auditor.builtInDetectors_ne_settings {d : Disk} {rulesDirectory? : Option Path}
    {fault : SettingsFault} :
    Auditor.builtInDetectors d rulesDirectory? ≠ .error (.settings fault) := by
  intro h
  unfold Auditor.builtInDetectors at h
  cases handroid : Catalog.loadOr Catalog.androidText d rulesDirectory? androidFileName with
  | error failure =>
    rw [handroid] at h
    exact Catalog.loadOr_ne_settings (handroid.trans (congrArg Except.error (Except.error.inj h)))
  | ok android =>
    cases hios : Catalog.loadOr Catalog.iosText d rulesDirectory? iosFileName with
    | error failure =>
      rw [handroid, hios] at h
      exact Catalog.loadOr_ne_settings (hios.trans (congrArg Except.error (Except.error.inj h)))
    | ok ios =>
      cases hweb : Catalog.loadOr Catalog.webText d rulesDirectory? webFileName with
      | error failure =>
        rw [handroid, hios, hweb] at h
        exact Catalog.loadOr_ne_settings (hweb.trans (congrArg Except.error (Except.error.inj h)))
      | ok web =>
        rw [handroid, hios, hweb] at h
        cases h

/-- An auditor refuses its settings exactly if they are not acceptable. -/
theorem Auditor.new_eq_settings_iff {d : Disk} {s : Settings} {fault : SettingsFault} :
    Auditor.new d s = .error (.settings fault) ↔ s.check = .error fault := by
  unfold Auditor.new
  cases hs : s.check with
  | error fault' => simp [Except.mapError, bind, Except.bind]
  | ok s' =>
    refine iff_of_false (fun h => ?_) (fun h => nomatch h)
    cases hds : builtInDetectors d s'.rulesDirectory? with
    | error failure =>
      simp only [Except.mapError, bind, Except.bind, hds, Except.error.injEq] at h
      exact builtInDetectors_ne_settings (hds.trans (congrArg Except.error h))
    | ok ds =>
      simp only [Except.mapError, bind, Except.bind, hds] at h
      cases h

/-! ## 2. What the command line says -/

/-- The letters of the word for as many as there are processors, small and capital. -/
def autoLetters : List (Char × Char) := [('a', 'A'), ('u', 'U'), ('t', 'T'), ('o', 'O')]

/-- The text is this word, each letter small or capital. -/
def IsAuto (s : String) : Prop :=
  List.Forall₂ (fun c letter => c = letter.1 ∨ c = letter.2) s.toList autoLetters

theorem toLower_eq_iff {c : Char} {letter : Char × Char} (h : letter ∈ autoLetters) :
    c.toLower = letter.1 ↔ c = letter.1 ∨ c = letter.2 := by
  have hascii : ∀ n < 0x80, ∀ letter ∈ autoLetters,
      (Char.ofNat n).toLower = letter.1 ↔ Char.ofNat n = letter.1 ∨ Char.ofNat n = letter.2 := by
      decide +kernel
  have hletters : ∀ letter ∈ autoLetters, letter.1.toNat < 0x80 ∧ letter.2.toNat < 0x80 := by decide
  by_cases hc : c.toNat < 0x80
  · have hcase := hascii c.toNat hc letter h
    rwa [Char.ofNat_toNat] at hcase
  · -- Beyond ASCII a character keeps its case and is no letter of the word.
    have hkept : c.toLower = c := dif_neg fun hupper => hc (Nat.lt_of_le_of_lt hupper.2 (by decide))
    have hsmall : c ≠ letter.1 := fun heq => hc (heq ▸ (hletters letter h).1)
    have hcapital : c ≠ letter.2 := fun heq => hc (heq ▸ (hletters letter h).2)
    rw [hkept, or_iff_left hcapital]

theorem isAuto_iff {s : String} : Text.equalIgnoringAsciiCase s "auto" = true ↔ IsAuto s := by
  have hpart : ∀ letters : List (Char × Char), (∀ letter ∈ letters, letter ∈ autoLetters) →
      ∀ cs : List Char,
      cs.map Char.toLower = letters.map Prod.fst ↔
        List.Forall₂ (fun c letter => c = letter.1 ∨ c = letter.2) cs letters := by
    intro letters hletters
    induction letters with
    | nil => simp
    | cons letter letters ih =>
      obtain ⟨hletter, hletters⟩ := List.forall_mem_cons.mp hletters
      intro cs
      cases cs with
      | nil => simp
      | cons c cs =>
        rw [List.map_cons, List.map_cons, List.cons.injEq, List.forall₂_cons,
          toLower_eq_iff hletter, ih hletters]
  rw [IsAuto, ← hpart autoLetters (fun _ h => h), Text.equalIgnoringAsciiCase, beq_iff_eq]
  rfl

/-- The word is no number: it begins with a letter. -/
theorem IsAuto.not_isDecimal {s : String} {n : Nat} (h : IsAuto s) : ¬ Numeral.IsDecimal s n := by
  intro hdecimal
  obtain ⟨ds, hsome, hlt, hsigns, -⟩ := hdecimal
  obtain ⟨d, ds, rfl⟩ := List.exists_cons_of_ne_nil hsome
  obtain ⟨hdigit, -, -⟩ := Numeral.digitChar_decimal (hlt d List.mem_cons_self)
  rw [IsAuto, autoLetters] at h
  rcases hsigns with hsigns | hsigns
  all_goals
    rw [hsigns] at h
    rcases (List.forall₂_cons.mp h).1 with hfirst | hfirst
    all_goals
      first
      | cases hfirst
      | rw [hfirst] at hdigit
        cases hdigit

namespace CommandLine

/-- The text asks for so many files at a time: as many as there are processors, or a number above
zero of at most 64 bits. -/
def Asks (processors : Processors) (text : String) (n : Nat) : Prop :=
  (IsAuto text ∧ n = processors) ∨ (Numeral.IsDecimal text n ∧ 1 ≤ n ∧ n ≤ 2 ^ 64 - 1)

/-- A text that is followed asks for what is understood, and a text that is not asks for nothing. -/
theorem read_eq_some_iff {processors : Processors} {text : String} {n : Nat} :
    (Concurrency.read text).map (Concurrency.value processors) = some n ↔
    Asks processors text n := by
  unfold Concurrency.read Asks
  split
  · next hauto =>
    have hword : IsAuto text := isAuto_iff.mp hauto
    rw [or_iff_left (fun h => hword.not_isDecimal h.1), and_iff_right hword, Option.map_some,
      Option.some.injEq]
    exact eq_comm
  · next hauto =>
    have hcount : (Numeral.readCount text).filter (0 < ·) = some n ↔
        Numeral.IsDecimal text n ∧ 1 ≤ n ∧ n ≤ 2 ^ 64 - 1 := by
      rw [Option.filter_eq_some_iff, Numeral.readCount_eq_some_iff, decide_eq_true_iff, and_assoc,
        and_comm (a := n ≤ 2 ^ 64 - 1)]
      exact Iff.rfl
    rw [or_iff_right (fun h => hauto (isAuto_iff.mpr h.1)), ← hcount, Option.map_map]
    have hvalue : Concurrency.value processors ∘ Concurrency.count = id := rfl
    rw [hvalue, Option.map_id_apply]

/-- The number of files at a time: what the command line asks for, or the number that is kept if it
asks for nothing. -/
def BatchOf (processors : Processors) (concurrency? : Option String) (kept n : Nat) : Prop :=
  (∃ text, concurrency? = some text ∧ Asks processors text n) ∨
    n = kept ∧ ∀ text, concurrency? = some text → ∀ m, ¬ Asks processors text m

variable {d : Disk} {processors : Processors} {config? : Option Path} {concurrency? : Option String}
  {sequential : Bool} {s base : Settings}

theorem batchOf_iff {kept n : Nat} : BatchOf processors concurrency? kept n ↔
    ((concurrency?.bind Concurrency.read).map (Concurrency.value processors)).getD kept = n := by
  unfold BatchOf
  simp only [← read_eq_some_iff]
  cases concurrency? with
  | none => simp [eq_comm]
  | some text =>
    simp only [Option.some.injEq, exists_eq_left', forall_eq', Option.bind_some]
    generalize (Concurrency.read text).map (Concurrency.value processors) = asked?
    cases asked? <;> simp [eq_comm]

/-- **What the command line changes**: the number of files at a time, and whether they are looked at
side by side. -/
theorem adjust_eq_iff : adjust processors concurrency? sequential base = s ↔ ∃ n,
    BatchOf processors concurrency? base.batchSize n ∧
      s = { base with parallel := base.parallel && !sequential, batchSize := n } := by
  simp only [batchOf_iff, exists_eq_left']
  unfold adjust
  cases concurrency?.bind Concurrency.read <;> cases sequential <;> simp [eq_comm]

/-- What is asked for is above zero, and so is a number that is kept. -/
theorem BatchOf.pos {kept n : Nat} (h : BatchOf processors concurrency? kept n) (hkept : 0 < kept) :
    0 < n := by
  obtain ⟨text, -, ⟨-, rfl⟩ | ⟨-, hpos, -⟩⟩ | ⟨rfl, -⟩ := h
  · exact processors.property
  · exact hpos
  · exact hkept

/-! ## 3. The settings of a run -/

/-- The settings that a run starts with: the defaults, if no file is named or the file is missing,
or those of the file, which are acceptable. -/
inductive StartsWith (d : Disk) : Option Path → Settings → Prop
  | unnamed : StartsWith d none .default
  | missing {config : Path} (habsent : d.exists? config = false) :
      StartsWith d (some config) .default
  | file {config : Path} {text : String} {s : Settings} (hpresent : d.exists? config = true)
      (htext : d.readText config = .ok text) (hread : Settings.read text = .ok s)
      (hcheck : s.check = .ok s) : StartsWith d (some config) s

theorem load_eq_ok_iff {config : Path} : Settings.load d config = .ok s ↔
    StartsWith d (some config) s := by
  unfold Settings.load
  constructor
  · intro h
    split at h
    · next hpresent =>
      split at h
      · cases h
      · next text htext =>
        split at h
        · cases h
        · next s' hread =>
          cases hcheck : s'.check with
          | error fault =>
            rw [hcheck] at h
            cases h
          | ok t =>
            rw [hcheck] at h
            obtain rfl := Except.ok.inj h
            obtain ⟨rfl, -⟩ := Settings.check_eq_ok_iff.mp hcheck
            exact .file hpresent htext hread hcheck
    · next habsent =>
      obtain rfl := Except.ok.inj h
      exact .missing (Bool.eq_false_iff.mpr habsent)
  · intro h
    cases h with
    | missing habsent => rw [if_neg (Bool.eq_false_iff.mp habsent)]
    | file hpresent htext hread hcheck =>
      rw [if_pos hpresent, htext]
      simp only [hread, hcheck]
      rfl

theorem StartsWith.check_eq_ok (h : StartsWith d config? s) : s.check = .ok s := by
  cases h with
  | unnamed => rfl
  | missing => rfl
  | file _ _ _ hcheck => exact hcheck

theorem settingsOf_eq_error_iff {fault : RunFault} :
    settingsOf d processors config? concurrency? sequential = .error fault ↔ ∃ config failure,
      config? = some config ∧ Settings.load d config = .error failure ∧
      fault = .settings config failure := by
  unfold settingsOf
  cases config? with
  | none => simp [Except.map]
  | some config =>
    simp only [Option.some.injEq, exists_and_left, exists_eq_left']
    cases Settings.load d config with
    | error failure => simp [Except.map, Except.mapError, eq_comm]
    | ok base => simp [Except.map, Except.mapError]

theorem settingsOf_eq_ok_iff : settingsOf d processors config? concurrency? sequential = .ok s ↔
    ∃ base, StartsWith d config? base ∧ adjust processors concurrency? sequential base = s := by
  unfold settingsOf
  cases config? with
  | none =>
    simp only [Except.map, Except.ok.injEq]
    constructor
    · intro h
      exact ⟨_, .unnamed, h⟩
    · intro h
      obtain ⟨_, hstart, h⟩ := h
      cases hstart
      exact h
  | some config =>
    simp only [← load_eq_ok_iff]
    cases Settings.load d config <;> simp [Except.map, Except.mapError]

/-- How the settings of a run come about. -/
structure Assembled (d : Disk) (processors : Processors) (config? : Option Path)
    (concurrency? : Option String) (sequential : Bool) : Prop where
  /-- Only a file that cannot be loaded is at fault. -/
  refused : ∀ fault, settingsOf d processors config? concurrency? sequential = .error fault ↔
    ∃ config failure, config? = some config ∧ Settings.load d config = .error failure ∧
      fault = .settings config failure
  settings : ∀ s, settingsOf d processors config? concurrency? sequential = .ok s ↔ ∃ base n,
    StartsWith d config? base ∧ BatchOf processors concurrency? base.batchSize n ∧
      s = { base with parallel := base.parallel && !sequential, batchSize := n }
  /-- The settings that a file is loaded as are those that a run with this file starts with. -/
  loaded : ∀ config base, Settings.load d config = .ok base ↔ StartsWith d (some config) base
  accepted : ∀ s, settingsOf d processors config? concurrency? sequential = .ok s → s.check = .ok s
  /-- No auditor refuses the settings. -/
  admitted : ∀ s d' fault, settingsOf d processors config? concurrency? sequential = .ok s →
    Auditor.new d' s ≠ .error (.settings fault)

theorem check_of_settingsOf (h : settingsOf d processors config? concurrency? sequential = .ok s) :
    s.check = .ok s := by
  obtain ⟨base, hstart, hadjust⟩ := settingsOf_eq_ok_iff.mp h
  obtain ⟨-, hbatch, hcapacity⟩ := Settings.check_eq_ok_iff.mp hstart.check_eq_ok
  obtain ⟨n, hn, rfl⟩ := adjust_eq_iff.mp hadjust
  exact Settings.check_eq_ok_iff.mpr ⟨rfl, hn.pos hbatch, hcapacity⟩

/-- **The settings of a run are those of the file or the defaults with what the command line says**,
and they are acceptable whatever it says. -/
theorem settingsOf_assembled (d : Disk) (processors : Processors) (config? : Option Path)
    (concurrency? : Option String) (sequential : Bool) :
    Assembled d processors config? concurrency? sequential where
  refused _ := settingsOf_eq_error_iff
  settings s := by
    simp only [settingsOf_eq_ok_iff, adjust_eq_iff, exists_and_left]
  loaded _ _ := load_eq_ok_iff
  accepted _ := check_of_settingsOf
  admitted s d' fault h hrefused := by
    have hcheck := Auditor.new_eq_settings_iff.mp hrefused
    rw [check_of_settingsOf h] at hcheck
    cases hcheck

/-- A sign in front, and the word in capitals; what is no number above zero is not followed. -/
example : ["+007", "AuTo", "0", "+", "18446744073709551616"].map (fun text =>
    (adjust ⟨4, by decide⟩ (some text) true .default).batchSize) = [7, 4, 3, 3, 3] := by decide

end CommandLine

end PrivacyAudit
