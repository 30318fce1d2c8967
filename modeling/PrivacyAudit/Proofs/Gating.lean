import PrivacyAudit.Proofs.Quotients
import PrivacyAudit.Proofs.Refusing

/-!
# Which files are looked at

A file is left out because it is too large, because its first bytes look like no text, or because it
is no UTF-8, in this order; every other file is looked at. Whether the first bytes look like text is
a quotient in single precision that is compared with a quarter. The sample is so small that this is
exact (`looksBinary_iff`), so what becomes of a file can be said with whole numbers
(`inspect_decided`).

The bytes behind the sample have no part in how the file looks, and a character that the sample cuts
does no harm: its first bytes are bytes of a text.
-/

namespace PrivacyAudit

/-! ## 1. The sample -/

/-- A byte that occurs in texts: a tab, a line break, printable ASCII, or part of a longer
character. -/
def IsPrintable (b : UInt8) : Prop := b = 0x09 ∨ b = 0x0A ∨ b = 0x0D ∨
  (0x20 ≤ b ∧ b ≤ 0x7E) ∨ 0x80 ≤ b

instance : DecidablePred IsPrintable := fun b =>
  inferInstanceAs (Decidable (b = 0x09 ∨ b = 0x0A ∨ b = 0x0D ∨ (0x20 ≤ b ∧ b ≤ 0x7E) ∨ 0x80 ≤ b))

/-- The number of bytes that occur in texts. -/
def printableCount (sample : Bytes) : Nat := sample.countP (decide <| IsPrintable ·)

/-- The bytes look like no text: there are some, and one of them is zero or fewer than a quarter
occur in texts. -/
def LacksText (sample : Bytes) : Prop :=
  sample ≠ [] ∧ (0 ∈ sample ∨ 4 * printableCount sample < sample.length)

theorem isTextByte_iff {b : UInt8} : isTextByte b = true ↔ IsPrintable b := by
  unfold isTextByte IsPrintable
  simp only [Bool.or_eq_true, Bool.and_eq_true, beq_iff_eq, bne_iff_ne, decide_eq_true_eq,
    or_assoc, ne_eq, ← UInt8.toNat_inj, UInt8.le_iff_toNat_le, UInt8.reduceToNat]
  omega

theorem countP_isTextByte (sample : Bytes) : sample.countP isTextByte = printableCount sample :=
  List.countP_congr fun _ _ => by rw [isTextByte_iff, decide_eq_true_iff]

theorem length_sample_le (data : Bytes) : (data.take sampleSize).length ≤ 2 ^ 13 :=
  List.length_take_le sampleSize data

/-- **How a file looks is decided with whole numbers**, for the quotient in single precision is
exact enough. -/
theorem looksBinary_iff {data : Bytes} :
    looksBinary data = true ↔ LacksText (data.take sampleSize) := by
  have hmost := length_sample_le data
  unfold looksBinary LacksText
  generalize data.take sampleSize = sample at hmost ⊢
  cases sample with
  | nil => simp
  | cons b rest =>
    have hpart : printableCount (b :: rest) ≤ (b :: rest).length := List.countP_le_length
    have hexact : shareOf (printableCount (b :: rest)) (b :: rest).length < 0.25 ↔
        4 * printableCount (b :: rest) < (b :: rest).length :=
      shareOf_lt_quarter_iff (hpart.trans hmost) (List.length_pos_of_mem List.mem_cons_self) hmost
    simp only [List.isEmpty_cons, Bool.false_eq_true, if_false, Bool.or_eq_true,
      List.contains_iff_mem, decide_eq_true_iff, countP_isTextByte, hexact, ne_eq, reduceCtorEq,
      not_false_eq_true, true_and]

/-! ## 2. What becomes of a file -/

/-- The contents are no larger than allowed. -/
def FitsLimit (sizeLimit? : Option Nat) (data : Bytes) : Prop := ∀ limit ∈ sizeLimit?,
  data.length ≤ limit

/-- The contents are what some text is written as. -/
def IsUtf8 (data : Bytes) : Prop := ∃ content, data = Text.encode content

section

variable {ds : List Detector} {sizeLimit? : Option Nat} {f : SourceFile}

theorem filter_lt_eq_none_iff {size : Nat} :
    sizeLimit?.filter (· < size) = none ↔ ∀ limit ∈ sizeLimit?, size ≤ limit := by
  rw [Option.filter_eq_none_iff]
  exact forall₂_congr fun limit _ => by rw [decide_eq_true_iff, Nat.not_lt]

theorem decode?_eq_none_iff {data : Bytes} : Text.decode? data = none ↔ ¬ IsUtf8 data := by
  rw [Option.eq_none_iff_forall_ne_some, IsUtf8, not_exists]
  exact forall_congr' fun content => not_congr Text.decode?_eq_some_iff

/-- A file that is too large is left out for that, whatever it holds. -/
theorem inspect_of_large {limit : Nat} (hlimit : sizeLimit? = some limit)
    (hlarge : limit < f.data.length) :
    inspect ds sizeLimit? f = .error (.tooLarge f.path f.data.length limit) := by
  subst hlimit
  have hfilter : (some limit).filter (· < f.data.length) = some limit :=
    Option.filter_some_pos (decide_eq_true hlarge)
  rw [inspect, hfilter]

/-- The size of a file that is no larger than allowed has no part in what becomes of it. -/
theorem inspect_of_fits (hfits : FitsLimit sizeLimit? f.data) :
    inspect ds sizeLimit? f = inspect ds none f := by
  rw [inspect, filter_lt_eq_none_iff.mpr hfits]
  rfl

theorem not_fitsLimit_iff {data : Bytes} :
    ¬ FitsLimit sizeLimit? data ↔ ∃ limit, sizeLimit? = some limit ∧ limit < data.length := by
  unfold FitsLimit
  push Not
  rfl

/-- **Which files are left out**: those that are too large, and of the others those that look like
no text or are no UTF-8. -/
theorem inspect_eq_error_iff {fault : FileFault} :
    inspect ds sizeLimit? f = .error fault ↔
      (∃ limit, sizeLimit? = some limit ∧ limit < f.data.length ∧
        fault = .tooLarge f.path f.data.length limit) ∨
      FitsLimit sizeLimit? f.data ∧ (LacksText (f.data.take sampleSize) ∨ ¬ IsUtf8 f.data) ∧
        fault = .undecodable f.path := by
  by_cases hfits : FitsLimit sizeLimit? f.data
  · have hsmall : ¬ ∃ limit, sizeLimit? = some limit ∧ limit < f.data.length ∧
        fault = .tooLarge f.path f.data.length limit := by
      intro h
      obtain ⟨limit, hlimit, hlarge, -⟩ := h
      exact not_fitsLimit_iff.mpr ⟨limit, hlimit, hlarge⟩ hfits
    rw [inspect_of_fits hfits, inspect_none_eq_error_iff, looksBinary_iff, decode?_eq_none_iff,
      and_iff_right hfits, or_iff_right hsmall]
  · obtain ⟨limit, hlimit, hlarge⟩ := not_fitsLimit_iff.mp hfits
    rw [inspect_of_large hlimit hlarge, or_iff_left (fun h => hfits h.1), Except.error.injEq]
    constructor
    · intro h
      exact ⟨limit, hlimit, hlarge, h.symm⟩
    · intro h
      obtain ⟨limit', hlimit', -, rfl⟩ := h
      rw [Option.some.inj (hlimit.symm.trans hlimit')]

end

/-- What becomes of a file, in whole numbers. -/
structure Decided (ds : List Detector) (sizeLimit? : Option Nat) (f : SourceFile) : Prop where
  /-- A file that is as it was found is looked at as such when its turn comes. -/
  read : inspectReading ds sizeLimit? f.asFound f = inspect ds sizeLimit? f
  tooLarge : ∀ p size limit, inspect ds sizeLimit? f = .error (.tooLarge p size limit) ↔
    sizeLimit? = some limit ∧ limit < f.data.length ∧ p = f.path ∧ size = f.data.length
  undecodable : ∀ p, inspect ds sizeLimit? f = .error (.undecodable p) ↔
    FitsLimit sizeLimit? f.data ∧ (LacksText (f.data.take 8192) ∨ ¬ IsUtf8 f.data) ∧ p = f.path
  found : ∀ fs, inspect ds sizeLimit? f = .ok fs ↔
    FitsLimit sizeLimit? f.data ∧ ¬ LacksText (f.data.take 8192) ∧
      ∃ content, f.data = Text.encode content ∧ fs = scanContent ds content f.path
  readable : ∀ p reason, inspect ds sizeLimit? f ≠ .error (.unreadable p reason)
  /-- A text is looked at if no byte of its sample is zero and a quarter of them occur in texts,
  wherever the sample ends. -/
  text : ∀ content, f.data = Text.encode content → FitsLimit sizeLimit? f.data →
    0 ∉ f.data.take 8192 → (f.data.take 8192).length ≤ 4 * printableCount (f.data.take 8192) →
      inspect ds sizeLimit? f = .ok (scanContent ds content f.path)
  /-- Of two files with the same sample, both no larger than allowed or neither, both UTF-8 or
  neither, both are looked at or neither. -/
  behind : ∀ g : SourceFile, g.data.take 8192 = f.data.take 8192 →
    (FitsLimit sizeLimit? g.data ↔ FitsLimit sizeLimit? f.data) → (IsUtf8 g.data ↔ IsUtf8 f.data) →
      ((∃ fs, inspect ds sizeLimit? g = .ok fs) ↔ ∃ fs, inspect ds sizeLimit? f = .ok fs) ∧
      (inspect ds sizeLimit? g = .error (.undecodable g.path) ↔
        inspect ds sizeLimit? f = .error (.undecodable f.path))

section

variable {ds : List Detector} {sizeLimit? : Option Nat} {f : SourceFile}

theorem inspect_eq_tooLarge_iff {p : Path} {size limit : Nat} :
    inspect ds sizeLimit? f = .error (.tooLarge p size limit) ↔
      sizeLimit? = some limit ∧ limit < f.data.length ∧ p = f.path ∧ size = f.data.length := by
  rw [inspect_eq_error_iff]
  constructor
  · intro h
    obtain ⟨limit', hlimit, hlarge, hfault⟩ | ⟨-, -, hfault⟩ := h
    · obtain ⟨rfl, rfl, rfl⟩ := FileFault.tooLarge.inj hfault
      exact ⟨hlimit, hlarge, rfl, rfl⟩
    · cases hfault
  · intro h
    obtain ⟨hlimit, hlarge, rfl, rfl⟩ := h
    exact .inl ⟨limit, hlimit, hlarge, rfl⟩

theorem inspect_eq_undecodable_iff {p : Path} :
    inspect ds sizeLimit? f = .error (.undecodable p) ↔
      FitsLimit sizeLimit? f.data ∧ (LacksText (f.data.take sampleSize) ∨ ¬ IsUtf8 f.data) ∧
      p = f.path := by
  simp only [inspect_eq_error_iff, reduceCtorEq, and_false, exists_false, false_or,
    FileFault.undecodable.injEq]

theorem inspect_ne_unreadable {p : Path} {reason : String} :
    inspect ds sizeLimit? f ≠ .error (.unreadable p reason) := by
  simp only [ne_eq, inspect_eq_error_iff, reduceCtorEq, and_false, exists_false, or_false,
    not_false_eq_true]

theorem inspect_eq_found_iff {fs : List Finding} :
    inspect ds sizeLimit? f = .ok fs ↔
      FitsLimit sizeLimit? f.data ∧ ¬ LacksText (f.data.take sampleSize) ∧
        ∃ content, f.data = Text.encode content ∧ fs = scanContent ds content f.path := by
  have hlooks : looksBinary f.data = false ↔ ¬ LacksText (f.data.take sampleSize) := by
    rw [← looksBinary_iff, Bool.not_eq_true]
  simp only [inspect_eq_ok_iff, SourceFile.text?_eq_some_iff, hlooks, and_assoc, exists_and_left]
  rfl

/-- Whether a file is looked at, without its findings. -/
theorem exists_inspect_eq_ok_iff :
    (∃ fs, inspect ds sizeLimit? f = .ok fs) ↔
      FitsLimit sizeLimit? f.data ∧ ¬ LacksText (f.data.take sampleSize) ∧ IsUtf8 f.data := by
  simp only [inspect_eq_found_iff, exists_and_left]
  refine and_congr_right fun _ => and_congr_right fun _ => ⟨?_, ?_⟩
  · intro h
    obtain ⟨_, content, hdata, -⟩ := h
    exact ⟨content, hdata⟩
  · intro h
    obtain ⟨content, hdata⟩ := h
    exact ⟨_, content, hdata, rfl⟩

end

/-- **What becomes of a file is decided by its size, its first 8192 bytes and whether it is UTF-8**,
in this order; the quotient that the first bytes are judged by is as good as exact. -/
theorem inspect_decided (ds : List Detector) (sizeLimit? : Option Nat) (f : SourceFile) :
    Decided ds sizeLimit? f where
  read := inspectReading_asFound ds sizeLimit? f
  tooLarge _ _ _ := inspect_eq_tooLarge_iff
  undecodable _ := inspect_eq_undecodable_iff
  found _ := inspect_eq_found_iff
  readable _ _ := inspect_ne_unreadable
  text content hdata hfits hzero hquarter := by
    have hlooks : ¬ LacksText (f.data.take 8192) := by
      intro h
      rcases h.2 with hmem | hfew
      · exact hzero hmem
      · omega
    exact inspect_eq_found_iff.mpr ⟨hfits, hlooks, content, hdata, rfl⟩
  behind g hsample hsize hutf8 := by
    constructor
    · rw [exists_inspect_eq_ok_iff, exists_inspect_eq_ok_iff, hsize, hutf8, sampleSize, hsample]
    · rw [inspect_eq_undecodable_iff, inspect_eq_undecodable_iff, hsize, hutf8, sampleSize, hsample]
      exact and_congr_right fun _ => and_congr_right fun _ => iff_of_true rfl rfl

/-- A quarter is enough, and less is not. -/
example : looksBinary [1, 1, 1, 97] = false ∧ looksBinary [1, 1, 1, 1, 97] = true := by
  decide +kernel

end PrivacyAudit
