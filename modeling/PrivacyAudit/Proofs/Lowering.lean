import PrivacyAudit.Detector.Android
import PrivacyAudit.Detector.Ios
import PrivacyAudit.Detector.Web
import PrivacyAudit.Loading

/-!
# Extensions in lower case

A catalog lower-cases the extensions that it declares, each for itself; the extension of a file is
cut off its name when all of the name is in lower case. The two are the same for every letter but
one: whether a capital sigma becomes a final one depends on the letters around it, and a dot is no
obstacle to looking further. So what a stem and an extension have in lower case is what their parts
have, up to the first letter of the extension (`Text.lowerFrom_eq_iff`), and an extension that
begins with a final sigma is missed behind a stem that ends with a letter
(`Catalog.supports_declared`).
-/

namespace PrivacyAudit

namespace Text

/-! ## 1. Neighbours -/

/-- Whether a character is passed over in the search for a cased one. -/
def isCaseIgnorable (c : Char) : Bool := caseIgnorableRanges.holds c.toNat

/-- Whether a character is a letter that has a case. -/
def isCased (c : Char) : Bool := casedRanges.holds c.toNat

theorem nextIsCased_nil : nextIsCased [] = false := rfl

theorem nextIsCased_cons (c : Char) (cs : List Char) :
    nextIsCased (c :: cs) = if isCaseIgnorable c then nextIsCased cs else isCased c := by
  unfold nextIsCased isCaseIgnorable
  by_cases h : caseIgnorableRanges.holds c.toNat = true
  · rw [List.dropWhile_cons, if_pos h, if_pos h]
  · rw [List.dropWhile_cons, if_neg h, if_neg h]
    rfl

theorem nextIsCased_dot (cs : List Char) : nextIsCased ('.' :: cs) = nextIsCased cs := by
  have hdot : isCaseIgnorable '.' = true := by decide +kernel
  rw [nextIsCased_cons, if_pos hdot]

theorem not_isCaseIgnorable_sigma : isCaseIgnorable capitalSigma = false := by decide +kernel

/-- What stands in front of a text counts only by its last cased letter. -/
theorem lowerFrom_congr {before before' : List Char} (h : nextIsCased before = nextIsCased before')
    (text : List Char) : lowerFrom before text = lowerFrom before' text := by
  induction text generalizing before before' with
  | nil => rfl
  | cons c text ih =>
    have hnext : nextIsCased (c :: before) = nextIsCased (c :: before') := by
      rw [nextIsCased_cons, nextIsCased_cons, h]
    rw [lowerFrom, lowerFrom, h, ih hnext]

/-- Behind a text, a further one is lower-cased as what stands behind it. -/
theorem exists_lowerFrom_append (before text later : List Char) :
    ∃ front, lowerFrom before (text ++ later) =
      front ++ lowerFrom (text.reverse ++ before) later := by
  induction text generalizing before with
  | nil => exact ⟨[], rfl⟩
  | cons c text ih =>
    obtain ⟨front, hfront⟩ := ih (c :: before)
    rw [List.cons_append, lowerFrom, hfront, List.reverse_cons, List.append_assoc,
      List.singleton_append, ← List.append_assoc]
    exact ⟨_, rfl⟩

/-- Whether a text begins with a capital sigma that no cased letter follows, but for characters that
are passed over: what stands in front of the text decides whether it is a final one. -/
def opensWithSigma : List Char → Bool
  | [] => false
  | c :: rest => if isCaseIgnorable c then opensWithSigma rest
      else c == capitalSigma && !nextIsCased rest

/-- **What stands in front of a text changes its lower case only if** the text opens with a sigma
and a cased letter is before it. -/
theorem lowerFrom_eq_iff (before text : List Char) :
    lowerFrom before text = lowerFrom [] text ↔
    ¬ (opensWithSigma text = true ∧ nextIsCased before = true) := by
  induction text generalizing before with
  | nil => simp [lowerFrom, opensWithSigma]
  | cons c text ih =>
    rw [lowerFrom, lowerFrom, opensWithSigma]
    by_cases hignored : isCaseIgnorable c = true
    · have hsigma : c ≠ capitalSigma := by
        rintro rfl
        exact Bool.false_ne_true (not_isCaseIgnorable_sigma.symm.trans hignored)
      have hpassed (cs : List Char) : nextIsCased (c :: cs) = nextIsCased cs := by
        rw [nextIsCased_cons, if_pos hignored]
      have hnone : lowerFrom [c] text = lowerFrom [] text := lowerFrom_congr (hpassed []) text
      rw [if_neg hsigma, if_neg hsigma, if_pos hignored, List.append_cancel_left_eq, hnone,
        ih, hpassed]
    · have hlater : lowerFrom (c :: before) text = lowerFrom [c] text := by
        refine lowerFrom_congr ?_ text
        rw [nextIsCased_cons, nextIsCased_cons, if_neg hignored, if_neg hignored]
      rw [hlater, List.append_cancel_right_eq, if_neg hignored]
      by_cases hsigma : c = capitalSigma
      · rw [if_pos hsigma, if_pos hsigma, hsigma, beq_self_eq_true, Bool.true_and, nextIsCased_nil]
        cases nextIsCased before <;> cases nextIsCased text <;> decide
      · rw [if_neg hsigma, if_neg hsigma, beq_false_of_ne hsigma]
        simp

/-! ## 2. Dots -/

theorem lowerFrom_dot (before rest : List Char) :
    lowerFrom before ('.' :: rest) = '.' :: lowerFrom ('.' :: before) rest := by
  have hdot : lowerChar '.' = ['.'] := by decide +kernel
  rw [lowerFrom, if_neg (by decide), hdot, List.singleton_append]

/-- No code point is sent to the dot. -/
theorem image?_ne_dot (n : Nat) : Shift.image? lowerShifts n ≠ some '.'.toNat := by
  have htable : ∀ s ∈ lowerShifts, (0x2E : Int) < s.first + s.distance ∨
      s.last + s.distance < 0x2E := by
    decide +kernel
  have hdot : '.'.toNat = 0x2E := rfl
  unfold Shift.image?
  intro h
  obtain ⟨s, hs, hn⟩ := Option.map_eq_some_iff.mp h
  have hmiss := htable s (List.mem_of_find?_eq_some hs)
  have hcovers := List.find?_some hs
  simp only [Shift.covers, Bool.and_eq_true, decide_eq_true_eq] at hcovers
  rw [Shift.apply, hdot] at hn
  omega

theorem eq_of_ofNat_eq_dot {n : Nat} (h : Char.ofNat n = '.') : n = '.'.toNat := by
  by_cases hvalid : n.isValidChar
  · have hofNat : Char.ofNat n = Char.ofNatAux n hvalid := dif_pos hvalid
    rw [← h, hofNat]
    rfl
  · have hofNat : Char.ofNat n = '\x00' := dif_neg hvalid
    exact absurd (hofNat.symm.trans h) (by decide)

theorem not_mem_lowerChar {c : Char} (hc : c ≠ '.') : '.' ∉ lowerChar c := by
  unfold lowerChar
  split
  · decide
  · intro hmem
    have hn := eq_of_ofNat_eq_dot (List.mem_singleton.mp hmem).symm
    cases himage : Shift.image? lowerShifts c.toNat with
    | none =>
      rw [himage] at hn
      exact hc (Char.toNat_inj.mp hn)
    | some n =>
      rw [himage] at hn
      exact image?_ne_dot _ (himage.trans (congrArg some hn))

/-- No character becomes a dot. -/
theorem not_mem_lowerFrom {before text : List Char} (h : '.' ∉ text) :
    '.' ∉ lowerFrom before text := by
  induction text generalizing before with
  | nil => exact h
  | cons c text ih =>
    obtain ⟨hc, htext⟩ := not_or.mp (mt List.mem_cons.mpr h)
    rw [lowerFrom, List.mem_append, not_or]
    refine ⟨?_, ih htext⟩
    split
    · split <;> decide
    · exact not_mem_lowerChar (Ne.symm hc)

end Text

/-! ## 3. Extensions -/

theorem behindLastDot_eq_none {text : List Char} (h : '.' ∉ text) : behindLastDot text = none := by
  induction text with
  | nil => rfl
  | cons c text ih =>
    obtain ⟨hc, htext⟩ := not_or.mp (mt List.mem_cons.mpr h)
    rw [behindLastDot, ih htext]
    exact if_neg (Ne.symm hc)

theorem behindLastDot_append {text : List Char} (h : '.' ∉ text) (front : List Char) :
    behindLastDot (front ++ '.' :: text) = some text := by
  induction front with
  | nil =>
    rw [List.nil_append, behindLastDot, behindLastDot_eq_none h]
    exact if_pos rfl
  | cons c front ih => rw [List.cons_append, behindLastDot, ih]

/-- The extension of a stem with an extension is that one's lower case behind the stem. -/
theorem fileExtension_append {e : String} (h : '.' ∉ e.toList) (stem : String) :
    fileExtension (stem ++ "." ++ e) =
      String.ofList (Text.lowerFrom ('.' :: stem.toList.reverse) e.toList) := by
  have hname : (stem ++ "." ++ e).toList = stem.toList ++ '.' :: e.toList := by simp
  obtain ⟨front, hfront⟩ := Text.exists_lowerFrom_append [] stem.toList ('.' :: e.toList)
  rw [fileExtension, Text.lower, String.toList_ofList, hname, hfront, Text.lowerFrom_dot,
    behindLastDot_append (Text.not_mem_lowerFrom h), List.append_nil, Option.getD_some]

/-- Whether the stem of a file name decides on the lower case of its extension: a capital sigma
opens the extension, and the stem ends with a cased letter. -/
def stemDecides (stem e : String) : Prop :=
  Text.opensWithSigma e.toList = true ∧ Text.nextIsCased stem.toList.reverse = true

instance (stem e : String) : Decidable (stemDecides stem e) := inferInstanceAs (Decidable (_ ∧ _))

theorem fileExtension_eq_lower_iff {e : String} (h : '.' ∉ e.toList) (stem : String) :
    fileExtension (stem ++ "." ++ e) = Text.lower e ↔ ¬ stemDecides stem e := by
  rw [fileExtension_append h, Text.lower, String.ofList_inj, Text.lowerFrom_eq_iff,
    Text.nextIsCased_dot, stemDecides]

theorem CatalogText.extensions_of_compile {written : CatalogText} {c : Catalog}
    (h : written.compile = .ok c) : c.extensions = written.extensions.map Text.lower := by
  rw [compile] at h
  cases hrules : compileRules written.name written.rules with
  | error r =>
    rw [hrules] at h
    cases h
  | ok rules =>
    rw [hrules] at h
    obtain rfl := Except.ok.inj h
    rfl

theorem Catalog.extensions_of_toml {text origin : String} {written : CatalogText} {c : Catalog}
    (hread : CatalogText.read text = .ok written) (hc : Catalog.ofToml text origin = .ok c) :
    c.extensions = written.extensions.map Text.lower := by
  rw [ofToml, hread] at hc
  cases hcompile : written.compile with
  | error r =>
    simp only [hcompile] at hc
    cases hc
  | ok c' =>
    simp only [hcompile] at hc
    obtain rfl := Except.ok.inj hc
    exact CatalogText.extensions_of_compile hcompile

/-- The detectors that search by a catalog. -/
def Catalog.detectors (c : Catalog) : List Detector := [.android c, .ios c, .web c]

theorem Detector.supports_iff_hasExtension {c : Catalog} {d : Detector} (hd : d ∈ c.detectors)
    {fileName : String} (hname : fileName ≠ podfileName) :
    d.supports fileName = hasExtension c.extensions fileName := by
  simp only [Catalog.detectors, List.mem_cons, List.not_mem_nil, or_false] at hd
  obtain rfl | rfl | rfl := hd
  · rfl
  · exact congrArg (· || hasExtension c.extensions fileName) (beq_false_of_ne hname)
  · rfl

/-- **A declared extension is recognised behind every stem that does not decide on its lower case**,
and the extension of the file is the declared one behind no other; a detector with no other
extension ignores the file there. -/
theorem Catalog.supports_declared {text origin : String} {written : CatalogText} {c : Catalog}
    (hread : CatalogText.read text = .ok written) (hc : Catalog.ofToml text origin = .ok c)
    {e : String} (he : e ∈ written.extensions) (hdot : '.' ∉ e.toList) (stem : String) :
    (fileExtension (stem ++ "." ++ e) = Text.lower e ↔ ¬ stemDecides stem e) ∧
      ∀ d ∈ c.detectors, (¬ stemDecides stem e → d.supports (stem ++ "." ++ e) = true) ∧
        (written.extensions = [e] → stemDecides stem e →
          d.supports (stem ++ "." ++ e) = false) := by
  have hextension := fileExtension_eq_lower_iff hdot stem
  have hdeclared := extensions_of_toml hread hc
  have hname : stem ++ "." ++ e ≠ podfileName := by
    intro h
    have hmem : '.' ∈ podfileName.toList := by simp [← h]
    exact absurd hmem (by decide)
  refine ⟨hextension, fun d hd => ⟨fun hstem => ?_, fun honly hstem => ?_⟩⟩
  · rw [Detector.supports_iff_hasExtension hd hname, hasExtension, hextension.mpr hstem, hdeclared,
      List.contains_iff_mem]
    exact List.mem_map_of_mem he
  · have hother : fileExtension (stem ++ "." ++ e) ≠ Text.lower e := fun h => hextension.mp h hstem
    rw [Detector.supports_iff_hasExtension hd hname, hasExtension, hdeclared, honly]
    simpa using hother

/-- A catalog for files that end with a capital sigma. -/
def sigmaCatalog : String := "name = \"W\"\nextensions = [\"Σ\"]\n"

theorem sigmaCatalog_eq_ok :
    CatalogText.read sigmaCatalog = .ok ⟨"W", ["Σ"], []⟩ ∧
      Catalog.ofToml sigmaCatalog "w" = .ok ⟨"W", ["σ"], []⟩ :=
  ⟨eq_ok_of_toOption (by decide +kernel), eq_ok_of_toOption (by decide +kernel)⟩

/-- Behind a digit the extension is recognised. -/
theorem Catalog.supports_declared_sigma :
    CatalogText.read sigmaCatalog = .ok ⟨"W", ["Σ"], []⟩ ∧
    Catalog.ofToml sigmaCatalog "w" = .ok ⟨"W", ["σ"], []⟩ ∧
      (Detector.android ⟨"W", ["σ"], []⟩).supports ("1" ++ "." ++ "Σ") = true := by
  obtain ⟨hread, hc⟩ := sigmaCatalog_eq_ok
  have hdeclared := supports_declared hread hc List.mem_cons_self (by decide) "1"
  exact ⟨hread, hc, (hdeclared.2 _ List.mem_cons_self).1 (by decide +kernel)⟩

/-- Behind a letter it is not. -/
theorem Catalog.ignores_declared_sigma :
    ∃ (written : CatalogText) (c : Catalog), CatalogText.read sigmaCatalog = .ok written ∧
      Catalog.ofToml sigmaCatalog "w" = .ok c ∧ "Σ" ∈ written.extensions ∧ '.' ∉ "Σ".toList ∧
      ∀ d ∈ c.detectors, d.supports ("a" ++ "." ++ "Σ") = false :=
  ⟨_, _, sigmaCatalog_eq_ok.1, sigmaCatalog_eq_ok.2,
    List.mem_cons_self, by decide, by decide +kernel⟩

end PrivacyAudit
