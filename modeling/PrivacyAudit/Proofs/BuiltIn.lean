import PrivacyAudit.Auditor
import PrivacyAudit.Disk.Build
import PrivacyAudit.Proofs.Denotation
import PrivacyAudit.Proofs.Plain

/-!
# The built-in detectors

The built-in catalogs are plain, so there is a detector for each of them, and no detector loses a
tag when lines are added around a text (`builtInDetectors_keepTags`).
-/

namespace PrivacyAudit

/-! ## 1. The catalogs -/

namespace Catalog

theorem androidText_isPlain : androidText.IsPlain := by
  simp only [CatalogText.IsPlain, androidText, List.forall_mem_cons, List.not_mem_nil,
    false_implies, implies_true, and_true]
  repeat' apply And.intro
  all_goals exact Pattern.spellsPlain_toList rfl (by decide +kernel)

theorem iosText_isPlain : iosText.IsPlain := by
  simp only [CatalogText.IsPlain, iosText, List.forall_mem_cons, List.not_mem_nil, false_implies,
    implies_true, and_true]
  repeat' apply And.intro
  all_goals exact Pattern.spellsPlain_toList rfl (by decide +kernel)

theorem webText_isPlain : webText.IsPlain := by
  simp only [CatalogText.IsPlain, webText, List.forall_mem_cons, List.not_mem_nil, false_implies,
    implies_true, and_true]
  repeat' apply And.intro
  all_goals exact Pattern.spellsPlain_toList rfl (by decide +kernel)

end Catalog

/-- The built-in detectors are there, and their catalogs are those that are written. -/
theorem builtInDetectors_eq_ok (d : Disk) : ∃ android ios web : Catalog,
    Auditor.builtInDetectors d none = .ok [.android android, .ios ios, .web web] ∧
      android.KeepsLines ∧ ios.KeepsLines ∧ web.KeepsLines ∧ Catalog.webText.compile = .ok web := by
  obtain ⟨android, handroid, hlinesAndroid, -⟩ :=
    CatalogText.compile_of_plain Catalog.androidText_isPlain
  obtain ⟨ios, hios, hlinesIos, -⟩ := CatalogText.compile_of_plain Catalog.iosText_isPlain
  obtain ⟨web, hweb, hlinesWeb, -⟩ := CatalogText.compile_of_plain Catalog.webText_isPlain
  refine ⟨android, ios, web, ?_, hlinesAndroid, hlinesIos, hlinesWeb, hweb⟩
  simp only [Auditor.builtInDetectors, Catalog.loadOr, handroid, hios, hweb]
  rfl

/-! ## 2. Lines around a text -/

/-- **The built-in detectors keep their tags**: there are three, each has an answer to every text at
every path, and a tag that it finds in a category it finds there as well where lines stand around
the text. -/
theorem builtInDetectors_keepTags (d : Disk) : ∃ android ios web : Catalog,
    Auditor.builtInDetectors d none = .ok [.android android, .ios ios, .web web] ∧
      (Detector.android android).KeepsTags ∧ (Detector.ios ios).KeepsTags ∧
      (Detector.web web).KeepsTags := by
  obtain ⟨android, ios, web, hdetectors, handroid, hios, hweb, -⟩ := builtInDetectors_eq_ok d
  exact ⟨android, ios, web, hdetectors, Detector.android_keepsTags handroid,
    Detector.ios_keepsTags hios, Detector.web_keepsTags hweb⟩

/-- The rule for the analytics. -/
def analyticsRule : RuleText :=
  ⟨.tracking, analyticsTag,
    "gtag\\(|\\bga\\(|GoogleAnalytics|google-analytics|www\\.googletagmanager\\.com/gtag/js|dataLayer\\s*=\\s*\\[", none⟩

/-- A call of the analytics: its pattern has it as the second choice. -/
theorem analyticsRule_occurs {p : Pattern}
    (h : Pattern.ofText? true analyticsRule.pattern = .ok p) : p.Occurs "ga(".toList := by
  obtain ⟨e, modes, hread, hmeaning⟩ := Pattern.ofText?_eq_ok h
  obtain ⟨e', hread', first, rest, hmeaning'⟩ : ∃ e',
    Pattern.Expr.read analyticsRule.pattern.toList = .ok e' ∧
      ∃ first rest, e'.meaning (.initial true) =
      .ok (.alt first (.alt (.sequence [.look (.boundary .unicode),
        .set (.caseVariants 'g'), .set (.caseVariants 'a'), .set (.caseVariants '(')]) rest),
        .initial true) :=
    ⟨_, rfl, _, _, rfl⟩
  obtain rfl := Except.ok.inj (hread.symm.trans hread')
  obtain ⟨rfl, -⟩ := Prod.mk.inj (Except.ok.inj (hmeaning.symm.trans hmeaning'))
  have hvariants : Text.caseVariants 'g'.toNat = [103, 71] ∧
      Text.caseVariants 'a'.toNat = [97, 65] ∧ Text.caseVariants '('.toNat = [40] := by
    decide +kernel
  have hg : (CharSet.caseVariants 'g').contains 'g' = true := by
    rw [CharSet.caseVariants, hvariants.1]
    simp [CharSet.ofRanges, List.mergeSort, CharSet.contains, CharSet.addFirst, Text.Ranges.holds]
  have ha : (CharSet.caseVariants 'a').contains 'a' = true := by
    rw [CharSet.caseVariants, hvariants.2.1]
    simp [CharSet.ofRanges, List.mergeSort, CharSet.contains, CharSet.addFirst, Text.Ranges.holds]
  have hbracket : (CharSet.caseVariants '(').contains '(' = true := by
    rw [CharSet.caseVariants, hvariants.2.2]
    simp [CharSet.ofRanges, CharSet.contains, CharSet.addFirst, Text.Ranges.holds]
  have hboundary : (Look.boundary .unicode).holds none (some 'g') = true := by decide +kernel
  refine ⟨[], ['g', 'a', '('], [], rfl, .altSecond (.altFirst ?_)⟩
  refine Pattern.matches_sequence_cons.mpr ⟨[], ['g', 'a', '('], rfl, .look hboundary, ?_⟩
  refine Pattern.matches_sequence_cons.mpr ⟨['g'], ['a', '('], rfl, .set hg, ?_⟩
  exact Pattern.matches_sequence_cons.mpr ⟨['a'], ['('], rfl, .set ha, .set hbracket⟩

/-- A call of the analytics is found as a service, which no rule says of it, and lines around it do
not change that. -/
theorem builtInDetectors_keepTags_analytics :
    ∃ (android ios web : Catalog) (found more : Finding),
      Auditor.builtInDetectors (.fresh []) none = .ok [.android android, .ios ios, .web web] ∧
      (Detector.web web).scan "ga(" (.ofText "a.js") = some found ∧
      (Detector.web web).scan ("let n = 0;" ++ "\n" ++ "ga(" ++ "\n" ++ "n++;") (.ofText "a.js") =
        some more ∧
      analyticsTag ∈ found.tags .thirdPartyServices ∧
      analyticsTag ∈ more.tags .thirdPartyServices := by
  obtain ⟨android, ios, web, hdetectors, -, -, hkeeps⟩ := builtInDetectors_keepTags (.fresh [])
  obtain ⟨_, _, written, hwritten, -, -, -, hcompile⟩ := builtInDetectors_eq_ok (.fresh [])
  have hsame : Detector.web web = Detector.web written := by
    have hlists := Except.ok.inj (hdetectors.symm.trans hwritten)
    simp only [List.cons.injEq, and_true] at hlists
    exact hlists.2.2
  obtain ⟨found, more, hfound, hmore, hwithin⟩ := hkeeps "let n = 0;" "ga(" "n++;" (.ofText "a.js")
  have hservice : analyticsTag ∈ found.tags .thirdPartyServices := by
    rw [hsame] at hfound
    obtain ⟨cat, hcat, -, heach⟩ := CatalogText.compile_of_plain Catalog.webText_isPlain
    obtain rfl := Except.ok.inj (hcompile.symm.trans hcat)
    obtain ⟨p, hp, hrule⟩ := heach analyticsRule (by decide +kernel)
    have hfires :
        (⟨.tracking, analyticsTag, p, none⟩ : Rule).fires (Path.ofText "a.js").fileNameText
        "ga(".toList = true := (Pattern.occurs_iff p _).mpr (analyticsRule_occurs hp)
    refine (Detector.mem_tags_web_iff hfound).mpr (.inr (.service ?_))
    exact (Catalog.mem_tags_apply_iff _).mpr (.inr ⟨_, hrule, hfires, rfl, rfl⟩)
  exact ⟨android, ios, web, found, more, hdetectors, hfound, hmore, hservice, hwithin _ _ hservice⟩

end PrivacyAudit
