import PrivacyAudit.Proofs.Markup

/-!
# Sources of elements

The source of a script or of a frame is looked for inside a tag whose name begins like the element:
behind as much of the tag as possible stands `src=`, in any case, and a part between quotes. Where
no value ends with `src=` itself, this is the last attribute whose name ends with `src`
(`groupTexts_sourceOf`). It is the source of the element in all tags whose names do not just begin
like the element, with attributes whose names do not just end with `src`
(`StartTag.taken?_eq_source?`).
-/

namespace PrivacyAudit.Markup

open Pattern

/-! ## 1. Attributes -/

/-- The text is the word but for case. -/
def Spells (word : String) (text : List Char) : Prop :=
  List.Forall₂ (fun x c => c.toNat ∈ Text.caseVariants x.toNat) word.toList text

namespace Attribute

/-- The attribute is the one of a name. -/
def IsNamed (a : Attribute) (name : String) : Prop := lowered a.name = name.toList

/-- The attribute is taken for a source: its name ends with `src`, and its value is not empty. -/
def IsTaken (a : Attribute) : Prop := "src".toList <:+ lowered a.name ∧ a.value ≠ []

/-- The value ends with the text that is looked for in front of a source. -/
def EndsInSource (a : Attribute) : Prop := Spells "src=" (a.value.drop (a.value.length - 4))

instance : DecidablePred Attribute.IsTaken :=
  fun a => inferInstanceAs (Decidable (_ ∧ a.value ≠ []))

instance (a : Attribute) (name : String) : Decidable (a.IsNamed name) :=
  inferInstanceAs (Decidable (_ = _))

instance : DecidablePred Attribute.EndsInSource :=
  fun _ => inferInstanceAs (Decidable (List.Forall₂ _ _ _))

end Attribute

/-- The attribute of a tag that is taken for the source of an element: the last one, if its name
begins like it. -/
def StartTag.taken? (t : StartTag) (element : String) : Option Attribute :=
  if t.BeginsLike element then (t.attributes.filter (·.IsTaken)).getLast? else none

/-- The source of an element. -/
def StartTag.source? (t : StartTag) (element : String) : Option Attribute :=
  if t.IsNamed element then t.attributes.find? (·.IsNamed "src") else none

/-- The sources that are taken for those of an element. -/
def takenSources (element : String) (ts : List StartTag) : List String :=
  ts.filterMap fun t => (t.taken? element).map fun a => String.ofList a.value

/-- The sources of an element. -/
def sources (element : String) (ts : List StartTag) : List String :=
  ts.filterMap fun t => (t.source? element).map fun a => String.ofList a.value

/-! ## 2. Where a source may begin -/

/-- What is asked for at a source. -/
def sourceMark : List Pattern := anyCase "src=" ++ quotedGroup 1

theorem sourceOf_eq (element : String) :
    sourceOf element = elementWith element (insideTag :: sourceMark) := by
  rw [sourceOf, elementWith, sourceMark, List.append_assoc, List.append_assoc,
    List.singleton_append]

section Attempts

variable {before : Option Char} {position : Nat} {slots : List (Nat × Nat)} {ps : List Pattern}
  {text rest u value : List Char} {q : Char}

/-- The sets that read `src=`. -/
def sourceSets : List CharSet := "src=".toList.map .caseVariants

theorem sourceWord_chars : ∀ x ∈ "src=".toList, x ∈ wordChars := forall_mem_of_all (by decide)

theorem length_of_read (h : Read sourceSets text) : text.length = 4 := h.length_eq.symm

theorem not_isQuote_of_read (h : Read sourceSets text) : ∀ c ∈ text, ¬ IsQuote c := by
  rintro c hc (rfl | rfl)
  · exact not_mem_of_read h sourceWord_chars (by decide) (by decide) hc
  · exact not_mem_of_read h sourceWord_chars (by decide) (by decide) hc

theorem ne_close_of_read (h : Read sourceSets text) : ∀ c ∈ text, c ≠ '>' := by
  rintro c hc rfl
  exact not_mem_of_read h sourceWord_chars (by decide) (by decide) hc

theorem spells_iff_read (word : String) :
    Spells word text ↔ Read (word.toList.map .caseVariants) text := by
  simp only [Spells, Read, List.forall₂_map_left_iff, CharSet.contains_caseVariants]

/-- A part between quotes has a quote and no second one behind it. -/
theorem exists_eq_of_quotedGroup (h : attempts before position slots (quotedGroup 1) text ≠ []) :
    ∃ q d rest, text = q :: d :: rest ∧ IsQuote q ∧ ¬ IsQuote d := by
  cases text with
  | nil => exact absurd attempts_set_nil h
  | cons q text =>
    rw [quotedGroup, attempts_set_cons] at h
    split at h
    next hq =>
      rw [attempts_group, attempts_many1 (reads_set _)] at h
      cases text with
      | nil => exact absurd attempts_set_nil h
      | cons d rest =>
        rw [attempts_set_cons] at h
        split at h
        next hd => exact ⟨q, d, rest, rfl, contains_quoteMarks.mp hq,
          contains_complement_quoteMarks.mp hd⟩
        next => exact absurd rfl h
    next => exact absurd rfl h

/-- A source that begins in front of a quote, without another before it, has `src=` up to it, and a
value. -/
theorem read_of_sourceMark (h : attempts before position slots sourceMark (u ++ q :: rest) ≠ [])
    (hq : IsQuote q) (hu : ∀ c ∈ u, ¬ IsQuote c) :
    Read sourceSets u ∧ ∃ d more, rest = d :: more ∧ ¬ IsQuote d := by
  rw [sourceMark, anyCase_eq] at h
  obtain ⟨read, more, htext, hread, hmore⟩ := exists_read h
  obtain ⟨q', d, more, rfl, hq', hd⟩ := exists_eq_of_quotedGroup hmore
  obtain ⟨z, rfl, hz⟩ := eq_append_of_not_mem htext fun hmem => not_isQuote_of_read hread q hmem hq
  cases z with
  | nil =>
    obtain ⟨-, rfl⟩ := List.cons.inj hz
    rw [List.append_nil]
    exact ⟨hread, d, more, rfl, hd⟩
  | cons e z =>
    obtain ⟨rfl, -⟩ := List.cons.inj hz
    exact absurd hq' (hu q' (by simp))

theorem sourceMark_close : attempts before position slots sourceMark ('>' :: rest) = [] := by
  by_contra h
  rw [sourceMark, anyCase_eq] at h
  obtain ⟨read, more, htext, hread, -⟩ := exists_read h
  have hnot : '>' ∉ read := not_mem_of_read hread sourceWord_chars (by decide) (by decide)
  cases hread with
  | cons => exact hnot ((List.cons.inj htext).1 ▸ List.mem_cons_self)

theorem suffix_cases {x y a b : List Char} (h : x ++ y = a ++ b) :
    (∃ w, w <:+ x ∧ b = w ++ y) ∨ b <:+ y := by
  rcases List.append_eq_append_iff.mp h with ⟨z, -, hy⟩ | ⟨w, hx, hb⟩
  · exact .inr ⟨z, hy.symm⟩
  · exact .inl ⟨w, ⟨a, hx.symm⟩, hb⟩

/-- The ends of a text with a quoted part behind it: they begin in front of the quotes, or between
them. -/
theorem quoted_suffix_cases {a b : List Char} (h : u ++ q :: (value ++ [q]) = a ++ b)
    (hb : b ≠ []) :
    (∃ w, w <:+ u ∧ b = w ++ q :: (value ++ [q])) ∨ ∃ w, w <:+ value ∧ b = w ++ [q] := by
  rcases suffix_cases h with hfront | hquoted
  · exact .inl hfront
  · rcases List.suffix_cons_iff.mp hquoted with rfl | ⟨z, hinside⟩
    · exact .inl ⟨[], List.nil_suffix, rfl⟩
    · rcases suffix_cases hinside.symm with hvalue | hlast
      · exact .inr hvalue
      · rcases List.suffix_cons_iff.mp hlast with rfl | hnil
        · exact .inr ⟨[], List.nil_suffix, rfl⟩
        · exact absurd (List.suffix_nil.mp hnil) hb

/-- A text with a quoted part behind it is passed over, if it does not end with `src=`, or the part
is empty, and the part does not end so either. -/
theorem attempts_passQuoted (hq : IsQuote q) (hu : ∀ c ∈ u, ¬ IsQuote c ∧ c ≠ '>')
    (hvalue : ∀ c ∈ value, ¬ IsQuote c ∧ c ≠ '>')
    (hname : value ≠ [] → ∀ w, w <:+ u → ¬ Read sourceSets w)
    (hend : ∀ w, w <:+ value → ¬ Read sourceSets w) :
    attempts before position slots (insideTag :: sourceMark) ((u ++ q :: (value ++ [q])) ++ rest) =
      attempts (lastRead before (u ++ q :: (value ++ [q]))) (position +
        (u ++ q :: (value ++ [q])).length) slots
          (insideTag :: sourceMark) rest := by
  have hclosing : q ≠ '>' := by
    rcases hq with rfl | rfl <;> decide
  refine attempts_run (fun c hc => ?_) fun a b hab hb before position slots => ?_
  · rw [CharSet.contains_complement_single]
    simp only [List.mem_append, List.mem_cons, List.not_mem_nil, or_false] at hc
    rcases hc with hc | rfl | hc | rfl
    · exact (hu c hc).2
    · exact hclosing
    · exact (hvalue c hc).2
    · exact hclosing
  · by_contra hsome
    rcases quoted_suffix_cases hab hb with ⟨w, hw, rfl⟩ | ⟨w, hw, rfl⟩
    · rw [List.append_assoc, List.cons_append] at hsome
      obtain ⟨hread, d, more, hmore, hd⟩ := read_of_sourceMark hsome hq fun c hc =>
        (hu c (hw.subset hc)).1
      refine hname ?_ w hw hread
      rintro rfl
      exact hd ((List.cons.inj hmore).1 ▸ hq)
    · rw [List.append_assoc, List.singleton_append] at hsome
      exact hend w hw (read_of_sourceMark hsome hq fun c hc => (hvalue c (hw.subset hc)).1).1

/-! ## 3. Tags -/

theorem Attribute.name_plain (a : Attribute) :
    ∀ c ∈ a.name, c.toNat < 0x80 ∧ ¬ IsQuote c ∧ c ≠ '>' := by
  intro c hc
  rcases a.name_chars c hc with h | rfl
  · refine ⟨toNat_lt_of_isAlphanum h, ?_, ?_⟩
    · rintro (rfl | rfl) <;> exact absurd h (by decide)
    · rintro rfl
      exact absurd h (by decide)
  · decide

/-- What stands in front of the quotes of an attribute. -/
theorem Attribute.lead_plain (a : Attribute) :
    ∀ c ∈ ' ' :: (a.name ++ ['=']), c.toNat < 0x80 ∧ ¬ IsQuote c ∧ c ≠ '>' := by
  refine List.forall_mem_cons.mpr ⟨by decide, List.forall_mem_append.mpr ⟨a.name_plain,
    forall_mem_of_all (by decide)⟩⟩

/-- An attribute with `src=` in front of its quotes is taken, if it has a value. -/
theorem Attribute.isTaken_of_read {a : Attribute} (hvalue : a.value ≠ []) {w : List Char}
    (hw : w <:+ ' ' :: (a.name ++ ['='])) (hread : Read sourceSets w) : a.IsTaken := by
  have hlowered : lowered w = "src".toList ++ ['='] :=
    (read_anyCase sourceWord_chars fun c hc => (a.lead_plain c (hw.subset hc)).1).mp hread
  obtain ⟨z, hz⟩ := hw.map Char.toLower
  rw [← lowered, hlowered, List.map_cons, List.map_append, ← List.cons_append,
    ← List.append_assoc] at hz
  have hname : z ++ "src".toList = ' ' :: lowered a.name := List.append_cancel_right hz
  cases z with
  | nil => exact absurd (List.cons.inj hname).1 (by decide)
  | cons d z => exact ⟨⟨z, (List.cons.inj hname).2⟩, hvalue⟩

theorem Attribute.endsInSource_of_read {a : Attribute} {w : List Char} (hw : w <:+ a.value)
    (hread : Read sourceSets w) : a.EndsInSource := by
  have hlast := List.suffix_iff_eq_drop.mp hw
  rw [length_of_read hread] at hlast
  rw [EndsInSource, spells_iff_read, ← hlast]
  exact hread

/-- An attribute that is not taken is passed over. -/
theorem attempts_passAttribute {a : Attribute} (htaken : ¬ a.IsTaken) (hvalue : ¬ a.EndsInSource) :
    attempts before position slots (insideTag :: sourceMark) (a.text ++ rest) =
      attempts (lastRead before a.text) (position + a.text.length) slots
        (insideTag :: sourceMark) rest := by
  have htext : a.text = ' ' :: (a.name ++ ['=']) ++ a.quote :: (a.value ++ [a.quote]) := by
    simp [Attribute.text]
  rw [htext]
  refine attempts_passQuoted a.quote_isQuote ?_ ?_ ?_ ?_
  · exact fun c hc => (a.lead_plain c hc).2
  · exact fun c hc => ⟨(a.value_chars c hc).1, (a.value_chars c hc).2.2⟩
  · exact fun hne w hw hread => htaken (Attribute.isTaken_of_read hne hw hread)
  · exact fun w hw hread => hvalue (Attribute.endsInSource_of_read hw hread)

theorem attempts_passAttributes {as : List Attribute}
    (h : ∀ a ∈ as, ¬ a.IsTaken ∧ ¬ a.EndsInSource) :
    attempts before position slots (insideTag :: sourceMark) (as.flatMap Attribute.text ++ rest) =
      attempts (lastRead before (as.flatMap Attribute.text)) (position +
        (as.flatMap Attribute.text).length) slots
          (insideTag :: sourceMark) rest := by
  induction as generalizing before position with
  | nil => rfl
  | cons a as ih =>
    obtain ⟨ha, has⟩ := List.forall_mem_cons.mp h
    rw [List.flatMap_cons, List.append_assoc, attempts_passAttribute ha.1 ha.2, ih has,
      lastRead_append, List.length_append, Nat.add_assoc]

/-- Behind attributes that are not taken there is no source up to the end of the tag. -/
theorem attempts_ending {as : List Attribute} (h : ∀ a ∈ as, ¬ a.IsTaken ∧ ¬ a.EndsInSource) :
    attempts before position slots (insideTag :: sourceMark) (StartTag.ending as ++ rest) = [] := by
  rw [StartTag.ending, List.append_assoc, attempts_passAttributes h,
    List.singleton_append, insideTag, attempts_run_ends not_contains_close, sourceMark_close]

theorem toLower_ne_equals {c : Char} (h : c.isAlpha = true) : c.toLower ≠ '=' := by
  have hascii : ∀ n < 0x80, (Char.ofNat n).isAlpha = true →
      (Char.ofNat n).toLower ≠ '=' := by decide
  have hc := hascii c.toNat (toNat_lt_of_isAlpha h)
  rw [Char.ofNat_toNat] at hc
  exact hc h

/-- No source begins in the name of a tag. -/
theorem attempts_passName {back : List Char} {d : Char} (hback : ∀ c ∈ back, c.isAlpha = true)
    (hd : d = ' ' ∨ d = '>') :
    attempts before position slots (insideTag :: sourceMark) (back ++ d :: rest) =
      attempts (lastRead before back) (position + back.length) slots (insideTag :: sourceMark)
        (d :: rest) := by
  refine attempts_run (fun c hc => ?_) fun a b hab _ before position slots => ?_
  · rw [CharSet.contains_complement_single]
    rintro rfl
    exact absurd (hback _ hc) (by decide)
  · by_contra hsome
    rw [sourceMark, anyCase_eq] at hsome
    obtain ⟨read, more, htext, hread, -⟩ := exists_read hsome
    have hnot : d ∉ read := by
      rcases hd with rfl | rfl
      · exact not_mem_of_read hread sourceWord_chars (by decide) (by decide)
      · exact not_mem_of_read hread sourceWord_chars (by decide) (by decide)
    obtain ⟨z, rfl, -⟩ := eq_append_of_not_mem htext hnot
    have hletters : ∀ c ∈ read, c.isAlpha = true := fun c hc => hback c (by rw [hab]; simp [hc])
    have hlowered : lowered read = "src=".toList :=
      (read_anyCase sourceWord_chars fun c hc => toNat_lt_of_isAlpha (hletters c hc)).mp hread
    have hmem : '=' ∈ lowered read := by
      rw [hlowered]
      decide
    obtain ⟨c, hc, hequals⟩ := List.mem_map.mp hmem
    exact toLower_ne_equals (hletters c hc) hequals

/-- The source that is found where it begins: no later one is. -/
theorem attempts_source {w : List Char} (hread : Read sourceSets w) (hq : IsQuote q)
    (hvalue : ∀ c ∈ value, ¬ IsQuote c ∧ c ≠ '>') (hend : ∀ w, w <:+ value → ¬ Read sourceSets w)
    (hrest : ∀ before position,
      attempts before position slots (insideTag :: sourceMark) rest = []) :
    attempts before position slots (insideTag :: sourceMark) (w ++ q :: (value ++ q :: rest)) =
      attempts (lastRead before w) (position + w.length) slots (quotedGroup 1)
        (q :: (value ++ q :: rest)) := by
  have hhere : attempts before position slots sourceMark (w ++ q :: (value ++ q :: rest)) =
      attempts (lastRead before w) (position + w.length) slots (quotedGroup 1)
        (q :: (value ++ q :: rest)) := by
    rw [sourceMark, anyCase_eq]
    exact attempts_sets hread
  obtain ⟨c, w, rfl⟩ : ∃ c v, w = c :: v := by
    cases hread
    exact ⟨_, _, rfl⟩
  obtain ⟨hc, hw⟩ := List.forall_mem_cons.mp (ne_close_of_read hread)
  have hquotes := (List.forall_mem_cons.mp (not_isQuote_of_read hread)).2
  have hlater (before : Option Char) (position : Nat) :
      attempts before position slots (insideTag :: sourceMark) (w ++ q :: (value ++ q :: rest)) =
      [] := by
    have hpassed :
        attempts before position slots (insideTag :: sourceMark)
          ((w ++ q :: (value ++ [q])) ++ rest) = _ :=
      attempts_passQuoted hq (fun d hd => ⟨hquotes d hd, hw d hd⟩) hvalue
        (fun _ v hv hreadv => ?_) hend
    · rw [hrest, List.append_assoc, List.cons_append, List.append_assoc,
        List.singleton_append] at hpassed
      exact hpassed
    · have hlong := hv.length_le
      have hfour := length_of_read hread
      rw [length_of_read hreadv] at hlong
      rw [List.length_cons] at hfour
      omega
  rw [← hhere, List.cons_append, insideTag, attempts_many_set_cons,
    if_pos (CharSet.contains_complement_single.mpr hc), ← insideTag, hlater, List.nil_append]

end Attempts

/-! ## 4. Pages -/

section Sources

variable {element : String} (hword : ∀ x ∈ element.toList, x ∈ wordChars)

/-- The attribute that is taken is the last of those that may be. -/
theorem StartTag.taken?_eq_some {t : StartTag} {a : Attribute} (h : t.taken? element = some a) :
    t.BeginsLike element ∧ a.IsTaken ∧ ∃ front behind, t.attributes = front ++ a :: behind ∧
      ∀ b ∈ behind, ¬ b.IsTaken := by
  unfold taken? at h
  split at h
  next hlike =>
    obtain ⟨taken, htaken⟩ := List.getLast?_eq_some_iff.mp h
    obtain ⟨front, behind, hattributes, -, hbehind⟩ := List.filter_eq_append_iff.mp htaken
    obtain ⟨front', behind', rfl, hnone, ha, hlater⟩ := List.filter_eq_cons_iff.mp hbehind
    refine ⟨hlike, of_decide_eq_true ha, front ++ front',
      behind', by simp [hattributes], fun b hb hb' => ?_⟩
    exact List.filter_eq_nil_iff.mp hlater b hb (decide_eq_true hb')
  next => cases h

theorem StartTag.taken?_eq_none {t : StartTag} (hlike : t.BeginsLike element)
    (h : t.taken? element = none) : ∀ a ∈ t.attributes, ¬ a.IsTaken := by
  rw [taken?, if_pos hlike, List.getLast?_eq_none_iff, List.filter_eq_nil_iff] at h
  exact fun a ha htaken => h a ha (decide_eq_true htaken)

/-- The span that ends with the value of an attribute, behind the name of a tag and other
attributes. -/
def sourceSegment (name : List Char) (earlier : List Attribute) (a : Attribute) : Segment :=
  .quoted ('<' :: (name ++ (earlier.flatMap Attribute.text ++ ' ' :: (a.name ++ ['='])))) a.quote
    a.value a.quote

/-- In front of its quotes, an attribute that is taken ends with `src=`. -/
theorem Attribute.IsTaken.exists_name_eq {a : Attribute} (h : a.IsTaken) :
    ∃ front word, a.name = front ++ word ∧ Read sourceSets (word ++ ['=']) := by
  obtain ⟨z, hz⟩ := h.1
  obtain ⟨front, word, hname, -, hlowered⟩ := List.map_eq_append_iff.mp hz.symm
  have hascii : ∀ c ∈ word ++ ['='], c.toNat < 0x80 := by
    refine fun c hc => (a.lead_plain c (List.mem_cons_of_mem _ ?_)).1
    rw [hname, List.append_assoc]
    exact List.mem_append_right _ hc
  refine ⟨front, word, hname, (read_anyCase sourceWord_chars hascii).mpr ?_⟩
  rw [lowered, List.map_append, hlowered]
  rfl

include hword in
/-- Where no attribute is taken, a tag holds no span. -/
theorem yields_nothingTaken {t : StartTag} (hlike : t.BeginsLike element)
    (h : ∀ a ∈ t.attributes, ¬ a.IsTaken ∧ ¬ a.EndsInSource) :
    (elementWith element (insideTag :: sourceMark)).Yields (fun _ => True) t.text none := by
  refine .nothing fun before rest _ => ⟨fun position => ?_, passes_elementWith t.not_mem_rest⟩
  obtain ⟨front, back, hname, hfront⟩ := hlike.exists_name_eq
  have hletters := t.name_letters
  rw [hname, List.forall_mem_append] at hletters
  obtain ⟨d, more, hending, hd⟩ := StartTag.exists_ending_eq t.attributes
  rw [attemptsOf_open, List.append_assoc, hname, List.append_assoc,
    attempts_element hword hletters.1 hfront, hending,
    List.cons_append, attempts_passName hletters.2 hd, ← List.cons_append, ← hending,
    attempts_ending h]

include hword in
/-- In a tag whose name begins like the element, the last attribute that may be taken is
preferred. -/
theorem head?_attemptsOf_source {before : Option Char} {position : Nat}
    {rest name front back : List Char} {earlier later : List Attribute} {a : Attribute}
    (hname : name = front ++ back) (hfront : lowered front = element.toList)
    (hletters : ∀ c ∈ name, c.isAlpha = true) (htaken : a.IsTaken) (hvalue : ¬ a.EndsInSource)
    (hlater : ∀ b ∈ later, ¬ b.IsTaken ∧ ¬ b.EndsInSource) :
    ((elementWith element (insideTag :: sourceMark)).attemptsOf before position
        ((sourceSegment name earlier a).text ++ (StartTag.ending later ++ rest))).head? =
      some ((sourceSegment name earlier a).foundAt position) := by
  obtain ⟨lead, word, haname, hread⟩ := htaken.exists_name_eq
  have hrun : ∀ c ∈ back ++ (earlier.flatMap Attribute.text ++ ' ' :: lead),
      (CharSet.single '>').complement.contains c = true := by
    intro c hc
    rw [CharSet.contains_complement_single]
    simp only [List.mem_append, List.mem_cons] at hc
    rcases hc with hc | hc | rfl | hc
    · rintro rfl
      exact absurd (hletters '>' (hname ▸ List.mem_append_right _ hc)) (by decide)
    · exact (StartTag.ne_bracket_of_mem_attributes c hc).2
    · decide
    · exact (a.name_plain c (haname ▸ List.mem_append_left _ hc)).2.2
  have htext : (sourceSegment name earlier a).text ++ (StartTag.ending later ++ rest) =
      '<' :: (front ++ ((back ++ (earlier.flatMap Attribute.text ++ ' ' :: lead)) ++
        ((word ++ ['=']) ++ a.quote ::
          (a.value ++ a.quote :: (StartTag.ending later ++ rest))))) := by
    simp [sourceSegment, Segment.quoted, hname, haname]
  have hsource (before : Option Char) :
      attempts before (position + 1 + front.length +
        (back ++ (earlier.flatMap Attribute.text ++ ' ' :: lead)).length)
          [(startSlot, position)] (insideTag :: sourceMark)
          ((word ++ ['=']) ++ a.quote :: (a.value ++ a.quote :: (StartTag.ending later ++ rest))) =
        [(sourceSegment name earlier a).foundAt position] := by
    rw [attempts_source hread a.quote_isQuote
      (fun c hc => ⟨(a.value_chars c hc).1, (a.value_chars c hc).2.2⟩)
      (fun w hw hreadw => hvalue (Attribute.endsInSource_of_read hw hreadw))
        (fun _ _ => attempts_ending hlater)]
    have hlead : position + 1 + front.length +
        (back ++ (earlier.flatMap Attribute.text ++ ' ' :: lead)).length + (word ++ ['=']).length =
          position + ('<' ::
            (name ++ (earlier.flatMap Attribute.text ++ ' ' :: (a.name ++ ['='])))).length := by
      simp only [hname, haname, List.length_append, List.length_cons, List.length_nil]
      omega
    rw [hlead]
    exact attempts_quoted a.quote_isQuote a.quote_isQuote htaken.2 fun c hc =>
      (a.value_chars c hc).1
  have hlike : ∀ c ∈ front, c.isAlpha = true :=
    fun c hc => hletters c (hname ▸ List.mem_append_left _ hc)
  rw [htext, attemptsOf_open, attempts_element hword hlike hfront, insideTag,
    head?_attempts_run hrun]
  · rw [← insideTag, hsource]
    rfl
  · rw [← insideTag, hsource]
    exact List.cons_ne_nil _ _

include hword in
/-- A tag holds the span that ends with the attribute that is taken, and no other. -/
theorem exists_yields_source (t : StartTag) :
    ∃ s?, ((t.BeginsLike element → ∀ a ∈ t.attributes, ¬ a.EndsInSource) →
        (elementWith element (insideTag :: sourceMark)).Yields (fun _ => True) t.text s?) ∧
      s?.bind (·.group? 1) = (t.taken? element).map Attribute.value := by
  by_cases hlike : t.BeginsLike element
  · cases htaken : t.taken? element with
    | none =>
      have hnone := StartTag.taken?_eq_none hlike htaken
      exact ⟨none, fun h => yields_nothingTaken hword hlike fun a ha => ⟨hnone a ha, h hlike a ha⟩,
        rfl⟩
    | some a =>
      obtain ⟨-, ha, earlier, later, hattributes, hlater⟩ := StartTag.taken?_eq_some htaken
      obtain ⟨front, back, hname, hfront⟩ := hlike.exists_name_eq
      have htext : t.text = (sourceSegment t.name earlier a).text ++ StartTag.ending later := by
        simp [StartTag.text, StartTag.ending, sourceSegment, Segment.quoted, hattributes,
          Attribute.text]
      refine ⟨some (sourceSegment t.name earlier a), fun h => ?_, Segment.group?_quoted ..⟩
      have hvalues := h hlike
      rw [hattributes, List.forall_mem_append, List.forall_mem_cons] at hvalues
      refine .one htext (fun before position rest _ => ?_) fun _ _ => ?_
      · exact head?_attemptsOf_source hword hname hfront t.name_letters ha hvalues.2.1
          fun b hb => ⟨hlater b hb, hvalues.2.2 b hb⟩
      · exact passes_elementWith (StartTag.not_mem_ending later)
  · refine ⟨none, fun _ => yields_otherElement hword hlike, ?_⟩
    rw [StartTag.taken?, if_neg hlike]
    rfl

include hword in
/-- **The sources of the scripts or frames of a page** are the values that are taken in its tags, in
order. -/
theorem groupTexts_sourceOf (ps : List Piece)
    (h : ∀ t ∈ tags ps, t.BeginsLike element → ∀ a ∈ t.attributes, ¬ a.EndsInSource) :
    groupTexts (sourceOf element) (page ps) = takenSources element (tags ps) := by
  choose segment? hyields hgroup using exists_yields_source hword
  have hshown := shows_page fun t ht => hyields t (h t ht)
  rw [groupTexts, sourceOf_eq, filterMap_group_of_shown hshown Nat.one_pos,
    List.filterMap_filterMap]
  refine List.filterMap_congr fun t _ => ?_
  have hvalue : ((segment? t).bind fun s => (s.group? 1).map String.ofList) =
      ((segment? t).bind (·.group? 1)).map String.ofList := by
    cases segment? t <;> rfl
  rw [hvalue, hgroup, Option.map_map]
  rfl

end Sources

/-! ## 5. Unmistakable tags -/

namespace StartTag

/-- What makes a tag unmistakable in the search for an element: where an attribute is taken, the
name of the tag is the element and no longer, and the name of the attribute is `src` and no
longer. -/
def Unmistakable (t : StartTag) (element : String) : Prop :=
  t.BeginsLike element → ∀ a ∈ t.attributes, a.IsTaken → t.IsNamed element ∧ a.IsNamed "src"

/-- The attributes have names of their own, in any case, and values. -/
structure Sound (t : StartTag) : Prop where
  names : (t.attributes.map fun a => lowered a.name).Nodup
  values : ∀ a ∈ t.attributes, a.value ≠ []

instance (t : StartTag) (element : String) : Decidable (t.Unmistakable element) :=
  inferInstanceAs (Decidable (_ → ∀ a ∈ t.attributes, _ → _ ∧ _))

instance (t : StartTag) : Decidable t.Sound :=
  decidable_of_iff ((t.attributes.map fun a => lowered a.name).Nodup ∧ ∀ a ∈ t.attributes,
    a.value ≠ [])
    ⟨fun h => ⟨h.1, h.2⟩, fun h => ⟨h.names, h.values⟩⟩

/-- Of attributes with names of their own, at most one has a name: it is the first and the last. -/
theorem getLast?_filter_isNamed {as : List Attribute}
    (hnames : (as.map fun a => lowered a.name).Nodup) (name : String) :
    (as.filter (·.IsNamed name)).getLast? = as.find? (·.IsNamed name) := by
  induction as with
  | nil => rfl
  | cons a as ih =>
    rw [List.map_cons, List.nodup_cons] at hnames
    by_cases ha : a.IsNamed name
    · have hnone : as.filter (·.IsNamed name) = [] := by
        refine List.filter_eq_nil_iff.mpr fun b hb hb' => hnames.1 (List.mem_map.mpr ⟨b, hb, ?_⟩)
        exact (of_decide_eq_true hb').trans ha.symm
      rw [List.filter_cons, List.find?_cons, decide_eq_true ha, if_pos rfl, hnone]
      rfl
    · rw [List.filter_cons, List.find?_cons, decide_eq_false ha, if_neg Bool.false_ne_true,
        ih hnames.2]

/-- **In an unmistakable tag the source is taken.** -/
theorem taken?_eq_source? {t : StartTag} {element : String} (hsound : t.Sound)
    (h : t.Unmistakable element) : t.taken? element = t.source? element := by
  unfold taken? source?
  by_cases hlike : t.BeginsLike element
  · rw [if_pos hlike]
    by_cases hnamed : t.IsNamed element
    · have htaken : ∀ a ∈ t.attributes, decide a.IsTaken = decide (a.IsNamed "src") := by
        refine fun a ha => decide_eq_decide.mpr ⟨fun ha' => (h hlike a ha ha').2, fun ha' => ?_⟩
        exact ⟨⟨[], ha'.symm⟩, hsound.values a ha⟩
      rw [if_pos hnamed, List.filter_congr htaken, getLast?_filter_isNamed hsound.names]
    · have hnone : ∀ a ∈ t.attributes, ¬ decide a.IsTaken = true :=
        fun a ha ha' => hnamed (h hlike a ha (of_decide_eq_true ha')).1
      rw [if_neg hnamed, List.filter_eq_nil_iff.mpr hnone, List.getLast?_nil]
  · rw [if_neg hlike, if_neg fun hnamed => hlike hnamed.beginsLike]

end StartTag

theorem takenSources_eq_sources {element : String} {ts : List StartTag}
    (h : ∀ t ∈ ts, t.Sound ∧ t.Unmistakable element) :
    takenSources element ts = sources element ts :=
  List.filterMap_congr fun t ht => congrArg _ (StartTag.taken?_eq_source? (h t ht).1 (h t ht).2)

/-- Where no attribute is taken there is no source. -/
theorem takenSources_eq_nil {element : String} {ts : List StartTag}
    (h : ∀ t ∈ ts, t.BeginsLike element → ∀ a ∈ t.attributes, ¬ a.IsTaken) :
    takenSources element ts = [] := by
  refine List.filterMap_eq_nil_iff.mpr fun t ht => ?_
  rw [Option.map_eq_none_iff]
  cases htaken : t.taken? element with
  | none => rfl
  | some a =>
    obtain ⟨hlike, ha, earlier, later, hattributes, -⟩ := StartTag.taken?_eq_some htaken
    exact absurd ha (h t ht hlike a (by simp [hattributes]))

end PrivacyAudit.Markup

/-! ## 6. What the detector says of a page -/

namespace PrivacyAudit

open Markup

theorem Finding.html?_push (f : Finding) (c : Category) (tag : String) :
    (f.push c tag).html? = f.html? := by
  cases c <;> rfl

theorem html?_addPermissions (f : Finding) : (addPermissions f).html? = f.html? := by
  unfold addPermissions
  dsimp only
  split <;> split <;> simp only [Finding.html?_push]

/-- A page is analysed. -/
theorem Detector.web_of_page (c : Catalog) {path : Path}
    (hpage : fileExtension path.fileNameText ∈ pageExtensions) (content : String) :
    ∃ f, (Detector.web c).scan content path = some f ∧ f.html? = some (.ofPage content.toList) := by
  refine ⟨_, rfl, ?_⟩
  rw [html?_addPermissions, addFileContents, if_pos (List.contains_iff_mem.mpr hpage)]
  dsimp only
  split <;> rfl

/-- **The scripts and frames of a page.** If no value in a tag that begins like a script or a frame
ends with `src=`, the sources that are listed are the values of the last attributes there whose
names end with `src`; if the tags are unmistakable, these are the sources of the scripts and
frames. -/
theorem Detector.web_sources (c : Catalog) (path : Path)
    (hpage : fileExtension path.fileNameText ∈ pageExtensions) (ps : List Piece)
    (hvalues : ∀ element ∈ ["script", "iframe"], ∀ t ∈ tags ps,
      t.BeginsLike element → ∀ a ∈ t.attributes, ¬ a.EndsInSource) :
    ∃ f h, (Detector.web c).scan (String.ofList (page ps)) path = some f ∧ f.html? = some h ∧
      h.externalScripts = takenSources "script" (tags ps) ∧
      h.iframes = takenSources "iframe" (tags ps) ∧
      ((∀ t ∈ tags ps, t.Sound ∧ t.Unmistakable "script") →
        h.externalScripts = sources "script" (tags ps)) ∧
      ((∀ t ∈ tags ps, t.Sound ∧ t.Unmistakable "iframe") →
        h.iframes = sources "iframe" (tags ps)) := by
  obtain ⟨f, hf, hhtml⟩ := web_of_page c hpage (String.ofList (page ps))
  have hscripts : groupTexts scriptSource (page ps) = takenSources "script" (tags ps) :=
    groupTexts_sourceOf (forall_mem_of_all (by decide)) ps (hvalues "script" (by simp))
  have hiframes : groupTexts iframeSource (page ps) = takenSources "iframe" (tags ps) :=
    groupTexts_sourceOf (forall_mem_of_all (by decide)) ps (hvalues "iframe" (by simp))
  rw [String.toList_ofList] at hhtml
  exact ⟨f, _, hf, hhtml, hscripts, hiframes, fun h => hscripts.trans (takenSources_eq_sources h),
    fun h => hiframes.trans (takenSources_eq_sources h)⟩

/-- `<script src="a.js" async="1">`. -/
def scriptTag : StartTag where
  name := "script".toList
  attributes :=
  [.ofTexts "src" "a.js" (by decide) (by decide), .ofTexts "async" "1" (by decide) (by decide)]
  name_letters := forall_mem_of_all (by decide)

/-- `<IFRAME id="f" SRC="b.html?src=c">`. -/
def iframeTag : StartTag where
  name := "IFRAME".toList
  attributes :=
  [.ofTexts "id" "f" (by decide) (by decide), .ofTexts "SRC" "b.html?src=c" (by decide) (by decide)]
  name_letters := forall_mem_of_all (by decide)

/-- A script and a frame, with a text between them that looks like a source. -/
def framedPage : List Piece :=
  [.tag scriptTag, .between "src=\"x\">".toList (by decide), .tag iframeTag]

/-- Sources in several cases, in front of other attributes and behind them. -/
theorem Detector.web_sources_of_framedPage :
    fileExtension (Path.ofText "a/page.HTML").fileNameText ∈ pageExtensions ∧
      (∀ element ∈ ["script", "iframe"], ∀ t ∈ tags framedPage, t.BeginsLike element →
        ∀ a ∈ t.attributes, ¬ a.EndsInSource) ∧
      ∃ f h, (Detector.web ⟨"W", ["html"], []⟩).scan (String.ofList (page framedPage))
        (.ofText "a/page.HTML") = some f ∧
        f.html? = some h ∧ h.externalScripts = ["a.js"] ∧ h.iframes = ["b.html?src=c"] := by
  have hpage : fileExtension (Path.ofText "a/page.HTML").fileNameText ∈ pageExtensions := by
    decide +kernel
  have hvalues : ∀ element ∈ ["script", "iframe"], ∀ t ∈ tags framedPage, t.BeginsLike element →
      ∀ a ∈ t.attributes, ¬ a.EndsInSource := by
    decide +kernel
  obtain ⟨f, h, hscan, hhtml, -, -, hscripts, hiframes⟩ :=
    web_sources ⟨"W", ["html"], []⟩ _ hpage framedPage hvalues
  exact ⟨hpage, hvalues, f, h, hscan, hhtml,
    (hscripts (by decide +kernel)).trans (by decide +kernel),
    (hiframes (by decide +kernel)).trans (by decide +kernel)⟩

/-- `<script data-src="lazy.js">`. -/
def lazyScript : StartTag where
  name := "script".toList
  attributes := [.ofTexts "data-src" "lazy.js" (by decide) (by decide)]
  name_letters := forall_mem_of_all (by decide)

/-- A script without a source, of which one is listed. -/
theorem Detector.web_lists_data_src :
    String.ofList (page [.tag lazyScript]) = "<script data-src=\"lazy.js\">" ∧ lazyScript.Sound ∧
      sources "script" (tags [.tag lazyScript]) = [] ∧
      ∃ f h, (Detector.web ⟨"W", ["html"], []⟩).scan (String.ofList (page [.tag lazyScript]))
        (.ofText "page.html") = some f ∧ f.html? = some h ∧ h.externalScripts = ["lazy.js"] := by
  have hpage : fileExtension (Path.ofText "page.html").fileNameText ∈ pageExtensions := by
    decide +kernel
  obtain ⟨f, hf, hhtml⟩ :=
    web_of_page ⟨"W", ["html"], []⟩ hpage (String.ofList (page [.tag lazyScript]))
  have hscripts : groupTexts scriptSource (page [.tag lazyScript]) =
      takenSources "script" (tags [.tag lazyScript]) :=
    groupTexts_sourceOf (forall_mem_of_all (by decide)) _ (by decide +kernel)
  rw [String.toList_ofList] at hhtml
  exact ⟨by decide +kernel, by decide +kernel, by decide +kernel, f, _, hf, hhtml,
    hscripts.trans (by decide +kernel)⟩

/-- **The meta elements of a page** that are listed are the tags whose names begin with `meta`, so
they are the meta elements if no name is longer. A page without such tags and without sources is no
signal. -/
theorem Detector.web_metaTags (c : Catalog) (path : Path)
    (hpage : fileExtension path.fileNameText ∈ pageExtensions) (ps : List Piece) :
    ∃ f h, (Detector.web c).scan (String.ofList (page ps)) path = some f ∧ f.html? = some h ∧
      h.metaTags = ((tags ps).filter (·.BeginsLike "meta")).map (fun t => String.ofList t.text) ∧
      ((∀ t ∈ tags ps, t.BeginsLike "meta" → t.IsNamed "meta") →
        h.metaTags = ((tags ps).filter (·.IsNamed "meta")).map fun t => String.ofList t.text) ∧
      ((∀ t ∈ tags ps, ¬ t.BeginsLike "meta") →
        (∀ element ∈ ["script", "iframe"], ∀ t ∈ tags ps, t.BeginsLike element →
          ∀ a ∈ t.attributes, ¬ a.IsTaken ∧ ¬ a.EndsInSource) →
        h.isEmpty = true ∧ f.hasSignal = { f with html? := none }.hasSignal) := by
  obtain ⟨f, hf, hhtml⟩ := web_of_page c hpage (String.ofList (page ps))
  rw [String.toList_ofList] at hhtml
  refine ⟨f, _, hf, hhtml, metaTags_page ps, fun hlonger => ?_, fun hmeta hsources => ?_⟩
  · rw [metaTags_page]
    refine congrArg _ (List.filter_congr fun t ht =>
      decide_eq_decide.mpr ⟨hlonger t ht, fun h => h.beginsLike⟩)
  · have hnone (element : String) (hmem : element ∈ ["script", "iframe"])
        (hword : ∀ x ∈ element.toList, x ∈ wordChars) :
        groupTexts (sourceOf element) (page ps) = [] :=
      (groupTexts_sourceOf hword ps fun t ht hlike a ha =>
        (hsources element hmem t ht hlike a ha).2).trans
        (takenSources_eq_nil fun t ht hlike a ha => (hsources element hmem t ht hlike a ha).1)
    have hempty : (HtmlAnalysis.ofPage (page ps)).isEmpty = true := by
      have hscripts : groupTexts scriptSource (page ps) = [] :=
        hnone "script" (by simp) (forall_mem_of_all (by decide))
      have hiframes : groupTexts iframeSource (page ps) = [] :=
        hnone "iframe" (by simp) (forall_mem_of_all (by decide))
      have htags : (HtmlAnalysis.ofPage (page ps)).metaTags = [] := by
        rw [metaTags_page, List.map_eq_nil_iff, List.filter_eq_nil_iff]
        exact fun t ht hlike => hmeta t ht (of_decide_eq_true hlike)
      rw [HtmlAnalysis.isEmpty, htags]
      simp only [HtmlAnalysis.ofPage, hscripts, hiframes]
      rfl
    have hother : ({ f with html? := none } : Finding).tags = f.tags := by
      funext category
      cases category <;> rfl
    refine ⟨hempty, ?_⟩
    rw [Finding.hasSignal, Finding.hasSignal, hother, hhtml, Option.any_some, hempty]
    rfl

/-- `<META name="a">`. -/
def metaTag : StartTag where
  name := "META".toList
  attributes := [.ofTexts "name" "a" (by decide) (by decide)]
  name_letters := forall_mem_of_all (by decide)

/-- A meta element between texts and another element; without it the page is no signal. -/
theorem Detector.web_metaTags_of_one :
    fileExtension (Path.ofText "a.xhtml").fileNameText ∈ pageExtensions ∧
      (∃ f h, (Detector.web ⟨"W", ["xhtml"], []⟩).scan
          (String.ofList (page [.between "meta>".toList (by decide), .tag metaTag, .tag scriptTag]))
          (.ofText "a.xhtml") = some f ∧ f.html? = some h ∧ h.metaTags = ["<META name=\"a\">"]) ∧
      ∃ f h, (Detector.web ⟨"W", ["xhtml"], []⟩).scan
        (String.ofList (page [.between "meta>".toList (by decide)]))
        (.ofText "a.xhtml") = some f ∧ f.html? = some h ∧ h.isEmpty = true := by
  have hpage : fileExtension (Path.ofText "a.xhtml").fileNameText ∈ pageExtensions := by
    decide +kernel
  obtain ⟨f, h, hscan, hhtml, -, hmeta, -⟩ := web_metaTags ⟨"W", ["xhtml"], []⟩ _ hpage
    [.between "meta>".toList (by decide), .tag metaTag, .tag scriptTag]
  obtain ⟨f', h', hscan', hhtml', -, -, hempty⟩ := web_metaTags ⟨"W", ["xhtml"], []⟩ _ hpage
    [.between "meta>".toList (by decide)]
  exact ⟨hpage,
    ⟨f, h, hscan, hhtml,
      (hmeta (by decide +kernel)).trans (by decide +kernel)⟩, f', h', hscan', hhtml',
    (hempty (by decide +kernel) (by decide +kernel)).1⟩

/-- `<metadata id="m">`. -/
def metadataTag : StartTag where
  name := "metadata".toList
  attributes := [.ofTexts "id" "m" (by decide) (by decide)]
  name_letters := forall_mem_of_all (by decide)

/-- A tag that is no meta element and is listed as one, so that a page without any is a signal. -/
theorem Detector.web_lists_metadata :
    String.ofList (page [.tag metadataTag]) = "<metadata id=\"m\">" ∧
      (tags [.tag metadataTag]).filter (·.IsNamed "meta") = [] ∧
      ∃ f h, (Detector.web ⟨"W", ["html"], []⟩).scan (String.ofList (page [.tag metadataTag]))
        (.ofText "page.html") =
        some f ∧ f.html? = some h ∧ h.metaTags = ["<metadata id=\"m\">"] ∧ f.hasSignal = true := by
  have hpage : fileExtension (Path.ofText "page.html").fileNameText ∈ pageExtensions := by
    decide +kernel
  obtain ⟨f, hf, hhtml⟩ :=
    web_of_page ⟨"W", ["html"], []⟩ hpage (String.ofList (page [.tag metadataTag]))
  have htags : (HtmlAnalysis.ofPage (page [.tag metadataTag])).metaTags = ["<metadata id=\"m\">"] :=
    (metaTags_page _).trans (by decide +kernel)
  rw [String.toList_ofList] at hhtml
  have hfull : (HtmlAnalysis.ofPage (page [.tag metadataTag])).isEmpty = false := by
    rw [HtmlAnalysis.isEmpty, htags, List.isEmpty_cons, Bool.and_false, Bool.false_and]
  have hsignal : f.hasSignal = true := by
    rw [Finding.hasSignal, hhtml, Option.any_some, hfull, Bool.not_false, Bool.or_true]
  exact ⟨by decide +kernel, List.filter_eq_nil_iff.mpr (by decide +kernel), f, _, hf, hhtml,
    htags, hsignal⟩

end PrivacyAudit
