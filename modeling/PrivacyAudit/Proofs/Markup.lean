import PrivacyAudit.Detector.Web
import PrivacyAudit.Proofs.Denotation
import PrivacyAudit.Proofs.Extracting

/-!
# Pages of markup

A page is made of start tags and of texts between them. What is searched for in it begins with a `<`
and the name of an element, in any case, and ends inside the tag, since nothing that is read on the
way holds a `>`. So each tag is looked at for itself (`yields_piece`). A tag whose name only begins
like the one that is asked for is taken for the element, too: the meta elements of a page are the
tags whose names begin with `meta` (`metaTags_page`).
-/

namespace PrivacyAudit.Markup

open Pattern

/-! ## 1. Tags -/

/-- A text with its ASCII letters in lower case. -/
def lowered (text : List Char) : List Char := text.map Char.toLower

/-- An attribute with a value between quotes of either kind. -/
structure Attribute where
  name : List Char
  quote : Char
  value : List Char
  name_chars : ∀ c ∈ name, c.isAlphanum = true ∨ c = '-'
  quote_isQuote : IsQuote quote
  value_chars : ∀ c ∈ value, ¬ IsQuote c ∧ c ≠ '<' ∧ c ≠ '>'

/-- An attribute as it is written. -/
def Attribute.text (a : Attribute) : List Char :=
  ' ' :: (a.name ++ '=' :: a.quote :: (a.value ++ [a.quote]))

/-- An attribute with a name and a value that are checked, between double quotes. -/
def Attribute.ofTexts (name value : String)
    (hname : name.toList.all (fun c => decide (c.isAlphanum = true ∨ c = '-')) = true)
    (hvalue : value.toList.all (fun c => decide (¬ IsQuote c ∧ c ≠ '<' ∧ c ≠ '>')) = true) :
    Attribute where
  name := name.toList
  quote := '"'
  value := value.toList
  name_chars := forall_mem_of_all hname
  quote_isQuote := .inl rfl
  value_chars := forall_mem_of_all hvalue

/-- There is no bracket in an attribute. -/
theorem Attribute.ne_bracket (a : Attribute) : ∀ c ∈ a.text, c ≠ '<' ∧ c ≠ '>' := by
  have hname : ∀ c ∈ a.name, c ≠ '<' ∧ c ≠ '>' := by
    refine fun c hc => ⟨?_, ?_⟩ <;> rintro rfl <;> rcases a.name_chars _ hc with h | h <;>
      exact absurd h (by decide)
  have hquote : a.quote ≠ '<' ∧ a.quote ≠ '>' := by
    rcases a.quote_isQuote with h | h <;> rw [h] <;> decide
  have hmarks : (' ' ≠ '<' ∧ ' ' ≠ '>') ∧ '=' ≠ '<' ∧ '=' ≠ '>' := by decide
  simp only [text, List.forall_mem_cons, List.forall_mem_append]
  exact ⟨hmarks.1, hname, hmarks.2, hquote, fun c hc => (a.value_chars c hc).2, hquote, by simp⟩

/-- A start tag. -/
structure StartTag where
  name : List Char
  attributes : List Attribute
  name_letters : ∀ c ∈ name, c.isAlpha = true

namespace StartTag

/-- Attributes one after the other, and the bracket that closes the tag. -/
def ending (attributes : List Attribute) : List Char := attributes.flatMap Attribute.text ++ ['>']

/-- A start tag as it is written. -/
def text (t : StartTag) : List Char := '<' :: (t.name ++ ending t.attributes)

/-- The tag is one of the element. -/
def IsNamed (t : StartTag) (element : String) : Prop := lowered t.name = element.toList

/-- The name of the tag begins with that of the element. -/
def BeginsLike (t : StartTag) (element : String) : Prop := element.toList <+: lowered t.name

theorem ne_bracket_of_mem_attributes {attributes : List Attribute} :
    ∀ c ∈ attributes.flatMap Attribute.text, c ≠ '<' ∧ c ≠ '>' := by
  intro c hc
  obtain ⟨a, -, hc⟩ := List.mem_flatMap.mp hc
  exact a.ne_bracket c hc

theorem ne_bracket_of_mem_name (t : StartTag) : ∀ c ∈ t.name, c ≠ '<' ∧ c ≠ '>' := by
  refine fun c hc => ⟨?_, ?_⟩ <;> rintro rfl <;> exact absurd (t.name_letters _ hc) (by decide)

theorem not_mem_ending (attributes : List Attribute) : '<' ∉ ending attributes := by
  rw [ending, List.mem_append, not_or]
  exact ⟨fun h => (ne_bracket_of_mem_attributes _ h).1 rfl, by decide⟩

/-- Behind its own bracket there is no further one that opens a tag. -/
theorem not_mem_rest (t : StartTag) : '<' ∉ t.name ++ ending t.attributes := by
  rw [List.mem_append, not_or]
  exact ⟨fun h => (t.ne_bracket_of_mem_name _ h).1 rfl, not_mem_ending _⟩

instance (t : StartTag) (element : String) : Decidable (t.IsNamed element) :=
  inferInstanceAs (Decidable (_ = _))

instance (t : StartTag) (element : String) : Decidable (t.BeginsLike element) :=
  inferInstanceAs (Decidable (_ <+: _))

theorem IsNamed.beginsLike {t : StartTag} {element : String} (h : t.IsNamed element) :
    t.BeginsLike element :=
  ⟨[], (List.append_nil _).trans h.symm⟩

end StartTag

/-- A part of a page: a start tag, or a text between tags. -/
inductive Piece
  | tag (t : StartTag)
  | between (text : List Char) (noTag : '<' ∉ text)

/-- A part of a page as it is written. -/
def Piece.text : Piece → List Char
  | .tag t => t.text
  | .between text _ => text

/-- The tag that a part is, if it is one. -/
def Piece.tag? : Piece → Option StartTag
  | .tag t => some t
  | .between _ _ => none

/-- A page as it is written. -/
def page (ps : List Piece) : List Char := ps.flatMap Piece.text

/-- The tags of a page. -/
def tags (ps : List Piece) : List StartTag := ps.filterMap Piece.tag?

/-! ## 2. Letters in any case -/

/-- The characters of the words that tags are searched for. -/
def wordChars : List Char := "scriptfame=".toList

/-- Among the ASCII characters, those that equal one but for case are its two cases. -/
theorem mem_caseVariants_iff : ∀ x ∈ wordChars, ∀ n < 0x80,
    n ∈ Text.caseVariants x.toNat ↔ (Char.ofNat n).toLower = x :=
  forall_mem_of_all (by decide +kernel)

theorem toNat_lt_of_isAlphanum {c : Char} (h : c.isAlphanum = true) : c.toNat < 0x80 := by
  have hranges : (decide ('A'.val ≤ c.val ∧ c.val ≤ 'Z'.val) ||
      decide ('a'.val ≤ c.val) && decide (c.val ≤ 'z'.val) ||
        decide ('0'.val ≤ c.val) && decide (c.val ≤ '9'.val)) = true := h
  simp only [Bool.or_eq_true, Bool.and_eq_true, decide_eq_true_eq,
    UInt32.le_iff_toNat_le] at hranges
  have hlast : 'Z'.val.toNat = 0x5A ∧ 'z'.val.toNat = 0x7A ∧ '9'.val.toNat = 0x39 := ⟨rfl, rfl, rfl⟩
  have hval : c.toNat = c.val.toNat := rfl
  omega

theorem toNat_lt_of_isAlpha {c : Char} (h : c.isAlpha = true) : c.toNat < 0x80 :=
  toNat_lt_of_isAlphanum ((Bool.or_eq_true ..).mpr (.inl h))

theorem contains_anyCase {x c : Char} (hx : x ∈ wordChars) (hc : c.toNat < 0x80) :
    (CharSet.caseVariants x).contains c = true ↔ c.toLower = x := by
  rw [CharSet.contains_caseVariants, mem_caseVariants_iff x hx _ hc, Char.ofNat_toNat]

theorem contains_anyCase_open {c : Char} :
    (CharSet.caseVariants '<').contains c = true ↔ c = '<' := by
  have hvariants : Text.caseVariants '<'.toNat = ['<'.toNat] := by decide +kernel
  rw [CharSet.contains_caseVariants, hvariants, List.mem_singleton, Char.toNat_inj]

theorem contains_anyCase_close {c : Char} :
    (CharSet.caseVariants '>').contains c = true ↔ c = '>' := by
  have hvariants : Text.caseVariants '>'.toNat = ['>'.toNat] := by decide +kernel
  rw [CharSet.contains_caseVariants, hvariants, List.mem_singleton, Char.toNat_inj]

theorem not_contains_close : (CharSet.single '>').complement.contains '>' = false := by
  rw [← Bool.not_eq_true, CharSet.contains_complement_single]
  exact not_not_intro rfl

theorem anyCase_eq (word : String) : anyCase word = (word.toList.map .caseVariants).map .set :=
  (List.map_map ..).symm

/-- ASCII characters are read as a word if they are the word in lower case. -/
theorem read_anyCase {word text : List Char} (hword : ∀ x ∈ word, x ∈ wordChars)
    (htext : ∀ c ∈ text, c.toNat < 0x80) :
    Read (word.map .caseVariants) text ↔ lowered text = word := by
  induction word generalizing text with
  | nil => cases text <;> simp [Read, lowered]
  | cons x word ih =>
    obtain ⟨hx, hword⟩ := List.forall_mem_cons.mp hword
    cases text with
    | nil => simp [Read, lowered]
    | cons c text =>
      obtain ⟨hc, htext⟩ := List.forall_mem_cons.mp htext
      have hrest := ih hword htext
      rw [Read] at hrest
      rw [List.map_cons, Read, List.forall₂_cons, hrest, contains_anyCase hx hc, lowered, lowered,
        List.map_cons, List.cons.injEq]

/-- What is read as a word has no other characters. -/
theorem not_mem_of_read {word text : List Char} {d : Char}
    (hread : Read (word.map .caseVariants) text) (hword : ∀ x ∈ word, x ∈ wordChars)
    (hd : d.toNat < 0x80) (hother : d.toLower ∉ wordChars) : d ∉ text := by
  induction word generalizing text with
  | nil =>
    cases hread
    simp
  | cons x word ih =>
    obtain ⟨hx, hword⟩ := List.forall_mem_cons.mp hword
    cases hread with
    | cons hc hread =>
      rw [List.mem_cons, not_or]
      refine ⟨?_, ih hread hword⟩
      rintro rfl
      exact hother ((contains_anyCase hx hd).mp hc ▸ hx)

/-- What stands in front of a character that was not read was read, or begins with what was. -/
theorem eq_append_of_not_mem {u read rest rest' : List Char} {d : Char}
    (h : u ++ d :: rest = read ++ rest') (hd : d ∉ read) :
    ∃ z, u = read ++ z ∧ rest' = z ++ d :: rest := by
  rcases List.append_eq_append_iff.mp h with ⟨z, hread, hrest⟩ | ⟨z, hu, hrest⟩
  · cases z with
    | nil =>
      rw [List.append_nil] at hread
      exact ⟨[], by rw [hread, List.append_nil], hrest.symm⟩
    | cons e z =>
      obtain ⟨rfl, -⟩ := List.cons.inj hrest
      exact absurd (by rw [hread]; simp) hd
  · exact ⟨z, hu, hrest⟩

/-! ## 3. Elements -/

section Elements

variable {before : Option Char} {position : Nat} {slots : List (Nat × Nat)} {ps : List Pattern}
  {rest : List Char} {element : String}

/-- The start of an element, and what is to follow it. -/
def elementWith (element : String) (following : List Pattern) : Pattern :=
  .sequence (anyCase ("<" ++ element) ++ following)

theorem metaElement_eq : metaElement = elementWith "meta" [insideTag, .set (.caseVariants '>')] :=
  rfl

theorem attemptsOf_elementWith {following : List Pattern} {text : List Char} :
    (elementWith element following).attemptsOf before position text =
      attempts before position [(startSlot, position)]
        (.set (.caseVariants '<') :: (anyCase element ++ following)) text := by
  have hwords : anyCase ("<" ++ element) = .set (.caseVariants '<') :: anyCase element := by
    simp [anyCase]
  rw [attemptsOf, elementWith, attempts_sequence, List.append_nil, hwords, List.cons_append]

theorem attemptsOf_open {following : List Pattern} :
    (elementWith element following).attemptsOf before position ('<' :: rest) =
      attempts (some '<') (position + 1) [(startSlot, position)]
        (anyCase element ++ following) rest := by
  rw [attemptsOf_elementWith, attempts_set_cons, if_pos (contains_anyCase_open.mpr rfl)]

theorem attemptsOf_eq_nil_of_ne {following : List Pattern} {c : Char} (hc : c ≠ '<') :
    (elementWith element following).attemptsOf before position (c :: rest) = [] := by
  rw [attemptsOf_elementWith, attempts_set_cons, if_neg (mt contains_anyCase_open.mp hc)]

theorem attemptsOf_end {following : List Pattern} :
    (elementWith element following).attemptsOf before position [] = [] := by
  rw [attemptsOf_elementWith, attempts_set_nil]

/-- Texts between tags are passed over. -/
theorem passes_elementWith {following : List Pattern} {text : List Char} (h : '<' ∉ text) :
    (elementWith element following).Passes before text rest :=
  passes_of_forall fun _ hc _ _ _ => attemptsOf_eq_nil_of_ne fun heq => h (heq ▸ hc)

variable (hword : ∀ x ∈ element.toList, x ∈ wordChars)

include hword in
/-- Where a name begins like the element, the search goes on behind the element. -/
theorem attempts_element {front : List Char} (hfront : ∀ c ∈ front, c.isAlpha = true)
    (hlike : lowered front = element.toList) :
    attempts before position slots (anyCase element ++ ps) (front ++ rest) =
      attempts (lastRead before front) (position + front.length) slots ps rest := by
  rw [anyCase_eq,
    attempts_sets ((read_anyCase hword fun c hc => toNat_lt_of_isAlpha (hfront c hc)).mpr hlike)]

include hword in
/-- Where it does not, there is nothing to find. -/
theorem attempts_otherElement {name : List Char} {d : Char} (hname : ∀ c ∈ name, c.isAlpha = true)
    (hother : ¬ element.toList <+: lowered name) (hd : d = ' ' ∨ d = '>') :
    attempts before position slots (anyCase element ++ ps) (name ++ d :: rest) = [] := by
  by_contra hsome
  rw [anyCase_eq] at hsome
  obtain ⟨read, more, htext, hread, -⟩ := exists_read hsome
  have hnot : d ∉ read := by
    rcases hd with rfl | rfl
    · exact not_mem_of_read hread hword (by decide) (by decide)
    · exact not_mem_of_read hread hword (by decide) (by decide)
  obtain ⟨later, rfl, -⟩ := eq_append_of_not_mem htext hnot
  have hlike :=
    (read_anyCase hword fun c hc =>
      toNat_lt_of_isAlpha (hname c (List.mem_append_left _ hc))).mp hread
  exact hother ⟨lowered later, by rw [← hlike]; exact (List.map_append ..).symm⟩

end Elements

/-- A tag ends with a blank or with its bracket behind the name. -/
theorem StartTag.exists_ending_eq (attributes : List Attribute) :
    ∃ d rest, ending attributes = d :: rest ∧ (d = ' ' ∨ d = '>') := by
  cases attributes with
  | nil => exact ⟨'>', [], rfl, .inr rfl⟩
  | cons a attributes => exact ⟨' ', _, rfl, .inl rfl⟩

/-- The name of a tag that begins like an element is the element, in some case, and what is behind
it. -/
theorem StartTag.BeginsLike.exists_name_eq {t : StartTag} {element : String}
    (h : t.BeginsLike element) :
    ∃ front back, t.name = front ++ back ∧ lowered front = element.toList := by
  obtain ⟨later, hlater⟩ := h
  obtain ⟨front, back, hname, hfront, -⟩ := List.map_eq_append_iff.mp hlater.symm
  exact ⟨front, back, hname, hfront⟩

section Pieces

variable {element : String} {following : List Pattern} {segment? : StartTag → Option Segment}

/-- If the tags yield spans, the page shows these, one tag after the other. -/
theorem shows_page {ps : List Piece}
    (htag : ∀ t ∈ tags ps,
      (elementWith element following).Yields (fun _ => True) t.text (segment? t)) :
    List.Forall₂ (fun found s => s.ShownBy (page ps) found)
      ((elementWith element following).findAll (page ps))
      ((tags ps).filterMap segment?) := by
  have hpiece : ∀ x ∈ ps,
      (elementWith element following).Yields (fun _ => True) x.text (x.tag?.bind segment?) := by
    intro x hx
    cases x with
    | tag t => exact htag t (List.mem_filterMap.mpr ⟨_, hx, rfl⟩)
    | between text h => exact .nothing fun before rest _ => passes_elementWith h
  have hshown := shows_findAll (fun _ _ => attemptsOf_end) ps hpiece trivial fun _ _ _ _ => trivial
  rwa [page, tags, List.filterMap_filterMap]

end Pieces

/-! ## 4. Meta elements -/

/-- The span of a whole tag. -/
def StartTag.segment (t : StartTag) : Segment where
  text := t.text
  marks := []
  nonempty := List.cons_ne_nil _ _
  marks_le := by simp

/-- Up to the end of the tag everything is read. -/
theorem attempts_tagEnd {before : Option Char} {position : Nat} {slots : List (Nat × Nat)}
    {run rest : List Char} (hrun : ∀ c ∈ run, c ≠ '>') :
    attempts before position slots [insideTag, .set (.caseVariants '>')] (run ++ '>' :: rest) =
      [.ofSlots slots (position + run.length + 1)] := by
  rw [insideTag, attempts_run_until (fun c hc => ?_) not_contains_close, attempts_set_cons,
    if_pos (contains_anyCase_close.mpr rfl), attempts_nil]
  refine ⟨CharSet.contains_complement_single.mpr (hrun c hc), ?_⟩
  rw [← Bool.not_eq_true, contains_anyCase_close]
  exact hrun c hc

/-- A tag whose name does not begin like the element holds no span of it. -/
theorem yields_otherElement {element : String} {following : List Pattern}
    (hword : ∀ x ∈ element.toList, x ∈ wordChars) {t : StartTag} (h : ¬ t.BeginsLike element) :
    (elementWith element following).Yields (fun _ => True) t.text none := by
  refine .nothing fun before rest _ => ⟨fun position => ?_, passes_elementWith t.not_mem_rest⟩
  obtain ⟨d, more, hending, hd⟩ := StartTag.exists_ending_eq t.attributes
  rw [attemptsOf_open, hending, List.append_assoc, List.cons_append]
  exact attempts_otherElement hword t.name_letters h hd

theorem yields_meta (t : StartTag) :
    (elementWith "meta" [insideTag, .set (.caseVariants '>')]).Yields (fun _ => True) t.text
      (if t.BeginsLike "meta" then some t.segment else none) := by
  have hword : ∀ x ∈ "meta".toList, x ∈ wordChars := forall_mem_of_all (by decide)
  split
  next hlike =>
    obtain ⟨front, back, hname, hfront⟩ := hlike.exists_name_eq
    have hletters : ∀ c ∈ front, c.isAlpha = true := fun c hc =>
      t.name_letters c (hname ▸ List.mem_append_left _ hc)
    have hback : ∀ c ∈ back ++ t.attributes.flatMap Attribute.text, c ≠ '>' := by
      refine List.forall_mem_append.mpr ⟨fun c hc => ?_,
        fun c hc => (StartTag.ne_bracket_of_mem_attributes c hc).2⟩
      exact (t.ne_bracket_of_mem_name c (hname ▸ List.mem_append_right _ hc)).2
    refine .one (List.append_nil _).symm (fun before position rest _ => ?_) fun _ _ => trivial
    have htext : t.segment.text ++ ([] ++ rest) =
        '<' :: (front ++ ((back ++ t.attributes.flatMap Attribute.text) ++ '>' :: rest)) := by
      simp [StartTag.segment, StartTag.text, StartTag.ending, hname]
    rw [htext, attemptsOf_open, attempts_element hword hletters hfront, attempts_tagEnd hback]
    have hstop : position + 1 + front.length +
        (back ++ t.attributes.flatMap Attribute.text).length + 1 = position + t.text.length := by
      simp only [StartTag.text, StartTag.ending, hname, List.length_append, List.length_cons,
        List.length_nil]
      omega
    rw [hstop]
    rfl
  next hother => exact yields_otherElement hword hother

/-- **The meta elements of a page are the tags whose names begin with `meta`**, each as it is
written. -/
theorem metaTags_page (ps : List Piece) :
    (HtmlAnalysis.ofPage (page ps)).metaTags =
      ((tags ps).filter (·.BeginsLike "meta")).map fun t => String.ofList t.text := by
  have hshown := shows_page fun t (_ : t ∈ tags ps) => yields_meta t
  have htexts := map_text_of_shown hshown String.ofList
  rw [← metaElement_eq] at htexts
  rw [HtmlAnalysis.ofPage, htexts, ← List.filterMap_eq_map, List.filterMap_filterMap,
    ← List.filterMap_eq_map, List.filterMap_filter]
  refine congrArg (List.filterMap · _) (funext fun t => ?_)
  by_cases h : t.BeginsLike "meta" <;> simp [h, StartTag.segment]

end PrivacyAudit.Markup
