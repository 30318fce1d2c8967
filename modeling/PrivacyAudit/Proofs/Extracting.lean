import PrivacyAudit.Detector.Quoted
import PrivacyAudit.Proofs.Attempting
import PrivacyAudit.Proofs.Holding

/-!
# Texts that hold spans one after the other

What a search makes of a text is said by a relation: the text falls into spans and parts in which no
span begins (`Divides`), and these spans are what is found (`Divides.shows_findAll`).

A text is often made of pieces that each hold at most one span: lines of which some declare
something, elements of a page. A piece yields what it holds wherever it stands (`Yields`), if no
span begins in what it has besides. Then all spans of the text are those of its pieces, in order
(`shows_findAll`): a search that ends inside a piece passes over what is left of it.
-/

namespace PrivacyAudit.Pattern

variable {p : Pattern} {before : Option Char} {position : Nat} {text rest : List Char}

/-! ## 1. Where no span begins -/

/-- No span of the pattern begins in `skipped`, which stands between `before` and a text. -/
def Passes (p : Pattern) : (before : Option Char) → (skipped text : List Char) → Prop
  | _, [], _ => True
  | before, c :: skipped, text =>
    (∀ position, p.attemptsOf before position (c :: (skipped ++ text)) = []) ∧
    Passes p (some c) skipped text

theorem Passes.append {a b : List Char} (ha : p.Passes before a (b ++ text))
    (hb : p.Passes (lastRead before a) b text) : p.Passes before (a ++ b) text := by
  induction a generalizing before with
  | nil => exact hb
  | cons c a ih =>
    refine ⟨fun position => ?_, ih ha.2 hb⟩
    rw [List.append_eq, List.append_assoc]
    exact ha.1 position

/-- Characters that no span begins with are passed over. -/
theorem passes_of_forall {skipped : List Char}
    (h : ∀ c ∈ skipped, ∀ before position rest, p.attemptsOf before position (c :: rest) = []) :
    p.Passes before skipped text := by
  induction skipped generalizing before with
  | nil => trivial
  | cons c skipped ih =>
    obtain ⟨hc, hskipped⟩ := List.forall_mem_cons.mp h
    exact ⟨fun position => hc before position _, ih hskipped⟩

theorem first?_passes {skipped : List Char} (h : p.Passes before skipped text) (position : Nat) :
    first? p before position (skipped ++ text) =
      first? p (lastRead before skipped) (position + skipped.length) text := by
  induction skipped generalizing before position with
  | nil => rfl
  | cons c skipped ih =>
    rw [List.cons_append, first?, h.1 position, List.head?_nil, Option.none_or, ih h.2,
      lastRead_cons, List.length_cons, Nat.add_assoc, Nat.add_comm 1]

/-- The character in front of the place where a text that was read ends. -/
theorem lastRead_eq_getElem? (read rest : List Char) :
    lastRead before read = if read.length = 0 then before
      else (read ++ rest)[read.length - 1]? := by
  obtain rfl | ⟨front, c, rfl⟩ := List.eq_nil_or_concat' read
  · rfl
  · simp

/-! ## 2. Pieces of a text -/

/-- A span as it looks from its own start: its text, and the positions recorded under slots, the
latest first. -/
structure Segment where
  text : List Char
  marks : List (Nat × Nat)
  nonempty : text ≠ []
  marks_le : ∀ m ∈ marks, m.2 ≤ text.length

namespace Segment

/-- The span where it begins at a position. -/
def foundAt (s : Segment) (position : Nat) : Found :=
  ⟨position, position + s.text.length,
    s.marks.map (fun m => (m.1, position + m.2)) ++ [(startSlot, position)]⟩

/-- The text between the two marks of a group. -/
def group? (s : Segment) (k : Nat) : Option (List Char) :=
  match slot? s.marks (2 * k), slot? s.marks (2 * k + 1) with
  | some start, some stop => some (slice s.text start stop)
  | _, _ => none

/-- A span that was found in a text is this one: its own text and those of its groups are the
same. -/
structure ShownBy (s : Segment) (source : List Char) (found : Found) : Prop where
  text : found.text source = s.text
  group : ∀ k, 0 < k → found.group? source k = s.group? k

theorem slot?_foundAt (s : Segment) {k : Nat} (hk : k ≠ startSlot) :
    slot? (s.foundAt position).slots k = (slot? s.marks k).map (position + ·) := by
  unfold foundAt slot?
  dsimp only
  generalize s.marks = marks
  induction marks with
  | nil =>
    rw [List.map_nil, List.nil_append, List.lookup_cons, beq_false_of_ne hk]
    rfl
  | cons m marks ih =>
    obtain ⟨slot, place⟩ := m
    rw [List.map_cons, List.cons_append, List.lookup_cons, List.lookup_cons, ih]
    cases k == slot <;> rfl

theorem slice_inside (front inside behind : List Char) {start stop : Nat}
    (hstop : stop ≤ inside.length) :
    slice (front ++ (inside ++ behind)) (front.length + start) (front.length + stop) =
      slice inside start stop := by
  unfold slice
  rw [List.drop_append, List.drop_eq_nil_of_le (Nat.le_add_right _ _), List.nil_append]
  have hsizes : front.length + stop - (front.length + start) = stop - start ∧
      front.length + start - front.length = start := by
    omega
  rw [hsizes.1, hsizes.2, List.drop_append, List.take_append_of_le_length]
  rw [List.length_drop]
  omega

theorem shownBy_foundAt (s : Segment) (front behind : List Char) :
    s.ShownBy (front ++ (s.text ++ behind)) (s.foundAt front.length) where
  text := by
    simp [Found.text, foundAt, slice]
  group k hk := by
    have hstart : 2 * k ≠ startSlot ∧ 2 * k + 1 ≠ startSlot := by
      unfold startSlot
      omega
    unfold Found.group? group?
    rw [slot?_foundAt s hstart.1, slot?_foundAt s hstart.2]
    cases hfirst : slot? s.marks (2 * k) with
    | none => rfl
    | some start =>
      cases hlast : slot? s.marks (2 * k + 1) with
      | none => rfl
      | some stop =>
        obtain ⟨_, _, hmarks, -⟩ := List.lookup_eq_some_iff.mp hlast
        have hle : stop ≤ s.text.length := s.marks_le (2 * k + 1, stop) (by rw [hmarks]; simp)
        exact congrArg some (slice_inside front s.text behind hle)

end Segment

/-- A piece of a text yields at most one span, wherever it stands behind a character of a kind: the
span, with which the piece begins, is preferred, and no other begins in the piece. -/
inductive Yields (p : Pattern) (kind : Option Char → Prop) (text : List Char) :
    Option Segment → Prop
  | nothing (h : ∀ before rest, kind before → p.Passes before text rest) : Yields p kind text none
  | one {s : Segment} {tail : List Char} (htext : text = s.text ++ tail)
      (hfound : ∀ before position rest, kind before →
        (p.attemptsOf before position (s.text ++ (tail ++ rest))).head? = some (s.foundAt position))
      (htail : ∀ before rest, p.Passes before tail rest) : Yields p kind text (some s)

/-! ## 3. All spans -/

/-- Behind a text without spans the first one is found, and the search goes on behind it. -/
theorem findAllFrom_found {fuel : Nat} {lastStop : Option Nat} {skipped : List Char} {s : Segment}
    (hskipped : p.Passes before skipped (s.text ++ rest))
    (hfound : (p.attemptsOf (lastRead before skipped) (position + skipped.length)
      (s.text ++ rest)).head? = some (s.foundAt (position + skipped.length))) :
    findAllFrom p (fuel + 1) before position lastStop (skipped ++ (s.text ++ rest)) =
      s.foundAt (position + skipped.length) ::
        findAllFrom p fuel (lastRead before (skipped ++ s.text))
          (position + (skipped ++ s.text).length)
          (some (position + (skipped ++ s.text).length)) rest := by
  have hfirst : find? p before position (skipped ++ (s.text ++ rest)) =
      some (s.foundAt (position + skipped.length)) := by
    obtain ⟨c, inside, hcons⟩ := List.exists_cons_of_ne_nil s.nonempty
    rw [find?_eq_first?, first?_passes hskipped]
    rw [hcons, List.cons_append] at hfound ⊢
    rw [first?, hfound, Option.some_or]
  have hlong : 0 < s.text.length := List.length_pos_iff.mpr s.nonempty
  have hstop : position + skipped.length + s.text.length =
      position + (skipped ++ s.text).length := by
    rw [List.length_append, Nat.add_assoc]
  have hempty : (position + skipped.length == position + (skipped ++ s.text).length) = false := by
    rw [beq_eq_false_iff_ne, ← hstop]
    omega
  rw [findAllFrom.eq_def]
  simp only [hfirst, Segment.foundAt, hstop, hempty, Bool.false_and, if_neg Bool.false_ne_true,
    Nat.add_sub_cancel_left]
  rw [← List.append_assoc, List.drop_left, lastRead_eq_getElem? _ rest]

theorem findAllFrom_none {fuel : Nat} {lastStop : Option Nat} (htext : p.Passes before text [])
    (hend : ∀ before position, p.attemptsOf before position [] = []) :
    findAllFrom p fuel before position lastStop text = [] := by
  cases fuel with
  | zero => rfl
  | succ fuel =>
    have hfirst : find? p before position text = none := by
      have hpasses := first?_passes htext position
      rw [List.append_nil] at hpasses
      rw [find?_eq_first?, hpasses, first?, hend]
      rfl
    rw [findAllFrom.eq_def]
    simp only [hfirst]

/-- A text behind a character falls into spans and parts in which none begins: the segments are the
spans, each of them preferred where it stands. -/
inductive Divides (p : Pattern) : (before : Option Char) → (text : List Char) → List Segment → Prop
  | done {before : Option Char} : Divides p before [] []
  | skip {before : Option Char} {skipped rest : List Char} {segments : List Segment}
      (hskipped : p.Passes before skipped rest)
        (hrest : Divides p (lastRead before skipped) rest segments) :
      Divides p before (skipped ++ rest) segments
  | span {before : Option Char} {s : Segment} {rest : List Char} {segments : List Segment}
      (hfound : ∀ position, (p.attemptsOf before position (s.text ++ rest)).head? =
        some (s.foundAt position))
      (hrest : Divides p (lastRead before s.text) rest segments) :
      Divides p before (s.text ++ rest) (s :: segments)

section Divided

variable {segments : List Segment} (hend : ∀ before position, p.attemptsOf before position [] = [])

include hend in
/-- The spans that a text is divided into are found one by one: what was skipped last stands in
front of what is left. -/
theorem Divides.shows_findAllFrom (h : p.Divides before text segments) {front : Option Char}
    {skipped : List Char} (done : List Char) {fuel : Nat} {lastStop : Option Nat}
    (hskipped : p.Passes front skipped text) (hbefore : lastRead front skipped = before)
    (hfuel : segments.length < fuel) :
    List.Forall₂ (fun found s => s.ShownBy (done ++ (skipped ++ text)) found)
      (findAllFrom p fuel front done.length lastStop (skipped ++ text)) segments := by
  induction h generalizing front skipped done fuel lastStop with
  | done =>
    rw [List.append_nil, findAllFrom_none hskipped hend]
    exact .nil
  | skip hpasses _ ih =>
    subst hbefore
    rw [← List.append_assoc skipped]
    exact ih done (hskipped.append hpasses) (lastRead_append _ _) hfuel
  | @span before s rest segments hfound _ ih =>
    subst hbefore
    obtain ⟨fuel, rfl⟩ := Nat.exists_eq_add_one_of_ne_zero (Nat.ne_of_gt (Nat.zero_lt_of_lt hfuel))
    rw [findAllFrom_found hskipped (hfound _)]
    refine .cons ?_ ?_
    · have hshown := s.shownBy_foundAt (done ++ skipped) rest
      rwa [List.length_append, List.append_assoc] at hshown
    · have hrest := @ih (lastRead front (skipped ++ s.text)) [] (done ++ (skipped ++ s.text)) fuel
        (some (done.length + (skipped ++ s.text).length)) trivial (lastRead_append _ _)
          (Nat.lt_of_succ_lt_succ hfuel)
      simpa [List.append_assoc, Nat.add_assoc] using hrest

theorem Divides.length_le (h : p.Divides before text segments) : segments.length ≤ text.length := by
  induction h with
  | done => exact Nat.le_refl 0
  | skip _ _ ih =>
    rw [List.length_append]
    omega
  | @span _ s _ _ _ _ ih =>
    have hlong : 0 < s.text.length := List.length_pos_iff.mpr s.nonempty
    rw [List.length_cons, List.length_append]
    omega

include hend in
/-- **All spans of a text are those that it is divided into**, in order. -/
theorem Divides.shows_findAll (h : p.Divides none text segments) :
    List.Forall₂ (fun found s => s.ShownBy text found) (p.findAll text) segments := by
  have hempty : p.Passes none [] text := trivial
  exact h.shows_findAllFrom hend [] hempty rfl
    (Nat.lt_succ_of_le (Nat.le_trans h.length_le (by omega)))

end Divided

section Pieces

variable {α : Type} {render : α → List Char} {segment? : α → Option Segment}
  {kind : Option Char → Prop} (hend : ∀ before position, p.attemptsOf before position [] = [])

/-- A text that is made of pieces is divided into the spans that they yield. -/
theorem divides_pieces (xs : List α) (hyields : ∀ x ∈ xs, p.Yields kind (render x) (segment? x))
    (hkind : ∀ x ∈ xs, ∀ before, kind before → kind (lastRead before (render x)))
    (hbefore : kind before) : p.Divides before (xs.flatMap render) (xs.filterMap segment?) := by
  induction xs generalizing before with
  | nil => exact .done
  | cons x xs ih =>
    obtain ⟨hx, hxs⟩ := List.forall_mem_cons.mp hyields
    obtain ⟨hkindx, hkinds⟩ := List.forall_mem_cons.mp hkind
    have hrest := ih hxs hkinds (hkindx before hbefore)
    rw [List.flatMap_cons]
    generalize hseg : segment? x = found? at hx
    cases hx with
    | nothing hpasses =>
      rw [List.filterMap_cons_none hseg]
      exact .skip (hpasses _ _ hbefore) hrest
    | @one s tail htext hfound htail =>
      rw [htext, lastRead_append] at hrest
      rw [List.filterMap_cons_some hseg, htext, List.append_assoc]
      exact .span (fun position => hfound _ position _ hbefore) (.skip (htail _ _) hrest)

include hend in
/-- **All spans of a text that is made of pieces are those that its pieces yield**, in order. -/
theorem shows_findAll (xs : List α) (hyields : ∀ x ∈ xs, p.Yields kind (render x) (segment? x))
    (hstart : kind none)
    (hkind : ∀ x ∈ xs, ∀ before, kind before → kind (lastRead before (render x))) :
    List.Forall₂ (fun found s => s.ShownBy (xs.flatMap render) found)
      (p.findAll (xs.flatMap render))
      (xs.filterMap segment?) :=
  (divides_pieces xs hyields hkind hstart).shows_findAll hend

end Pieces

section Shown

variable {β : Type} {source : List Char} {founds : List Found} {segments : List Segment}
  (h : List.Forall₂ (fun found s => s.ShownBy source found) founds segments)

include h in
/-- The texts of a group. -/
theorem filterMap_group_of_shown {k : Nat} (hk : 0 < k) (f : List Char → β) :
    (founds.filterMap fun found => (found.group? source k).map f) =
      segments.filterMap fun s => (s.group? k).map f := by
  induction h with
  | nil => rfl
  | cons hshown _ ih => rw [List.filterMap_cons, List.filterMap_cons, hshown.group k hk, ih]

include h in
/-- The texts of whole spans. -/
theorem map_text_of_shown (f : List Char → β) :
    (founds.map fun found => f (found.text source)) = segments.map fun s => f s.text := by
  induction h with
  | nil => rfl
  | cons hshown _ ih => rw [List.map_cons, List.map_cons, hshown.text, ih]

end Shown

/-! ## 4. Quoted parts -/

/-- A quote of either kind. -/
def IsQuote (c : Char) : Prop := c = '"' ∨ c = '\''

instance : DecidablePred IsQuote := fun c => inferInstanceAs (Decidable (c = '"' ∨ c = '\''))

theorem contains_quoteMarks {c : Char} : quoteMarks.contains c = true ↔ IsQuote c := by
  rw [quoteMarks, CharSet.contains_ofRanges (by simp)]
  simp only [CharSet.Covers, IsQuote, ← CharSet.toNat_eq_iff, List.mem_cons,
    List.not_mem_nil, or_false, exists_eq_or_imp, exists_eq_left]
  have hquote : '"'.toNat = 0x22 ∧ '\''.toNat = 0x27 := ⟨rfl, rfl⟩
  omega

theorem contains_complement_quoteMarks {c : Char} : quoteMarks.complement.contains c = true ↔
    ¬ IsQuote c := by
  rw [quoteMarks,
    CharSet.contains_complement_ofRanges (by decide), ← contains_quoteMarks, quoteMarks,
    Bool.not_eq_true]

/-- A part between quotes, if it is no empty one, is read as the group. -/
theorem attempts_quotedGroup {k : Nat} {slots : List (Nat × Nat)} {ps : List Pattern} {q q' : Char}
    {inside : List Char} (hq : IsQuote q) (hq' : IsQuote q') (hne : inside ≠ [])
    (hinside : ∀ c ∈ inside, ¬ IsQuote c) :
    attempts before position slots (quotedGroup k ++ ps) (q :: (inside ++ q' :: rest)) =
      attempts (some q') (position + inside.length + 2)
        ((2 * k + 1, position + 1 + inside.length) :: (2 * k, position + 1) :: slots) ps rest := by
  obtain ⟨c, inside, rfl⟩ := List.exists_cons_of_ne_nil hne
  obtain ⟨hc, hinside⟩ := List.forall_mem_cons.mp hinside
  rw [quotedGroup, List.cons_append, List.cons_append, List.cons_append, List.nil_append,
    attempts_set_cons, if_pos (contains_quoteMarks.mpr hq), attempts_group,
    attempts_many1 (reads_set _), List.cons_append,
    attempts_set_cons, if_pos (contains_complement_quoteMarks.mpr hc),
    attempts_run (fun d hd => contains_complement_quoteMarks.mpr (hinside d hd)), attempts_run_ends,
    attempts_mark, attempts_set_cons, if_pos (contains_quoteMarks.mpr hq')]
  · have hclosing : position + 1 + 1 + inside.length = position + 1 + (inside.length + 1) := by
      omega
    have hstop : position + 1 + (inside.length + 1) + 1 = position + (inside.length + 1) + 2 := by
      omega
    rw [List.length_cons, hclosing, hstop]
  · rw [← Bool.not_eq_true, contains_complement_quoteMarks]
    exact not_not_intro hq'
  · -- The closing quote is not found before its place.
    rintro a b rfl hb before position slots
    obtain ⟨d, b, rfl⟩ := List.exists_cons_of_ne_nil hb
    have hd := hinside d (List.mem_append_right _ List.mem_cons_self)
    rw [attempts_mark, List.cons_append, attempts_set_cons,
      if_neg fun h => hd (contains_quoteMarks.mp h)]

/-- A span that ends with a part between quotes, which is its group. -/
def Segment.quoted (lead : List Char) (q : Char) (inside : List Char) (q' : Char) : Segment where
  text := lead ++ q :: (inside ++ [q'])
  marks := [(3, lead.length + 1 + inside.length), (2, lead.length + 1)]
  nonempty := by simp
  marks_le := by simp; omega

theorem Segment.group?_quoted (lead : List Char) (q : Char) (inside : List Char) (q' : Char) :
    (quoted lead q inside q').group? 1 = some inside := by
  have hslice : slice ((lead ++ [q]) ++ (inside ++ [q'])) ((lead ++ [q]).length + 0)
      ((lead ++ [q]).length + inside.length) = slice inside 0 inside.length :=
    slice_inside _ _ _ (Nat.le_refl _)
  have hinside : slice inside 0 inside.length = inside := by simp [slice]
  rw [hinside, List.append_assoc, List.length_append] at hslice
  exact congrArg some hslice

/-- Behind what leads to it, a part between quotes completes the span. -/
theorem attempts_quoted {lead : List Char} {q q' : Char} {inside : List Char}
    (hq : IsQuote q) (hq' : IsQuote q') (hne : inside ≠ []) (hinside : ∀ c ∈ inside, ¬ IsQuote c) :
    attempts before (position + lead.length) [(startSlot, position)] (quotedGroup 1)
      (q :: (inside ++ q' :: rest)) = [(Segment.quoted lead q inside q').foundAt position] := by
  have hgroup :
      attempts before (position + lead.length) [(startSlot, position)] (quotedGroup 1 ++ [])
      (q :: (inside ++ q' :: rest)) = _ := attempts_quotedGroup hq hq' hne hinside
  rw [List.append_nil, attempts_nil] at hgroup
  have hstop : position + lead.length + inside.length + 2 =
      position + (lead ++ q :: (inside ++ [q'])).length := by
    simp only [List.length_append, List.length_cons, List.length_nil]
    omega
  rw [hgroup, hstop, Found.ofSlots, Segment.foundAt, Segment.quoted]
  simp [slot?, startSlot, List.lookup_cons, Nat.add_assoc]

end PrivacyAudit.Pattern
