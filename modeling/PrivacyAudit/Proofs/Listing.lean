import PrivacyAudit.Detector.Ios
import PrivacyAudit.Proofs.Declaring

/-!
# Pods in a Podfile

A Podfile lists pods, one per line: `pod`, a name between quotes, and perhaps a comma and a version
between quotes. Lines of white space and comments may stand anywhere. The white space that a
declaration may begin with and that may stand in front of a comma goes across lines, so what is
found for a pod begins in the blank lines above it, and whether a pod has a version is settled only
by what the next line that is not blank begins with (`Follows`). It is never a comma, so the lines
do not get mixed up: what is listed is what was written (`podDependencies_podfile`).
-/

namespace PrivacyAudit

open Pattern

/-! ## 1. Lines -/

/-- White space; line feeds in it make blank lines. -/
structure Space where
  text : List Char
  blank : ∀ c ∈ text, Text.isBlank c = true

/-- A text between two quotes of one kind. -/
structure Quotation where
  double : Bool
  inside : List Char
  nonempty : inside ≠ []
  unquoted : ∀ c ∈ inside, ¬ IsQuote c

namespace Quotation

/-- The quotes around the text. -/
def mark (q : Quotation) : Char := if q.double then '"' else '\''

/-- A quotation as it is written. -/
def text (q : Quotation) : List Char := q.mark :: (q.inside ++ [q.mark])

theorem isQuote_mark (q : Quotation) : IsQuote q.mark := by
  unfold mark
  split
  · exact .inl rfl
  · exact .inr rfl

end Quotation

/-- A line of a Podfile. -/
inductive PodfileLine
  | blank (space : Space)
  /-- A comment, whose text may look like anything. -/
  | comment (indentation : Space) (text : List Char) (oneLine : '\n' ∉ text)
  | pod (indentation : Space) (name : Quotation) (version? : Option Quotation)

namespace PodfileLine

/-- What stands behind the name of a pod. -/
def ending : Option Quotation → List Char
  | none => []
  | some version => ", ".toList ++ version.text

/-- A pod as it is written, without its indentation. -/
def declaration (name : Quotation) (version? : Option Quotation) : List Char :=
  "pod ".toList ++ (name.text ++ ending version?)

/-- A line as it is written. -/
def text : PodfileLine → List Char
  | .blank space => space.text
  | .comment indentation text _ => indentation.text ++ '#' :: text
  | .pod indentation name version? => indentation.text ++ declaration name version?

/-- The dependency that a line lists. -/
def dependency? : PodfileLine → Option Dependency
  | .pod _ name version? =>
    some ⟨String.ofList name.inside, version?.map fun version => String.ofList version.inside⟩
  | _ => none

/-- Lines one below the other; an empty one at the end leaves a line feed there. -/
def podfile (lines : List PodfileLine) : List Char := ['\n'].intercalate (lines.map text)

end PodfileLine

/-! ## 2. What is found for a pod -/

namespace Pattern

open PodfileLine (declaration ending)

/-- What is asked for behind a name: a comma and a version. -/
def versionPart : List Pattern :=
  [.many (.set blanks), .char ',', .many (.set blanks)] ++ quotedGroup 2

/-- What is asked for behind the keyword of a pod. -/
def podTail : List Pattern :=
  .many1 (.set blanks) :: (quotedGroup 1 ++ [.optional (.sequence versionPart)])

theorem podDeclaration_eq : podDeclaration =
    .sequence (.look .lineStart :: .many (.set blanks) :: ("pod".toList.map .char ++ podTail)) :=
  rfl

/-- A span that ends with two parts between quotes, which are its groups. -/
def Segment.quotedTwice (lead : List Char) (q : Char) (inside between : List Char) (r : Char)
    (inside' : List Char) : Segment where
  text := lead ++ q :: (inside ++ q :: (between ++ r :: (inside' ++ [r])))
  marks := [(5, lead.length + 1 + inside.length + 1 + between.length + 1 + inside'.length),
    (4, lead.length + 1 + inside.length + 1 + between.length + 1),
    (3, lead.length + 1 + inside.length),
    (2, lead.length + 1)]
  nonempty := by simp
  marks_le := by simp; omega

theorem Segment.groups_quotedTwice (lead : List Char) (q : Char)
    (inside between : List Char) (r : Char) (inside' : List Char) :
    (quotedTwice lead q inside between r inside').group? 1 = some inside ∧
      (quotedTwice lead q inside between r inside').group? 2 = some inside' := by
  have hinside (front part behind : List Char) : slice (front ++ (part ++ behind)) front.length
      (front.length + part.length) = part := by
    simp [slice]
  have hstart : (lead ++ [q]).length = lead.length + 1 := by simp
  have hstart' : (lead ++ q :: (inside ++ q :: (between ++ [r]))).length =
      lead.length + 1 + inside.length + 1 + between.length + 1 := by
    simp only [List.length_append, List.length_cons, List.length_nil]
    omega
  have hfirst := hinside (lead ++ [q]) inside (q :: (between ++ r :: (inside' ++ [r])))
  have hsecond := hinside (lead ++ q :: (inside ++ q :: (between ++ [r]))) inside' [r]
  rw [hstart, List.append_assoc] at hfirst
  rw [hstart'] at hsecond
  constructor
  · exact congrArg some hfirst
  · simpa [group?, quotedTwice, slot?, List.lookup_cons] using hsecond

/-- What a pod is found as, behind the white space that the span begins with. -/
def Segment.pod (lead : List Char) (name : Quotation) : Option Quotation → Segment
  | none => .quoted (lead ++ "pod ".toList) name.mark name.inside name.mark
  | some version =>
    .quotedTwice (lead ++ "pod ".toList) name.mark name.inside ", ".toList version.mark
      version.inside

theorem Segment.text_pod (lead : List Char) (name : Quotation) (version? : Option Quotation) :
    (Segment.pod lead name version?).text = lead ++ PodfileLine.declaration name version? := by
  cases version? <;> simp [pod, quoted, quotedTwice, declaration, ending, Quotation.text]

/-- The dependency that a span stands for. -/
def Segment.dependency? (s : Segment) : Option Dependency :=
  (s.group? 1).map fun name => ⟨String.ofList name, (s.group? 2).map String.ofList⟩

theorem Segment.dependency?_pod (lead : List Char) (name : Quotation)
    (version? : Option Quotation) : (Segment.pod lead name version?).dependency? =
      some ⟨String.ofList name.inside,
        version?.map fun version => String.ofList version.inside⟩ := by
  cases version? with
  | none =>
    rw [dependency?, pod, group?_quoted]
    rfl
  | some version =>
    obtain ⟨hname, hversion⟩ :=
      groups_quotedTwice (lead ++ "pod ".toList) name.mark name.inside ", ".toList version.mark
        version.inside
    rw [dependency?, pod, hname, hversion]
    rfl

theorem podDependencies_of_shown {text : List Char} {segments : List Segment}
    (h : List.Forall₂ (fun found s => s.ShownBy text found)
      (podDeclaration.findAll text) segments) :
    podDependencies text = segments.filterMap Segment.dependency? := by
  rw [podDependencies]
  generalize podDeclaration.findAll text = founds at h
  induction h with
  | nil => rfl
  | @cons found s _ _ hshown _ ih =>
    have hsame : ((found.group? text 1).map fun name =>
        (⟨String.ofList name, (found.group? text 2).map String.ofList⟩ : Dependency)) =
        s.dependency? := by
      rw [hshown.group 1 Nat.one_pos, hshown.group 2 Nat.two_pos]
      rfl
    rw [List.filterMap_cons, List.filterMap_cons, hsame, ih]

/-! ## 3. Attempts -/

section Attempts

variable {before : Option Char} {position : Nat} {slots : List (Nat × Nat)} {ps : List Pattern}
  {rest lead : List Char}

theorem contains_blanks (c : Char) : blanks.contains c = Text.isBlank c := rfl

/-- Behind white space comes what is no white space, or nothing. -/
theorem attempts_blanks (hlead : ∀ c ∈ lead, Text.isBlank c = true)
    (hrest : ∀ c ∈ rest.head?, Text.isBlank c = false)
    (hnone : ∀ c text before position slots, Text.isBlank c = true →
      attempts before position slots ps (c :: text) = []) :
    attempts before position slots (.many (.set blanks) :: ps) (lead ++ rest) =
      attempts (lastRead before lead) (position + lead.length) slots ps rest := by
  have hblanks : ∀ c ∈ lead, blanks.contains c = true := hlead
  rw [attempts_run hblanks]
  · cases rest with
    | nil => rw [many,
        attempts_loop_more (reads_set _) (by simp), attempts_set_nil, List.nil_append]
    | cons c rest => exact attempts_run_ends (hrest c rfl)
  · intro a b hab hb before position slots
    subst hab
    obtain ⟨d, b, rfl⟩ := List.exists_cons_of_ne_nil hb
    exact hnone d _ before position slots (hlead d (List.mem_append_right _ List.mem_cons_self))

theorem attempts_char_head {c : Char} (hrest : ∀ d ∈ rest.head?, d ≠ c) :
    attempts before position slots (.char c :: ps) rest = [] := by
  cases rest with
  | nil => exact attempts_set_nil
  | cons d rest => exact attempts_char_of_ne (hrest d rfl)

theorem attempts_char_blank {c : Char} (hc : Text.isBlank c = false) {d : Char} {text : List Char}
    (hd : Text.isBlank d = true) :
    attempts before position slots (.char c :: ps) (d :: text) = [] := by
  refine attempts_char_of_ne fun h => ?_
  rw [h, hc] at hd
  cases hd

theorem attempts_quotedGroup_blank {k : Nat} {d : Char} {text : List Char}
    (hd : Text.isBlank d = true) :
    attempts before position slots (quotedGroup k) (d :: text) = [] := by
  rw [quotedGroup, attempts_set_cons, if_neg]
  rw [contains_quoteMarks]
  intro hquote
  have hblank := not_blank_of_isQuote hquote
  rw [contains_blanks, hd] at hblank
  cases hblank

/-- What stands behind a declaration does not go on with a comma. -/
def Follows (rest : List Char) : Prop :=
  ∃ run tail, rest = run ++ tail ∧ (∀ c ∈ run, Text.isBlank c = true) ∧
    ∀ c ∈ tail.head?, Text.isBlank c = false ∧ c ≠ ','

theorem attempts_versionPart_of_follows (h : Follows rest) :
    attempts before position slots versionPart rest = [] := by
  obtain ⟨run, tail, rfl, hrun, htail⟩ := h
  have hcomma : Text.isBlank ',' = false := by decide +kernel
  rw [versionPart, List.cons_append, attempts_blanks hrun fun c hc => (htail c hc).1]
  · exact attempts_char_head fun c hc => (htail c hc).2
  · intro c text before position slots hc
    exact attempts_char_blank hcomma hc

theorem attempts_versionPart (version : Quotation) :
    attempts before position slots versionPart (", ".toList ++ (version.text ++ rest)) =
      [.ofSlots ((5, position + 3 + version.inside.length) :: (4, position + 3) :: slots)
        (position + version.inside.length + 4)] := by
  have hblank : ∀ c ∈ [' '], Text.isBlank c = true := forall_mem_of_all (by decide +kernel)
  have hcomma : blanks.contains ',' = false := by decide +kernel
  have hquote := version.isQuote_mark
  have htext : version.text ++ rest = version.mark :: (version.inside ++ version.mark :: rest) := by
    simp [Quotation.text]
  have hgroup :=
    @attempts_quotedGroup (some ' ') (position + 2) rest 2 slots [] _ _ _ hquote hquote
      version.nonempty
    version.unquoted
  rw [List.append_nil, attempts_nil] at hgroup
  show attempts before position slots (.many (.set blanks) :: .char ',' :: .many (.set blanks) ::
    quotedGroup 2)
    (',' :: ([' '] ++ (version.text ++ rest))) = _
  rw [attempts_run_ends hcomma, char, attempts_set_cons, if_pos (CharSet.contains_single.mpr rfl),
    attempts_blanks hblank, htext]
  · exact hgroup.trans (by simp [Nat.add_assoc, Nat.add_comm, Nat.add_left_comm])
  · rw [htext]
    intro c hc
    obtain rfl := Option.some.inj hc
    exact not_blank_of_isQuote hquote
  · intro c text before position slots hc
    exact attempts_quotedGroup_blank hc

/-- Behind its keyword a pod is read as it is written; what is behind it takes no part if it does
not go on with a comma. -/
theorem head?_attempts_podTail (lead : List Char) (name : Quotation) (version? : Option Quotation)
    (hrest : version? = none → Follows rest) :
    (attempts before (position + lead.length + 3) [(startSlot, position)] podTail
        (' ' :: (name.text ++ ending version? ++ rest))).head? =
      some ((Segment.pod lead name version?).foundAt position) := by
  have hquote := name.isQuote_mark
  have hblank : blanks.contains ' ' = true := by decide +kernel
  have hversion : Reads (.sequence versionPart) :=
    .sequence ⟨.char ',', by simp [versionPart], reads_char⟩
  have htext : name.text ++ ending version? ++ rest =
      name.mark :: (name.inside ++ name.mark :: (ending version? ++ rest)) := by
    simp [Quotation.text]
  rw [htext, podTail, attempts_many1 (reads_set _), attempts_set_cons, if_pos hblank,
    attempts_run_ends (not_blank_of_isQuote hquote),
    attempts_quotedGroup hquote hquote name.nonempty name.unquoted, attempts_optional hversion,
    attempts_nil,
    attempts_sequence versionPart, List.append_nil]
  cases version? with
  | none =>
    rw [ending, List.nil_append, attempts_versionPart_of_follows (hrest rfl)]
    simp [Segment.pod, Segment.quoted, Segment.foundAt, Found.ofSlots, slot?, startSlot,
      List.lookup_cons]
    omega
  | some version =>
    rw [ending, List.append_assoc, attempts_versionPart]
    simp [Segment.pod, Segment.quotedTwice, Segment.foundAt, Found.ofSlots, slot?, startSlot,
      List.lookup_cons]
    omega

/-- A position behind this character is the start of a line. -/
def StartsLine (before : Option Char) : Prop := before = none ∨ before = some '\n'

theorem attemptsOf_podDeclaration_of_starts (hbefore : StartsLine before) :
    podDeclaration.attemptsOf before position rest =
      attempts before position [(startSlot, position)] (.many (.set blanks) ::
        ("pod".toList.map .char ++ podTail))
        rest := by
  have hstart : Look.lineStart.holds before rest.head? = true := by
    rcases hbefore with rfl | rfl <;> rfl
  rw [attemptsOf, podDeclaration_eq, attempts_sequence, List.append_nil, attempts_look,
    if_pos hstart]

theorem attemptsOf_podDeclaration_of_not_starts (hbefore : ¬StartsLine before) :
    podDeclaration.attemptsOf before position rest = [] := by
  rw [attemptsOf, podDeclaration_eq, attempts_sequence, List.append_nil, attempts_look, if_neg]
  intro hstart
  refine hbefore ?_
  simpa [Look.holds, StartsLine] using hstart

theorem attempts_keyword_blank (c : Char) (text : List Char) (before : Option Char) (position : Nat)
    (slots : List (Nat × Nat)) (hc : Text.isBlank c = true) :
    attempts before position slots ("pod".toList.map .char ++ podTail) (c :: text) = [] := by
  have hp : Text.isBlank 'p' = false := by decide +kernel
  exact attempts_char_blank hp hc

/-- At the start of a line a pod is found with the white space in front of it. -/
theorem head?_attemptsOf_pod (position : Nat) (hbefore : StartsLine before)
    (hlead : ∀ c ∈ lead, Text.isBlank c = true) (name : Quotation) (version? : Option Quotation)
    (hrest : version? = none → Follows rest) :
    (podDeclaration.attemptsOf before position ((Segment.pod lead name version?).text ++
      rest)).head? = some ((Segment.pod lead name version?).foundAt position) := by
  have hp : Text.isBlank 'p' = false := by decide +kernel
  have htext : (Segment.pod lead name version?).text ++ rest = lead ++ ("pod".toList ++
      (' ' :: (name.text ++ ending version? ++ rest))) := by
    simp [Segment.text_pod, PodfileLine.declaration]
  rw [htext, attemptsOf_podDeclaration_of_starts hbefore, attempts_blanks hlead, attempts_word]
  · exact head?_attempts_podTail lead name version? hrest
  · intro c hc
    obtain rfl := Option.some.inj hc
    exact hp
  · exact attempts_keyword_blank

/-- No pod is found where something else comes behind white space. -/
theorem attemptsOf_eq_nil_of_head (lead : List Char) (hlead : ∀ c ∈ lead, Text.isBlank c = true)
    (hrest : ∀ c ∈ rest.head?, Text.isBlank c = false ∧ c ≠ 'p') :
    podDeclaration.attemptsOf before position (lead ++ rest) = [] := by
  by_cases hbefore : StartsLine before
  · rw [attemptsOf_podDeclaration_of_starts hbefore,
      attempts_blanks hlead (fun c hc => (hrest c hc).1)
      attempts_keyword_blank]
    exact attempts_char_head fun c hc => (hrest c hc).2
  · exact attemptsOf_podDeclaration_of_not_starts hbefore

theorem passes_blanks (hlead : ∀ c ∈ lead, Text.isBlank c = true)
    (hrest : ∀ c ∈ rest.head?, Text.isBlank c = false ∧ c ≠ 'p') :
    podDeclaration.Passes before lead rest := by
  induction lead generalizing before with
  | nil => trivial
  | cons c lead ih =>
    exact ⟨fun position => attemptsOf_eq_nil_of_head _ hlead hrest,
      ih (List.forall_mem_cons.mp hlead).2⟩

/-- What stands behind something in its line is passed over. -/
theorem passes_line {text : List Char} (hbefore : ¬StartsLine before) (htext : '\n' ∉ text) :
    podDeclaration.Passes before text rest := by
  induction text generalizing before with
  | nil => trivial
  | cons c text ih =>
    rw [List.mem_cons, not_or] at htext
    refine ⟨fun position => attemptsOf_podDeclaration_of_not_starts hbefore, ih ?_ htext.2⟩
    simpa [StartsLine, eq_comm] using htext.1

/-- Behind a text of one line no line begins. -/
theorem not_startsLine_lastRead {text : List Char} (hne : text ≠ []) (htext : '\n' ∉ text) :
    ¬StartsLine (lastRead before text) := by
  obtain rfl | ⟨front, c, rfl⟩ := List.eq_nil_or_concat' text
  · exact absurd rfl hne
  · have hc : c ≠ '\n' := fun h => htext (by simp [h])
    simpa [StartsLine] using hc

theorem not_startsLine_pod (before : Option Char) (lead : List Char) (name : Quotation)
    (version? : Option Quotation) :
    ¬StartsLine (lastRead before (Segment.pod lead name version?).text) := by
  have hmark (q : Quotation) : q.mark ≠ '\n' := by
    rcases q.isQuote_mark with h | h <;> rw [h] <;> decide
  rw [Segment.text_pod, declaration]
  cases version? with
  | none => simpa [ending, Quotation.text, StartsLine] using hmark name
  | some version => simpa [ending, Quotation.text, StartsLine] using hmark version

end Attempts

end Pattern

/-! ## 4. Lines one below the other -/

/-- The spans of a text behind a character are pods, and stand for these dependencies. -/
def ListsPods (before : Option Char) (text : List Char) (dependencies : List Dependency) : Prop :=
  ∃ segments, podDeclaration.Divides before text segments ∧
    segments.filterMap Segment.dependency? = dependencies

section Lines

variable {before : Option Char} {rest : List Char} {dependencies : List Dependency}

theorem ListsPods.skip (skipped : List Char) (hskipped : podDeclaration.Passes before skipped rest)
    (h : ListsPods (lastRead before skipped) rest dependencies) :
    ListsPods before (skipped ++ rest) dependencies := by
  obtain ⟨segments, hdivides, hsegments⟩ := h
  exact ⟨segments, .skip hskipped hdivides, hsegments⟩

/-- What stands behind a line lists these dependencies: where something stands in the line, where
nothing but white space stands in it, and it never goes on with a comma. -/
structure Continues (rest : List Char) (dependencies : List Dependency) : Prop where
  behindText : ∀ before, ¬StartsLine before → ListsPods before rest dependencies
  behindSpace : ∀ before lead, StartsLine before → (∀ c ∈ lead, Text.isBlank c = true) →
    ListsPods before (lead ++ rest) dependencies
  follows : Follows rest

/-- One line more, with white space in front of it. -/
theorem lists_line (lead : List Char) (l : PodfileLine) (h : Continues rest dependencies)
    (hbefore : StartsLine before) (hlead : ∀ c ∈ lead, Text.isBlank c = true) :
    ListsPods before (lead ++ (l.text ++ rest)) (l.dependency?.toList ++ dependencies) := by
  have hspace (indentation : Space) : ∀ c ∈ lead ++ indentation.text, Text.isBlank c = true :=
    List.forall_mem_append.mpr ⟨hlead, indentation.blank⟩
  rw [← List.append_assoc]
  cases l with
  | blank space => exact h.behindSpace before _ hbefore (hspace space)
  | comment indentation text oneLine =>
    have hhash : ∀ c ∈ (('#' :: text) ++ rest).head?, Text.isBlank c = false ∧ c ≠ 'p' := by
      intro c hc
      obtain rfl := Option.some.inj hc
      exact ⟨by decide +kernel, by decide⟩
    have hmark : ¬StartsLine (some '#') := by simp [StartsLine]
    rw [PodfileLine.text, ← List.append_assoc, List.append_assoc]
    refine .skip _ (passes_blanks (hspace indentation) hhash)
      (.skip _ ⟨fun position => ?_, passes_line hmark oneLine⟩ ?_)
    · exact attemptsOf_eq_nil_of_head [] (by simp) hhash
    · refine h.behindText _ (not_startsLine_lastRead (List.cons_ne_nil _ _) ?_)
      simpa using oneLine
  | pod indentation name version? =>
    have hfound (position : Nat) :=
      head?_attemptsOf_pod position hbefore (hspace indentation) name version? fun _ => h.follows
    obtain ⟨segments, hdivides, hsegments⟩ :=
      h.behindText _ (not_startsLine_pod before (lead ++ indentation.text) name version?)
    refine ⟨.pod (lead ++ indentation.text) name version? :: segments, ?_, ?_⟩
    · rw [PodfileLine.text, ← List.append_assoc, ← Segment.text_pod]
      exact .span hfound hdivides
    · rw [List.filterMap_cons_some (Segment.dependency?_pod ..), hsegments]
      rfl

theorem continues_nil : Continues [] [] where
  behindText before _ := ⟨[], .done, rfl⟩
  behindSpace before lead _ hlead := ⟨[], .skip (passes_blanks hlead (by simp)) .done, rfl⟩
  follows := ⟨[], [], rfl, by simp, by simp⟩

/-- Behind a line no comma comes first in the next. -/
theorem follows_line (l : PodfileLine) (h : Follows rest) : Follows ('\n' :: (l.text ++ rest)) := by
  have hfeed : Text.isBlank '\n' = true := by decide +kernel
  have hspace (space : Space) : ∀ c ∈ '\n' :: space.text, Text.isBlank c = true :=
    List.forall_mem_cons.mpr ⟨hfeed, space.blank⟩
  have hfirst {c : Char} (text : List Char) (hc : Text.isBlank c = false ∧ c ≠ ',') :
      ∀ d ∈ (c :: text).head?, Text.isBlank d = false ∧ d ≠ ',' := by
    intro d hd
    obtain rfl := Option.some.inj hd
    exact hc
  cases l with
  | blank space =>
    obtain ⟨run, tail, rfl, hrun, htail⟩ := h
    refine ⟨'\n' :: space.text ++ run, tail, by simp [PodfileLine.text], ?_, htail⟩
    exact List.forall_mem_append.mpr ⟨hspace space, hrun⟩
  | comment indentation text oneLine =>
    exact ⟨'\n' :: indentation.text,
      '#' :: (text ++ rest), by simp [PodfileLine.text], hspace indentation,
      hfirst _ ⟨by decide +kernel, by decide⟩⟩
  | pod indentation name version? =>
    exact ⟨'\n' :: indentation.text,
      PodfileLine.declaration name version? ++ rest, by simp [PodfileLine.text],
      hspace indentation, hfirst _ ⟨by decide +kernel, by decide⟩⟩

theorem continues_line (l : PodfileLine) (h : Continues rest dependencies) :
    Continues ('\n' :: (l.text ++ rest)) (l.dependency?.toList ++ dependencies) where
  behindText before hbefore :=
    ListsPods.skip ['\n'] ⟨fun _ => attemptsOf_podDeclaration_of_not_starts hbefore, trivial⟩
      (lists_line [] l h (.inr rfl) (by simp))
  behindSpace before lead hbefore hlead := by
    have hfeed : ∀ c ∈ ['\n'], Text.isBlank c = true := forall_mem_of_all (by decide +kernel)
    rw [List.append_cons]
    exact lists_line _ l h hbefore (List.forall_mem_append.mpr ⟨hlead, hfeed⟩)
  follows := follows_line l h.follows

/-- Further lines, by induction on them. -/
theorem continues_lines (ls : List PodfileLine) :
    Continues (ls.flatMap fun l => '\n' :: l.text) (ls.filterMap PodfileLine.dependency?) := by
  induction ls with
  | nil => exact continues_nil
  | cons l ls ih =>
    have hline := continues_line l ih
    rw [List.flatMap_cons, List.cons_append, List.filterMap_cons]
    cases hl : l.dependency? <;> simpa [hl] using hline

end Lines

theorem PodfileLine.podfile_cons (l : PodfileLine) (ls : List PodfileLine) :
    podfile (l :: ls) = l.text ++ ls.flatMap fun l => '\n' :: l.text := by
  rw [podfile]
  induction ls generalizing l with
  | nil => simp
  | cons l' ls ih =>
    rw [List.map_cons, List.map_cons, List.flatMap_cons, List.cons_append, ← ih]
    simp [List.intercalate]

/-- **From a Podfile the pods are listed that are written in it**, in order, with their versions. -/
theorem podDependencies_podfile (ls : List PodfileLine) :
    podDependencies (PodfileLine.podfile ls) = ls.filterMap PodfileLine.dependency? := by
  have hend (before : Option Char) (position : Nat) : podDeclaration.attemptsOf before position [] =
      [] :=
    attemptsOf_eq_nil_of_head [] (by simp) (by simp)
  have hlists : ListsPods none (PodfileLine.podfile ls) (ls.filterMap PodfileLine.dependency?) := by
    cases ls with
    | nil => exact continues_nil.behindSpace none [] (.inl rfl) (by simp)
    | cons l ls =>
      have hline := lists_line [] l (continues_lines ls) (.inl rfl) (by simp)
      rw [PodfileLine.podfile_cons, List.filterMap_cons]
      cases hl : l.dependency? <;> simpa [hl] using hline
  obtain ⟨segments, hdivides, hsegments⟩ := hlists
  rw [podDependencies_of_shown (hdivides.shows_findAll hend), hsegments]

/-- **The detector for iOS projects undoes declaration.** For a file named `Podfile` the
dependencies are the pods that its lines declare, in order; blank lines, comments and what is in the
next line do not matter. -/
theorem Detector.ios_undoes_declaration (c : Catalog) (path : Path)
    (hpath : path.fileNameText = podfileName) (ls : List PodfileLine) :
    ∃ f, (Detector.ios c).scan (String.ofList (PodfileLine.podfile ls)) path = some f ∧
      f.dependencies = ls.filterMap PodfileLine.dependency? := by
  refine ⟨_, congrArg some (if_pos hpath), ?_⟩
  rw [String.toList_ofList]
  exact podDependencies_podfile ls

/-- A pod whose name goes on in what looks like another declaration, one above a blank line and a
comment, and one with a version. -/
theorem Detector.ios_undoes_declaration_of_lines :
    ∃ ls : List PodfileLine,
      String.ofList (PodfileLine.podfile ls) =
        "pod 'A\npod B'\n\t\n# pod 'C', '1'\n  pod \"D/E\"\n\npod 'F', \"~> 4.0\"\n" ∧
      (Path.ofText "app/Podfile").fileNameText = podfileName ∧
      ∃ f, (Detector.ios ⟨"I", ["swift"], []⟩).scan (String.ofList (PodfileLine.podfile ls))
          (.ofText "app/Podfile") = some f ∧
        f.dependencies = ls.filterMap PodfileLine.dependency? ∧
        f.dependencies = [⟨"A\npod B", none⟩, ⟨"D/E", none⟩, ⟨"F", some "~> 4.0"⟩] := by
  have hpath : (Path.ofText "app/Podfile").fileNameText = podfileName := by decide +kernel
  obtain ⟨f, hf, hdependencies⟩ := Detector.ios_undoes_declaration ⟨"I", ["swift"], []⟩ _ hpath
    [.pod ⟨[], by simp⟩
        ⟨false, "A\npod B".toList, by decide, forall_mem_of_all (by decide +kernel)⟩ none,
      .blank ⟨['\t'], forall_mem_of_all (by decide +kernel)⟩,
      .comment ⟨[], by simp⟩ " pod 'C', '1'".toList (by decide +kernel),
      .pod ⟨"  ".toList, forall_mem_of_all (by decide +kernel)⟩
        ⟨true, "D/E".toList, by decide, forall_mem_of_all (by decide +kernel)⟩ none,
      .blank ⟨[], by simp⟩,
      .pod ⟨[], by simp⟩ ⟨false, "F".toList, by decide, forall_mem_of_all (by decide +kernel)⟩
        (some ⟨true, "~> 4.0".toList, by decide, forall_mem_of_all (by decide +kernel)⟩),
      .blank ⟨[], by simp⟩]
  exact ⟨_, by decide +kernel, hpath, f, hf, hdependencies, hdependencies.trans (by decide +kernel)⟩

end PrivacyAudit
