import PrivacyAudit.Detector.Android
import PrivacyAudit.Proofs.Extracting
import PrivacyAudit.Proofs.Mentioning

/-!
# Declarations in build scripts

A build script declares a dependency with `implementation` or `api`, and coordinates between quotes,
perhaps in brackets. In a script of such lines, what is extracted is what was declared
(`gradleDependencies_script`): the coordinates may be any text without quotes, one that looks like
declarations itself among them, since the search goes on behind the closing quote.
-/

namespace PrivacyAudit

open Pattern

/-! ## 1. Lines -/

/-- The words that declare a dependency. -/
inductive Keyword
  | implementation
  | api

/-- A keyword as it is written. -/
def Keyword.text : Keyword → List Char
  | .implementation => "implementation".toList
  | .api => "api".toList

/-- A declaration of a dependency, in single quotes behind a blank or in double quotes and
brackets. -/
structure Declaration where
  keyword : Keyword
  bracketed : Bool
  coordinates : List Char
  nonempty : coordinates ≠ []
  unquoted : ∀ c ∈ coordinates, ¬ IsQuote c

namespace Declaration

/-- The character between the keyword and the opening quote. -/
def opening (d : Declaration) : Char := if d.bracketed then '(' else ' '

/-- The quotes around the coordinates. -/
def quote (d : Declaration) : Char := if d.bracketed then '"' else '\''

/-- What stands behind the closing quote. -/
def closing (d : Declaration) : List Char := if d.bracketed then [')'] else []

/-- A declaration as it is written. -/
def text (d : Declaration) : List Char :=
  d.keyword.text ++ d.opening :: d.quote :: (d.coordinates ++ d.quote :: d.closing)

/-- Declarations one per line. -/
def script (ds : List Declaration) : List Char := ['\n'].intercalate (ds.map text)

/-- The span that a declaration is found as. -/
def segment (d : Declaration) : Segment :=
  .quoted (d.keyword.text ++ [d.opening]) d.quote d.coordinates d.quote

theorem text_eq (d : Declaration) : d.text = d.segment.text ++ d.closing := by
  simp [text, segment, Segment.quoted]

theorem isQuote_quote (d : Declaration) : IsQuote d.quote := by
  unfold quote
  split
  · exact .inl rfl
  · exact .inr rfl

end Declaration

/-! ## 2. What is found -/

/-- What is asked for behind the keyword of a declaration. -/
def gradleTail : List Pattern :=
  [.many (.set blanks), .optional (.char '('), .many (.set blanks)] ++ quotedGroup 1

section Attempts

variable {before : Option Char} {position : Nat} {slots : List (Nat × Nat)} {ps : List Pattern}
  {rest : List Char}

theorem read_single (word : List Char) : Read (word.map .single) word := by
  induction word with
  | nil => exact .nil
  | cons c word ih => exact .cons (CharSet.contains_single.mpr rfl) ih

theorem attempts_word (word : List Char) :
    attempts before position slots (word.map .char ++ ps) (word ++ rest) =
      attempts (lastRead before word) (position + word.length) slots ps rest := by
  have hmap : word.map Pattern.char = (word.map CharSet.single).map .set := (List.map_map ..).symm
  rw [hmap, attempts_sets (read_single word)]

theorem attempts_char_of_ne {c d : Char} (h : d ≠ c) :
    attempts before position slots (.char c :: ps) (d :: rest) = [] := by
  rw [char, attempts_set_cons, if_neg fun h' => h (CharSet.contains_single.mp h')]

theorem attempts_word_of_ne {word text : List Char} {c d : Char} (hword : word.head? = some c)
    (htext : text.head? = some d) (h : d ≠ c) :
    attempts before position slots (word.map .char ++ ps) text = [] := by
  obtain ⟨word, rfl⟩ := List.head?_eq_some_iff.mp hword
  obtain ⟨text, rfl⟩ := List.head?_eq_some_iff.mp htext
  exact attempts_char_of_ne h

theorem reads_char {c : Char} : Reads (.char c) := reads_set _

theorem reads_word {word : List Char} {c : Char} (h : word.head? = some c) :
    Reads (.sequence (word.map .char)) := by
  obtain ⟨word, rfl⟩ := List.head?_eq_some_iff.mp h
  exact .sequence ⟨.char c, by simp, reads_char⟩

theorem Keyword.head?_text_append {k : Keyword} {c : Char} (h : k.text.head? = some c) :
    (k.text ++ rest).head? = some c := by
  rw [List.head?_append, h, Option.some_or]

theorem Keyword.head?_text : Keyword.implementation.text.head? = some 'i' ∧
    Keyword.api.text.head? = some 'a' := by
  decide +kernel

/-- Of the two keywords the one is read that is there. -/
theorem attempts_keyword (k : Keyword) :
    attempts before position slots
        (.alt (.sequence (Keyword.implementation.text.map .char))
          (.sequence (Keyword.api.text.map .char)) :: ps)
        (k.text ++ rest) =
      attempts (lastRead before k.text) (position + k.text.length) slots ps rest := by
  obtain ⟨hfirst, hsecond⟩ := Keyword.head?_text
  rw [attempts_alt (reads_word hfirst), attempts_sequence, attempts_sequence]
  cases k with
  | implementation =>
    rw [attempts_word,
      attempts_word_of_ne hsecond (Keyword.head?_text_append hfirst) (by decide), List.append_nil]
  | api =>
    rw [attempts_word,
      attempts_word_of_ne hfirst (Keyword.head?_text_append hsecond) (by decide), List.nil_append]

theorem not_blank_of_isQuote {q : Char} (hq : IsQuote q) : blanks.contains q = false := by
  rcases hq with rfl | rfl <;> decide +kernel

theorem ne_bracket_of_isQuote {q : Char} (hq : IsQuote q) : q ≠ '(' := by
  rcases hq with rfl | rfl <;> decide

theorem attempts_tail_quote {q : Char} (hq : IsQuote q) :
    attempts before position slots gradleTail (q :: rest) =
      attempts before position slots (quotedGroup 1) (q :: rest) := by
  have hblank := not_blank_of_isQuote hq
  rw [gradleTail, List.cons_append, attempts_run_ends hblank, List.cons_append,
    attempts_optional reads_char, attempts_char_of_ne (ne_bracket_of_isQuote hq), List.nil_append,
    List.cons_append, attempts_run_ends hblank, List.nil_append]

/-- Behind its keyword a declaration is read as it is written. -/
theorem head?_attempts_tail (d : Declaration) :
    (attempts before (position + d.keyword.text.length) [(startSlot, position)] gradleTail
      (d.opening :: d.quote :: (d.coordinates ++ d.quote :: rest))).head? =
        some (d.segment.foundAt position) := by
  have hquote := d.isQuote_quote
  have hquoted :
      attempts (some d.opening) (position + d.keyword.text.length + 1) [(startSlot, position)]
      (quotedGroup 1) (d.quote :: (d.coordinates ++ d.quote :: rest)) =
      [d.segment.foundAt position] := by
    have hread : attempts (some d.opening) (position + (d.keyword.text ++ [d.opening]).length)
        [(startSlot, position)]
        (quotedGroup 1) (d.quote :: (d.coordinates ++ d.quote :: rest)) =
        [d.segment.foundAt position] :=
      attempts_quoted hquote hquote d.nonempty d.unquoted
    rwa [List.length_append, ← Nat.add_assoc] at hread
  cases hbracketed : d.bracketed with
  | true =>
    have hopening : d.opening = '(' := by rw [Declaration.opening, hbracketed, if_pos rfl]
    have hblank : blanks.contains '(' = false := by decide +kernel
    rw [hopening] at hquoted ⊢
    rw [gradleTail, List.cons_append, attempts_run_ends hblank, List.cons_append,
      attempts_optional reads_char, char, attempts_set_cons,
      if_pos (CharSet.contains_single.mpr rfl), List.cons_append,
      attempts_run_ends (not_blank_of_isQuote hquote), List.nil_append, hquoted]
    rfl
  | false =>
    have hopening : d.opening = ' ' := by
      rw [Declaration.opening, hbracketed, if_neg Bool.false_ne_true]
    have hblank : ∀ c ∈ [' '], blanks.contains c = true := forall_mem_of_all (by decide +kernel)
    rw [hopening] at hquoted ⊢
    have hbehind := (attempts_tail_quote hquote).trans hquoted
    refine (head?_attempts_run hblank ?_).trans (congrArg List.head? hbehind)
    exact ne_of_eq_of_ne hbehind (List.cons_ne_nil _ _)

theorem gradleDeclaration_eq : gradleDeclaration = .sequence (.look (.boundary .unicode) ::
    .alt (.sequence (Keyword.implementation.text.map .char))
      (.sequence (Keyword.api.text.map .char)) ::
    gradleTail) := rfl

/-- Behind a character that is no part of a word, a declaration is found as its span. -/
theorem head?_attemptsOf_declaration (d : Declaration)
    (hbefore : WordAlphabet.unicode.holds before = false) :
    (gradleDeclaration.attemptsOf before position (d.segment.text ++ rest)).head? =
      some (d.segment.foundAt position) := by
  have hword : WordAlphabet.unicode.holds d.keyword.text.head? = true := by
    cases d.keyword <;> decide +kernel
  have htext : d.segment.text ++ rest =
      d.keyword.text ++ d.opening :: d.quote :: (d.coordinates ++ d.quote :: rest) := by
    simp [Declaration.segment, Segment.quoted]
  have hhead : (d.segment.text ++ rest).head? = d.keyword.text.head? := by
    rw [htext, List.head?_append]
    cases d.keyword <;> rfl
  rw [attemptsOf, gradleDeclaration_eq, attempts_sequence, List.cons_append, attempts_look, if_pos]
  · rw [htext, List.cons_append, attempts_keyword, List.append_nil, head?_attempts_tail]
  · rw [hhead, Look.holds, hbefore, hword]
    rfl

/-- A declaration begins with a letter of a keyword. -/
theorem attemptsOf_eq_nil {c : Char} (hfirst : c ≠ 'i') (hsecond : c ≠ 'a') :
    gradleDeclaration.attemptsOf before position (c :: rest) = [] := by
  obtain ⟨hi, ha⟩ := Keyword.head?_text
  rw [attemptsOf, gradleDeclaration_eq, attempts_sequence, List.cons_append, attempts_look,
    List.cons_append, attempts_alt (reads_word hi), attempts_sequence, attempts_sequence,
    attempts_word_of_ne hi rfl hfirst, attempts_word_of_ne ha rfl hsecond]
  exact ite_self _

theorem attemptsOf_end : gradleDeclaration.attemptsOf before position [] = [] := by
  obtain ⟨hi, ha⟩ := Keyword.head?_text
  have hnone {word : List Char} {c : Char} (hword : word.head? = some c) (ps : List Pattern) :
      attempts before position [(startSlot, position)] (word.map .char ++ ps) [] = [] := by
    obtain ⟨word, rfl⟩ := List.head?_eq_some_iff.mp hword
    exact attempts_set_nil
  rw [attemptsOf, gradleDeclaration_eq, attempts_sequence, List.cons_append, attempts_look,
    List.cons_append, attempts_alt (reads_word hi), attempts_sequence, attempts_sequence,
    hnone hi, hnone ha]
  exact ite_self _

end Attempts

/-! ## 3. Scripts -/

namespace Declaration

/-- A line feed or a declaration as it is written. -/
def piece : Option Declaration → List Char
  | none => ['\n']
  | some d => d.text

/-- Declarations, with line feeds between them and behind them. -/
def pieces (ds : List Declaration) (behind : Nat) : List (Option Declaration) :=
  (ds.map some).intersperse none ++ List.replicate behind none

theorem flatMap_pieces (ds : List Declaration) (behind : Nat) :
    (pieces ds behind).flatMap piece = script ds ++ List.replicate behind '\n' := by
  have hbehind : (List.replicate behind none).flatMap piece = List.replicate behind '\n' := by
    induction behind with
    | zero => rfl
    | succ behind ih =>
      rw [List.replicate_succ, List.flatMap_cons, ih]
      rfl
  have hlines : ((ds.map some).intersperse none).flatMap piece = script ds := by
    rw [script]
    induction ds with
    | nil => rfl
    | cons d ds ih =>
      cases ds with
      | nil => simp [piece]
      | cons e ds =>
        have hrest := ih
        simp only [List.map_cons, List.intersperse_cons_cons, List.flatMap_cons, List.intercalate,
          List.flatten_cons] at hrest ⊢
        rw [hrest]
        rfl
  rw [pieces, List.flatMap_append, hlines, hbehind]

theorem filterMap_pieces {β : Type} (f : Declaration → β) (ds : List Declaration) (behind : Nat) :
    (pieces ds behind).filterMap (Option.map f) = ds.map f := by
  have hbehind : (List.replicate behind none).filterMap (Option.map f) = [] := by
    rw [List.filterMap_eq_nil_iff]
    intro x hx
    rw [List.eq_of_mem_replicate hx]
    rfl
  rw [pieces, List.filterMap_append, hbehind, List.append_nil]
  induction ds with
  | nil => rfl
  | cons d ds ih =>
    cases ds with
    | nil => rfl
    | cons e ds =>
      simp only [List.map_cons, List.intersperse_cons_cons, List.filterMap_cons, Option.map_some,
        Option.map_none]
        at ih ⊢
      rw [ih]

/-- Where a declaration may be found: not inside a word. -/
def Outside (before : Option Char) : Prop := WordAlphabet.unicode.holds before = false

theorem yields_piece (x : Option Declaration) :
    gradleDeclaration.Yields Outside (piece x) (x.map segment) := by
  cases x with
  | none =>
    refine .nothing fun before rest _ => passes_of_forall fun c hc before position rest => ?_
    obtain rfl := List.mem_singleton.mp hc
    exact attemptsOf_eq_nil (by decide) (by decide)
  | some d =>
    refine .one d.text_eq (fun before position rest hbefore =>
      head?_attemptsOf_declaration d hbefore) ?_
    intro before rest
    refine passes_of_forall fun c hc before position rest => ?_
    unfold closing at hc
    split at hc
    · obtain rfl := List.mem_singleton.mp hc
      exact attemptsOf_eq_nil (by decide) (by decide)
    · cases hc

theorem outside_piece (x : Option Declaration) (before : Option Char) :
    Outside (lastRead before (piece x)) := by
  have hlast : ∃ c ∈ ['\n', ')', '"', '\''], lastRead before (piece x) = some c := by
    cases x with
    | none => exact ⟨'\n', by simp, rfl⟩
    | some d =>
      simp only [piece, text, quote, closing, lastRead_append, lastRead_cons]
      split
      · exact ⟨')', by simp, rfl⟩
      · exact ⟨'\'', by simp, rfl⟩
  obtain ⟨c, hc, hlast⟩ := hlast
  have hnone : ∀ c ∈ ['\n', ')', '"', '\''], WordAlphabet.unicode.holds (some c) = false :=
    forall_mem_of_all (by decide +kernel)
  rw [Outside, hlast]
  exact hnone c hc

end Declaration

/-! ## 4. Dependencies -/

section Coordinates

variable {text name version : List Char}

theorem splitAtLastColon_eq_none : splitAtLastColon text = none ↔ ':' ∉ text := by
  induction text with
  | nil => simp [splitAtLastColon]
  | cons c text ih =>
    rw [splitAtLastColon, List.mem_cons, not_or, ← ih]
    cases hsplit : splitAtLastColon text with
    | none => simp [eq_comm]
    | some parts => simp

/-- A text is split where its last colon is. -/
theorem eq_of_splitAtLastColon (h : splitAtLastColon text = some (name, version)) :
    text = name ++ ':' :: version ∧ ':' ∉ version := by
  induction text generalizing name with
  | nil => cases h
  | cons c text ih =>
    rw [splitAtLastColon] at h
    cases hsplit : splitAtLastColon text with
    | none =>
      have hlast := splitAtLastColon_eq_none.mp hsplit
      simp only [hsplit, Option.ite_none_right_eq_some, Option.some.injEq, Prod.mk.injEq] at h
      obtain ⟨rfl, rfl, rfl⟩ := h
      exact ⟨rfl, hlast⟩
    | some parts =>
      obtain ⟨before, behind⟩ := parts
      simp only [hsplit, Option.some.injEq, Prod.mk.injEq] at h
      obtain ⟨rfl, rfl⟩ := h
      obtain ⟨htext, hlast⟩ := ih hsplit
      exact ⟨congrArg (c :: ·) htext, hlast⟩

end Coordinates

/-- The dependency that coordinates stand for: those of at least three parts end with a version, all
others are a name without one. -/
inductive Names (coordinates : List Char) : Dependency → Prop
  | versioned {name version : List Char} (parts : 2 ≤ coordinates.count ':')
      (split : coordinates = name ++ ':' :: version) (last : ':' ∉ version) :
      Names coordinates ⟨String.ofList name, some (String.ofList version)⟩
  | unversioned (parts : coordinates.count ':' < 2) :
      Names coordinates ⟨String.ofList coordinates, none⟩

theorem names_ofCoordinates (coordinates : List Char) :
    Names coordinates (.ofCoordinates coordinates) := by
  unfold Dependency.ofCoordinates
  cases hsplit : splitAtLastColon coordinates with
  | none =>
    refine .unversioned ?_
    rw [List.count_eq_zero_of_not_mem (splitAtLastColon_eq_none.mp hsplit)]
    exact Nat.zero_lt_two
  | some parts =>
    obtain ⟨name, version⟩ := parts
    obtain ⟨hcoordinates, hlast⟩ := eq_of_splitAtLastColon hsplit
    have hcount : coordinates.count ':' = name.count ':' + 1 := by
      rw [hcoordinates, List.count_append, List.count_cons_self,
        List.count_eq_zero_of_not_mem hlast]
    dsimp only
    split
    next hname =>
      have hname := List.count_pos_iff.mpr (List.contains_iff_mem.mp hname)
      exact .versioned (by omega) hcoordinates hlast
    next hname =>
      have hname := List.count_eq_zero_of_not_mem fun h => hname (List.contains_iff_mem.mpr h)
      exact .unversioned (by omega)

/-- The name of a dependency with its version behind a colon, if it has one. -/
def Dependency.rejoined (d : Dependency) : String :=
  match d.version? with
  | some version => d.name ++ ":" ++ version
  | none => d.name

theorem Names.rejoined {coordinates : List Char} {d : Dependency} (h : Names coordinates d) :
    d.rejoined = String.ofList coordinates := by
  cases h with
  | versioned _ hsplit _ => rw [hsplit, Dependency.rejoined, ← String.toList_inj]; simp
  | unversioned => rfl

/-- **From a script the declared dependencies are extracted**, one for each line. -/
theorem gradleDependencies_script (ds : List Declaration) (behind : Nat) :
    gradleDependencies (Declaration.script ds ++ List.replicate behind '\n') =
      ds.map fun d => .ofCoordinates d.coordinates := by
  have hshown :=
    shows_findAll (fun before position => attemptsOf_end) (Declaration.pieces ds behind)
    (fun x _ => Declaration.yields_piece x) rfl (fun x _ before _ =>
      Declaration.outside_piece x before)
  rw [Declaration.flatMap_pieces, Declaration.filterMap_pieces] at hshown
  rw [gradleDependencies, filterMap_group_of_shown hshown Nat.one_pos, List.filterMap_map]
  have hgroup :
      ((fun s : Segment => (s.group? 1).map Dependency.ofCoordinates) ∘ Declaration.segment) =
      some ∘ fun d => .ofCoordinates d.coordinates := by
    funext d
    exact congrArg (Option.map _) (Segment.group?_quoted ..)
  rw [hgroup, List.filterMap_eq_map]

/-- **The detector for Android projects undoes declaration.** On the path of a build script the
dependencies are the declared ones, in order, and joining a name and its version again restores the
coordinates. -/
theorem Detector.android_undoes_declaration (c : Catalog) (path : Path)
    (hpath : ".gradle".toList <:+: path.text.toList) (ds : List Declaration) (behind : Nat) :
    ∃ f, (Detector.android c).scan
      (String.ofList (Declaration.script ds ++ List.replicate behind '\n')) path = some f ∧
      List.Forall₂ (fun d dependency => Names d.coordinates dependency) ds f.dependencies ∧
      f.dependencies.map Dependency.rejoined = ds.map fun d => String.ofList d.coordinates := by
  have hgradle : isGradlePath path = true := by
    rw [isGradlePath, Text.contains, Text.occursIn_iff_isInfix]
    exact hpath
  refine ⟨_, congrArg some (if_pos hgradle), ?_, ?_⟩
  · rw [String.toList_ofList, gradleDependencies_script, List.forall₂_map_right_iff]
    exact List.forall₂_same.mpr fun d _ => names_ofCoordinates _
  · rw [String.toList_ofList, gradleDependencies_script, List.map_map]
    exact List.map_congr_left fun d _ => (names_ofCoordinates _).rejoined

/-- Coordinates that look like declarations, over two lines, with and without a version. -/
theorem Detector.android_undoes_declaration_of_lines :
    ∃ ds : List Declaration,
      String.ofList (Declaration.script ds) =
        "implementation 'a:b:c'\napi(\"api x\nimplementation(:\")\nimplementation(\":\")\napi '::'" ∧
      ".gradle".toList <:+: (Path.ofText "app/x.gradle.d/y").text.toList ∧
      ∃ f, (Detector.android ⟨"A", ["kt"], []⟩).scan
        (String.ofList (Declaration.script ds ++ List.replicate 1 '\n'))
          (.ofText "app/x.gradle.d/y") = some f ∧
        List.Forall₂ (fun d dependency => Names d.coordinates dependency) ds f.dependencies ∧
        f.dependencies.map Dependency.rejoined = ds.map fun d => String.ofList d.coordinates := by
  have hpath : ".gradle".toList <:+: (Path.ofText "app/x.gradle.d/y").text.toList := by
    rw [← Text.occursIn_iff_isInfix]
    decide +kernel
  exact ⟨[⟨.implementation, false, "a:b:c".toList, by decide,
        forall_mem_of_all (by decide +kernel)⟩,
      ⟨.api, true, "api x\nimplementation(:".toList, by decide,
        forall_mem_of_all (by decide +kernel)⟩,
      ⟨.implementation, true, ":".toList, by decide, forall_mem_of_all (by decide +kernel)⟩,
      ⟨.api, false, "::".toList, by decide, forall_mem_of_all (by decide +kernel)⟩],
    by decide +kernel, hpath, Detector.android_undoes_declaration _ _ hpath _ 1⟩

end PrivacyAudit
