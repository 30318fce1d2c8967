import PrivacyAudit.Proofs.Denotation

/-!
# What the text of a glob describes

`Describes` says, in the characters of a glob itself, which paths it describes: without tokens,
trees or regular expressions. Braces hold alternatives, texts whose own braces have partners
(`Closed`); how the inside of braces falls into alternatives is settled by the text
(`alternatives_unique`).

The tree of an accepted glob stands for the paths that its text describes. Inside braces this is
said of the alternatives up to the closing brace (`denotes_inside`), outside of what is left of the
text (`denotes_outside`); both go by the text's length. So an accepted glob accepts exactly the
paths that its text describes (`accepts_iff_describes`).
-/

namespace PrivacyAudit.Glob

/-! ## 1. The paths that a text describes -/

/-- The inside of braces: alternatives with commas between them. -/
def alternatives (first : List Char) (others : List (List Char)) : List Char :=
  first ++ others.flatMap (',' :: ·)

/-- A text in which each brace has its partner and each comma is inside braces. -/
inductive Closed : List Char → Prop
  | nil : Closed []
  | char {c : Char} {rest : List Char} (hopen : c ≠ '{') (hclose : c ≠ '}') (hcomma : c ≠ ',')
      (hrest : Closed rest) : Closed (c :: rest)
  | braces {first rest : List Char} {others : List (List Char)}
      (hall : ∀ a ∈ first :: others, Closed a) (hrest : Closed rest) :
      Closed ('{' :: (alternatives first others ++ '}' :: rest))

/-- The paths that the text of a glob describes. -/
inductive Describes : (text path : List Char) → Prop
  | nothing : Describes [] []
  /-- `**/`: nothing, or anything that ends with a slash. -/
  | directories {rest x y : List Char} (hx : x = [] ∨ ∃ above,
      x = above ++ ['/']) (hy : Describes rest y) :
      Describes ('*' :: '*' :: '/' :: rest) (x ++ y)
  /-- `**` elsewhere: anything. -/
  | anything {rest x y : List Char} (hrest : rest.head? ≠ some '/') (hy : Describes rest y) :
      Describes ('*' :: '*' :: rest) (x ++ y)
  /-- `*`: anything without a slash. -/
  | withinSegment {rest x y : List Char} (hrest : rest.head? ≠ some '*') (hx : '/' ∉ x)
      (hy : Describes rest y) : Describes ('*' :: rest) (x ++ y)
  /-- `?`: one character other than the slash. -/
  | oneInSegment {rest y : List Char} {c : Char} (hc : c ≠ '/') (hy : Describes rest y) :
      Describes ('?' :: rest) (c :: y)
  /-- Braces: one of their alternatives. -/
  | braces {first rest a x y : List Char} {others : List (List Char)}
      (hall : ∀ a ∈ first :: others, Closed a) (ha : a ∈ first :: others) (hx : Describes a x)
      (hy : Describes rest y) :
      Describes ('{' :: (alternatives first others ++ '}' :: rest)) (x ++ y)
  /-- All other characters stand for themselves. -/
  | literal {rest y : List Char} {c : Char} (hstar : c ≠ '*') (hmark : c ≠ '?') (hopen : c ≠ '{')
      (hy : Describes rest y) : Describes (c :: rest) (c :: y)

/-! ## 2. Alternatives are settled by the text -/

/-- A text at whose beginning an alternative ends. -/
def Stops (s : List Char) : Prop := ∃ rest, s = ',' :: rest ∨ s = '}' :: rest

theorem not_stops_cons {c : Char} {s : List Char} (hclose : c ≠ '}') (hcomma : c ≠ ',') :
    ¬Stops (c :: s) := by
  rintro ⟨rest, h | h⟩
  · exact hcomma (List.cons.inj h).1
  · exact hclose (List.cons.inj h).1

/-- The commas and alternatives behind the first, and the closing brace behind them, are where the
first alternative ends. -/
theorem stops_others (others : List (List Char)) (rest : List Char) :
    Stops (others.flatMap (',' :: ·) ++ '}' :: rest) := by
  cases others with
  | nil => exact ⟨rest, .inr rfl⟩
  | cons a others => exact ⟨_, .inl rfl⟩

/-- What begins with this text and a stop begins with no other closed text and a stop. -/
def EndsOnce (w : List Char) : Prop :=
  ∀ w' s s', Closed w' → Stops s → Stops s' → w ++ s = w' ++ s' → w = w' ∧ s = s'

theorem alternatives_append (first : List Char) (others : List (List Char)) (rest : List Char) :
    alternatives first others ++ rest = first ++ (others.flatMap (',' :: ·) ++ rest) :=
  List.append_assoc ..

theorem alternatives_endOnce {first first' rest rest' : List Char}
    {others others' : List (List Char)} (h : ∀ a ∈ first :: others, EndsOnce a)
    (h' : ∀ a ∈ first' :: others', Closed a)
    (heq : alternatives first others ++ '}' :: rest = alternatives first' others' ++ '}' :: rest') :
    first = first' ∧ others = others' ∧ rest = rest' := by
  induction others generalizing first first' others' with
  | nil =>
    rw [alternatives_append, alternatives_append] at heq
    obtain ⟨rfl, htail⟩ :=
      h first (by simp) _ _ _ (h' first' (by simp)) (stops_others ..) (stops_others ..) heq
    cases others' with
    | nil => exact ⟨rfl, rfl, by simpa using htail⟩
    | cons a' others' => simp at htail
  | cons a others ih =>
    rw [alternatives_append, alternatives_append] at heq
    obtain ⟨rfl, htail⟩ :=
      h first (by simp) _ _ _ (h' first' (by simp)) (stops_others ..) (stops_others ..) heq
    cases others' with
    | nil => simp at htail
    | cons a' others' =>
      have htail' : alternatives a others ++ '}' :: rest =
          alternatives a' others' ++ '}' :: rest' := by
        simpa [alternatives] using htail
      obtain ⟨rfl, rfl, rfl⟩ :=
        ih (fun b hb => h b (.tail _ hb)) (fun b hb => h' b (.tail _ hb)) htail'
      exact ⟨rfl, rfl, rfl⟩

theorem Closed.endsOnce {w : List Char} (h : Closed w) : EndsOnce w := by
  induction h with
  | nil =>
    intro w' s s' h' hs _ heq
    subst heq
    cases h' with
    | nil => exact ⟨rfl, rfl⟩
    | char _ hclose hcomma _ => exact absurd hs (not_stops_cons hclose hcomma)
    | braces _ _ => exact absurd hs (not_stops_cons (by decide) (by decide))
  | @char c rest hopen hclose hcomma _ ih =>
    intro w' s s' h' hs hs' heq
    cases h' with
    | nil =>
      obtain rfl : c :: (rest ++ s) = s' := heq
      exact absurd hs' (not_stops_cons hclose hcomma)
    | char _ _ _ hrest =>
      obtain ⟨rfl, htail⟩ := List.cons.inj heq
      obtain ⟨rfl, rfl⟩ := ih _ _ _ hrest hs hs' htail
      exact ⟨rfl, rfl⟩
    | braces _ _ => exact absurd (List.cons.inj heq).1 hopen
  | @braces first rest others _ _ ihall ih =>
    intro w' s s' h' hs hs' heq
    cases h' with
    | nil =>
      obtain rfl : '{' :: (alternatives first others ++ '}' :: rest) ++ s = s' := heq
      exact absurd hs' (not_stops_cons (by decide) (by decide))
    | char hopen _ _ _ => exact absurd (List.cons.inj heq).1.symm hopen
    | @braces first' rest' others' hall' hrest' =>
      have hinside : alternatives first others ++ '}' :: (rest ++ s) =
          alternatives first' others' ++ '}' :: (rest' ++ s') := by simpa using heq
      obtain ⟨rfl, rfl, htail⟩ := alternatives_endOnce ihall hall' hinside
      obtain ⟨rfl, rfl⟩ := ih _ _ _ hrest' hs hs' htail
      exact ⟨rfl, rfl⟩

/-- The text settles the alternatives inside braces and what is behind the closing brace. -/
theorem alternatives_unique {first first' rest rest' : List Char}
    {others others' : List (List Char)} (h : ∀ a ∈ first :: others, Closed a)
    (h' : ∀ a ∈ first' :: others', Closed a)
    (heq : alternatives first others ++ '}' :: rest = alternatives first' others' ++ '}' :: rest') :
    first = first' ∧ others = others' ∧ rest = rest' :=
  alternatives_endOnce (fun a ha => (h a ha).endsOnce) h' heq

/-! ## 3. The paths of a text, part by part -/

/-- The concatenations of a text of one kind and a text of another. -/
def Concat (L M : List Char → Prop) : List Char → Prop := fun z => ∃ x y, z = x ++ y ∧ L x ∧ M y

theorem concat_assoc {L M N : List Char → Prop} {z : List Char} :
    Concat (Concat L M) N z ↔ Concat L (Concat M N) z := by
  constructor
  · rintro ⟨_, v, rfl, ⟨x, y, rfl, hx, hy⟩, hv⟩
    exact ⟨x, y ++ v, by simp, hx, y, v, rfl, hy, hv⟩
  · rintro ⟨x, _, rfl, hx, y, v, rfl, hy, hv⟩
    exact ⟨x ++ y, v, by simp, ⟨x, y, rfl, hx, hy⟩, hv⟩

theorem concat_congr {L L' M M' : List Char → Prop} (hL : ∀ x, L x ↔ L' x) (hM : ∀ y, M y ↔ M' y)
    {z : List Char} : Concat L M z ↔ Concat L' M' z := by
  simp only [Concat, hL, hM]

theorem concat_nothing_left {M : List Char → Prop} {z : List Char} :
    Concat Shape.nothing.Denotes M z ↔ M z := by
  constructor
  · rintro ⟨_, y, rfl, rfl, hy⟩
    exact hy
  · exact fun h => ⟨[], z, rfl, rfl, h⟩

theorem concat_nothing_right {L : List Char → Prop} {z : List Char} :
    Concat L Shape.nothing.Denotes z ↔ L z := by
  constructor
  · rintro ⟨x, _, rfl, hx, rfl⟩
    simpa using hx
  · exact fun h => ⟨z, [], by simp, h, rfl⟩

namespace Shape

theorem denotes_andThen {a b : Shape} {z : List Char} :
    (a.andThen b).Denotes z ↔ Concat a.Denotes b.Denotes z := by
  cases a with
  | nothing => exact concat_nothing_left.symm
  | _ => rfl

theorem denotes_orElse {before : Option Shape} {last : Shape} {z : List Char} :
    (orElse before last).Denotes z ↔ (∃ b ∈ before, b.Denotes z) ∨ last.Denotes z := by
  cases before with
  | none => simp [orElse]
  | some b => simp [orElse, Denotes]

/-- Where what follows an item is known, so is what follows a sequence that ends in the item. -/
theorem concat_andThen {current item : Shape} {M N : List Char → Prop}
    (h : ∀ z, N z ↔ Concat item.Denotes M z) {z : List Char} :
    Concat (current.andThen item).Denotes M z ↔ Concat current.Denotes N z :=
  calc Concat (current.andThen item).Denotes M z
      ↔ Concat (Concat current.Denotes item.Denotes) M z :=
      concat_congr (fun _ => denotes_andThen) fun _ => .rfl
    _ ↔ Concat current.Denotes (Concat item.Denotes M) z := concat_assoc
    _ ↔ Concat current.Denotes N z := concat_congr (fun _ => .rfl) fun z => (h z).symm

end Shape

theorem describes_nil_iff {z : List Char} : Describes [] z ↔ z = [] := by
  constructor
  · rintro ⟨⟩
    rfl
  · rintro rfl
    exact .nothing

theorem concat_describes_nil {L : List Char → Prop} {z : List Char} :
    Concat L (Describes []) z ↔ L z :=
  (concat_congr (fun _ => .rfl) fun _ => describes_nil_iff).trans concat_nothing_right

theorem describes_braces_iff {first rest z : List Char} {others : List (List Char)}
    (hall : ∀ a ∈ first :: others, Closed a) :
    Describes ('{' :: (alternatives first others ++ '}' :: rest)) z ↔
      Concat (fun x => ∃ a ∈ first :: others, Describes a x) (Describes rest) z := by
  constructor
  · intro h
    generalize htext : '{' :: (alternatives first others ++ '}' :: rest) = text at h
    cases h with
    | braces hall' ha hx hy =>
      obtain ⟨rfl, rfl, rfl⟩ := alternatives_unique hall hall' (List.cons.inj htext).2
      exact ⟨_, _, rfl, ⟨_, ha, hx⟩, hy⟩
    | literal _ _ hopen _ => exact absurd (List.cons.inj htext).1.symm hopen
    | _ => simp at htext
  · rintro ⟨x, y, rfl, ⟨a, ha, hx⟩, hy⟩
    exact .braces hall ha hx hy

/-- The items of a glob other than braces, as they are written in front of a text, with their
trees. -/
inductive Item : (written behind : List Char) → Shape → Prop
  | directories {behind : List Char} : Item ['*', '*', '/'] behind .directories
  | anything {behind : List Char} (h : behind.head? ≠ some '/') : Item ['*', '*'] behind .anything
  | withinSegment {behind : List Char} (h : behind.head? ≠ some '*') :
      Item ['*'] behind .withinSegment
  | oneInSegment {behind : List Char} : Item ['?'] behind .oneInSegment
  | literal {behind : List Char} {c : Char} (hstar : c ≠ '*') (hmark : c ≠ '?') (hopen : c ≠ '{') :
      Item [c] behind (.literal c)

theorem describes_item_iff {written behind : List Char} {item : Shape}
    (h : Item written behind item) {z : List Char} :
    Describes (written ++ behind) z ↔
    Concat item.Denotes (Describes behind) z := by
  constructor
  · intro hz
    generalize htext : written ++ behind = text at hz
    cases h with
    | directories =>
      cases hz with
      | directories hx hy =>
        obtain rfl : behind = _ := by simpa using htext
        exact ⟨_, _, rfl, hx, hy⟩
      | anything hrest _ =>
        obtain rfl : '/' :: behind = _ := by simpa using htext
        exact absurd rfl hrest
      | withinSegment hrest _ _ =>
        obtain rfl : '*' :: '/' :: behind = _ := by simpa using htext
        exact absurd rfl hrest
      | literal hstar _ _ _ => exact absurd (List.cons.inj htext).1.symm hstar
      | _ => simp at htext
    | anything hbehind =>
      cases hz with
      | anything _ hy =>
        obtain rfl : behind = _ := by simpa using htext
        exact ⟨_, _, rfl, trivial, hy⟩
      | directories _ _ =>
        obtain rfl : behind = '/' :: _ := by simpa using htext
        exact absurd rfl hbehind
      | withinSegment hrest _ _ =>
        obtain rfl : '*' :: behind = _ := by simpa using htext
        exact absurd rfl hrest
      | literal hstar _ _ _ => exact absurd (List.cons.inj htext).1.symm hstar
      | _ => simp at htext
    | withinSegment hbehind =>
      cases hz with
      | withinSegment _ hx hy =>
        obtain rfl : behind = _ := by simpa using htext
        exact ⟨_, _, rfl, hx, hy⟩
      | directories _ _ =>
        obtain rfl : behind = '*' :: '/' :: _ := by simpa using htext
        exact absurd rfl hbehind
      | anything _ _ =>
        obtain rfl : behind = '*' :: _ := by simpa using htext
        exact absurd rfl hbehind
      | literal hstar _ _ _ => exact absurd (List.cons.inj htext).1.symm hstar
      | _ => simp at htext
    | oneInSegment =>
      cases hz with
      | oneInSegment hc hy =>
        obtain rfl : behind = _ := by simpa using htext
        exact ⟨[_], _, rfl, ⟨_, hc, rfl⟩, hy⟩
      | literal _ hmark _ _ => exact absurd (List.cons.inj htext).1.symm hmark
      | _ => simp at htext
    | literal hstar hmark hopen =>
      cases hz with
      | literal _ _ _ hy =>
        obtain ⟨rfl, rfl⟩ := List.cons.inj htext
        exact ⟨[_], _, rfl, rfl, hy⟩
      | _ => simp_all
  · rintro ⟨x, y, rfl, hx, hy⟩
    cases h with
    | directories => exact .directories hx hy
    | anything h => exact .anything h hy
    | withinSegment h => exact .withinSegment h hx hy
    | oneInSegment =>
      obtain ⟨c, hc, rfl⟩ := hx
      exact .oneInSegment hc hy
    | literal hstar hmark hopen =>
      obtain rfl := hx
      exact .literal hstar hmark hopen hy

theorem Item.length_lt {written behind : List Char} {item : Shape} (h : Item written behind item) :
    behind.length < (written ++ behind).length := by
  rw [List.length_append]
  cases h <;> simp

/-- A text begins with a brace or with an item, unless it is empty. -/
theorem item_or_brace (text : List Char) :
    text = [] ∨ (∃ rest, text = '{' :: rest) ∨
      ∃ written behind item, text = written ++ behind ∧ Item written behind item := by
  cases text with
  | nil => exact .inl rfl
  | cons c rest =>
    right
    by_cases hopen : c = '{'
    · exact .inl ⟨rest, by rw [hopen]⟩
    right
    by_cases hmark : c = '?'
    · exact ⟨['?'], rest, _, by simp [hmark], .oneInSegment⟩
    by_cases hstar : c = '*'
    · subst hstar
      by_cases hsecond : rest.head? = some '*'
      · obtain ⟨rest, rfl⟩ := List.head?_eq_some_iff.mp hsecond
        by_cases hslash : rest.head? = some '/'
        · obtain ⟨rest, rfl⟩ := List.head?_eq_some_iff.mp hslash
          exact ⟨_, rest, _, rfl, .directories⟩
        · exact ⟨_, rest, _, rfl, .anything hslash⟩
      · exact ⟨_, rest, _, rfl, .withinSegment hsecond⟩
    · exact ⟨[c], rest, _, rfl, .literal hstar hmark hopen⟩

/-! ## 4. The tree of a text -/

/-- An item is one token, which puts its tree behind the sequence being read. A brace and a comma
are items outside of braces only. -/
theorem ofTokensFrom_item {written behind : List Char} {item : Shape} (h : Item written behind item)
    {depth : Nat} (hdepth : depth = 0 ∨ '}' ∉ written ∧ ',' ∉ written) {current : Shape}
    {before : Option Shape} {outside : Shape.Outside} :
    Shape.ofTokensFrom current before outside (tokensFrom depth (written ++ behind)) =
      Shape.ofTokensFrom (current.andThen item) before outside (tokensFrom depth behind) := by
  cases h with
  | directories => rfl
  | anything h =>
    have htokens : tokensFrom depth ('*' :: '*' :: behind) =
        .anything :: tokensFrom depth behind := by
      rw [tokensFrom]
      rintro rest rfl
      exact h rfl
    exact congrArg (Shape.ofTokensFrom current before outside) htokens
  | withinSegment h =>
    have htokens : tokensFrom depth ('*' :: behind) =
        .withinSegment :: tokensFrom depth behind := by
      rw [tokensFrom]
      · rintro rest rfl
        exact h rfl
      · rintro rest rfl
        exact h rfl
    exact congrArg (Shape.ofTokensFrom current before outside) htokens
  | oneInSegment => rfl
  | @literal _ c hstar hmark hopen =>
    have htokens : tokensFrom depth (c :: behind) = .literal c :: tokensFrom depth behind := by
      by_cases hclose : c = '}'
      · obtain rfl : depth = 0 := by simpa [hclose] using hdepth
        rw [hclose, tokensFrom, if_pos rfl]
      by_cases hcomma : c = ','
      · obtain rfl : depth = 0 := by simpa [hcomma] using hdepth
        rw [hcomma, tokensFrom, if_pos rfl]
      rw [tokensFrom] <;> simp [hstar, hmark, hopen, hclose, hcomma]
    exact congrArg (Shape.ofTokensFrom current before outside) htokens

/-- Inside of braces an item has neither a closing brace nor a comma. -/
theorem Item.not_mem {written behind : List Char} {item : Shape} (h : Item written behind item)
    (hclose : written ≠ ['}']) (hcomma : written ≠ [',']) : '}' ∉ written ∧ ',' ∉ written := by
  cases h with
  | literal _ _ _ => exact ⟨by simpa [eq_comm] using hclose, by simpa [eq_comm] using hcomma⟩
  | _ => decide

theorem head?_ne_of_append {first rest : List Char} {c : Char}
    (h : (first ++ rest).head? ≠ some c) : first.head? ≠ some c := by
  cases first with
  | nil => simp
  | cons d first => exact h

/-- An item in front of a text is one in front of a beginning of it. -/
theorem Item.of_append {written first rest : List Char} {item : Shape}
    (h : Item written (first ++ rest) item) : Item written first item := by
  cases h with
  | directories => exact .directories
  | anything h => exact .anything (head?_ne_of_append h)
  | withinSegment h => exact .withinSegment (head?_ne_of_append h)
  | oneInSegment => exact .oneInSegment
  | literal hstar hmark hopen => exact .literal hstar hmark hopen

theorem Closed.item {written behind w : List Char} {item : Shape} (hitem : Item written behind item)
    (hmem : '}' ∉ written ∧ ',' ∉ written) (h : Closed w) : Closed (written ++ w) := by
  cases hitem with
  | directories =>
    exact .char (by decide) (by decide) (by decide) (.char (by decide) (by decide) (by decide)
      (.char (by decide) (by decide) (by decide) h))
  | anything _ =>
    exact .char (by decide) (by decide) (by decide) (.char (by decide) (by decide) (by decide) h)
  | withinSegment _ => exact .char (by decide) (by decide) (by decide) h
  | oneInSegment => exact .char (by decide) (by decide) (by decide) h
  | literal _ _ hopen =>
    exact .char hopen (by simpa [eq_comm] using hmem.1) (by simpa [eq_comm] using hmem.2) h

/-- A text inside of braces up to its closing brace: `first` is the rest of the alternative being
read and `others` are the alternatives behind it. What is inside stands for the alternatives read
before, for what is being read continued by `first`, and for the others. -/
structure ReadsInside (text : List Char) (current : Shape) (before : Option Shape)
    (first : List Char) (others : List (List Char)) (rest : List Char) (inside : Shape) : Prop where
  text_eq : text = alternatives first others ++ '}' :: rest
  closed : ∀ a ∈ first :: others, Closed a
  denotes : ∀ x, inside.Denotes x ↔ (∃ b ∈ before, b.Denotes x) ∨
    Concat current.Denotes (Describes first) x ∨ ∃ a ∈ others, Describes a x

namespace ReadsInside

variable {text first rest : List Char} {current inside : Shape} {before : Option Shape}
  {others : List (List Char)}

/-- From the opening brace on, what is inside stands for the alternatives. -/
theorem denotes_opened (h : ReadsInside text .nothing none first others rest inside)
    {x : List Char} : inside.Denotes x ↔ ∃ a ∈ first :: others, Describes a x := by
  rw [h.denotes, concat_nothing_left]
  simp

theorem describes_braces_iff (h : ReadsInside text .nothing none first others rest inside)
    {behind z : List Char} :
    Describes ('{' :: (alternatives first others ++ '}' :: behind)) z ↔
      Concat (Shape.braces inside).Denotes (Describes behind) z :=
  (Glob.describes_braces_iff h.closed).trans (concat_congr (fun _ => h.denotes_opened.symm) fun _ =>
    .rfl)

theorem closing :
    ReadsInside ('}' :: rest) current before [] [] rest (Shape.orElse before current) where
  text_eq := rfl
  closed := by simp [Closed.nil]
  denotes x := by
    rw [Shape.denotes_orElse, concat_describes_nil]
    simp

theorem comma
    (h : ReadsInside text .nothing (some (Shape.orElse before current)) first others rest inside) :
    ReadsInside (',' :: text) current before [] (first :: others) rest inside where
  text_eq := by simp [h.text_eq, alternatives]
  closed a ha := by
    rcases List.mem_cons.mp ha with rfl | ha
    · exact .nil
    · exact h.closed a ha
  denotes x := by
    rw [h.denotes, concat_nothing_left, concat_describes_nil]
    simp [Shape.denotes_orElse, or_assoc]

theorem item {written : List Char} {item : Shape} (hitem : Item written text item)
    (hmem : '}' ∉ written ∧ ',' ∉ written)
    (h : ReadsInside text (current.andThen item) before first others rest inside) :
    ReadsInside (written ++ text) current before (written ++ first) others rest inside where
  text_eq := by simp [h.text_eq, alternatives]
  closed a ha := by
    rcases List.mem_cons.mp ha with rfl | ha
    · exact .item hitem hmem (h.closed first (by simp))
    · exact h.closed a (by simp [ha])
  denotes x := by
    have hfirst : Item written first item := by
      rw [h.text_eq, alternatives_append] at hitem
      exact hitem.of_append
    rw [h.denotes, Shape.concat_andThen fun _ => describes_item_iff hfirst]

theorem braces {innerFirst behind : List Char} {innerOthers : List (List Char)} {inner : Shape}
    (hinner : ReadsInside text .nothing none innerFirst innerOthers behind inner)
    (h : ReadsInside behind (current.andThen (.braces inner)) before first others rest inside) :
    ReadsInside ('{' :: text) current before ('{' ::
      (alternatives innerFirst innerOthers ++ '}' :: first))
      others rest inside where
  text_eq := by simp [hinner.text_eq, h.text_eq, alternatives]
  closed a ha := by
    rcases List.mem_cons.mp ha with rfl | ha
    · exact .braces hinner.closed (h.closed first (by simp))
    · exact h.closed a (by simp [ha])
  denotes x := by
    rw [h.denotes, Shape.concat_andThen fun _ => hinner.describes_braces_iff]

theorem length_rest_lt (h : ReadsInside text current before first others rest inside) :
    rest.length < text.length := by
  simp [h.text_eq]
  omega

end ReadsInside

/-- What is read inside of an open brace comes to its closing brace, and the tokens behind it are
read with the braces in the sequence. -/
theorem denotes_inside {text : List Char} {depth : Nat} {current sequence shape : Shape}
    {before around : Option Shape} {outside : Shape.Outside}
    (h : Shape.ofTokensFrom current before ((sequence, around) :: outside)
      (tokensFrom (depth + 1) text) = some shape) :
    ∃ first others rest inside, ReadsInside text current before first others rest inside ∧
      Shape.ofTokensFrom (sequence.andThen (.braces inside)) around outside
        (tokensFrom depth rest) = some shape := by
  induction hlength : text.length using Nat.strongRecOn
    generalizing text depth current before sequence around outside with
  | ind n ih =>
    subst hlength
    rcases item_or_brace text with rfl | ⟨behind, rfl⟩ | ⟨written, behind, item, rfl, hitem⟩
    · cases h
    · -- first the inner braces, then what is behind them
      have hopened :
          Shape.ofTokensFrom .nothing none ((current, before) :: (sequence, around) :: outside)
          (tokensFrom (depth + 2) behind) = some shape := h
      obtain ⟨innerFirst, innerOthers, middle, inner, hinner, hmiddle⟩ :=
        ih behind.length (by simp) hopened rfl
      obtain ⟨first, others, rest, inside, hinside, hrest⟩ :=
        ih middle.length (Nat.lt_succ_of_lt hinner.length_rest_lt) hmiddle rfl
      exact ⟨_, _, _, _, hinner.braces hinside, hrest⟩
    · by_cases hclose : written = ['}']
      · subst hclose
        exact ⟨[], [], behind, _, .closing, h⟩
      by_cases hcomma : written = [',']
      · subst hcomma
        have hnext : Shape.ofTokensFrom .nothing (some (Shape.orElse before current))
            ((sequence, around) :: outside) (tokensFrom (depth + 1) behind) = some shape := h
        obtain ⟨first, others, rest, inside, hinside, hrest⟩ := ih behind.length (by simp) hnext rfl
        exact ⟨_, _, _, _, hinside.comma, hrest⟩
      · have hmem := hitem.not_mem hclose hcomma
        rw [ofTokensFrom_item hitem (.inr hmem)] at h
        obtain ⟨first, others, rest, inside, hinside, hrest⟩ :=
          ih behind.length hitem.length_lt h rfl
        exact ⟨_, _, _, _, hinside.item hitem hmem, hrest⟩

/-- Outside of braces the tree stands for what was read continued by what the rest of the text
describes. -/
theorem denotes_outside {text : List Char} {current shape : Shape}
    (h : Shape.ofTokensFrom current none [] (tokensFrom 0 text) = some shape) {z : List Char} :
    shape.Denotes z ↔ Concat current.Denotes (Describes text) z := by
  induction hlength : text.length using Nat.strongRecOn generalizing text current with
  | ind n ih =>
    subst hlength
    rcases item_or_brace text with rfl | ⟨behind, rfl⟩ | ⟨written, behind, item, rfl, hitem⟩
    · obtain rfl : current = shape := Option.some.inj h
      exact concat_describes_nil.symm
    · obtain ⟨first, others, rest, inside, hinside, hrest⟩ := denotes_inside h
      rw [ih rest.length (Nat.lt_succ_of_lt hinside.length_rest_lt) hrest rfl, hinside.text_eq]
      exact Shape.concat_andThen fun _ => hinside.describes_braces_iff
    · rw [ofTokensFrom_item hitem (.inl rfl)] at h
      rw [ih behind.length hitem.length_lt h rfl]
      exact Shape.concat_andThen fun _ => describes_item_iff hitem

/-- The tree of a text stands for the paths that the text describes. -/
theorem ofTokens?_denotes {text : List Char} {shape : Shape}
    (h : Shape.ofTokens? (tokens text) = some shape) {path : List Char} :
    shape.Denotes path ↔ Describes text path :=
  (denotes_outside h).trans concat_nothing_left

/-! ## 5. Accepted paths -/

/-- An accepted glob accepts the paths that its text describes, among those without a line feed. -/
theorem accepts_iff_describes {text path : String} {g : Glob} (h : ofText? text = .ok g)
    (hpath : '\n' ∉ path.toList) : g.accepts path = true ↔ Describes text.toList path.toList := by
  obtain ⟨shape, hshape, haccepts⟩ := accepts_iff_shape h
  rw [haccepts path hpath, ofTokens?_denotes hshape]

/-- A glob with nested braces, an empty alternative and a comma outside of braces. -/
theorem accepts_iff_describes_nested :
    ∃ g, ofText? "src/**/*.{ts{,x},j?},v" = .ok g ∧ g.accepts "src/web/main.tsx,v" = true ∧
      Describes "src/**/*.{ts{,x},j?},v".toList "src/web/main.tsx,v".toList := by
  have haccepts :
      (ofText? "src/**/*.{ts{,x},j?},v").toOption.any (·.accepts "src/web/main.tsx,v") = true := by
    decide +kernel
  cases h : ofText? "src/**/*.{ts{,x},j?},v" with
  | ok g =>
    rw [h] at haccepts
    exact ⟨g, rfl, haccepts, (accepts_iff_describes h (by decide)).mp haccepts⟩
  | error refusal =>
    rw [h] at haccepts
    cases haccepts

end PrivacyAudit.Glob
