import PrivacyAudit.Proofs.Quoting

/-!
# Reading back what is written

The indented form of a value is read as this very value, as long as the value keeps to what the
reader keeps: numbers in range, and nesting that is not too deep (`read_pretty`). A value is read in
front of any rest with which no number goes on, and items and members are read one by one, so what
is read in front of an object that breaks off is known as well: its text is unfinished
(`read_prettyUpTo`), and it is the beginning of the whole text (`pretty_object`).
-/

namespace PrivacyAudit.Json

/-! ## 1. Values that the reader keeps -/

/-- A number that is read as it is written: within its range, and a fraction with a digit behind the
point. -/
def Number.isKept : Number → Bool
  | .natural n => n ≤ largestNatural
  | .negative n => 0 < n && n ≤ largestNegative
  | .decimal mantissa exponent => exponent < 0 && !outOfRange mantissa.natAbs exponent

/-- A value whose numbers are kept and which is nested no deeper than there is room. -/
def Value.isKept : (room : Nat) → Value → Bool
  | _, .null | _, .bool _ | _, .string _ => true
  | _, .number n => n.isKept
  | 0, .array _ | 0, .object _ => false
  | room + 1, .array items => itemsKept room items
  | room + 1, .object members => membersKept room members
where
  /-- The items of an array. -/
  itemsKept (room : Nat) : List Value → Bool
    | [] => true
    | item :: items => item.isKept room && itemsKept room items
  /-- The members of an object. -/
  membersKept (room : Nat) : List (String × Value) → Bool
    | [] => true
    | (_, value) :: members => value.isKept room && membersKept room members

/-- No number goes on with what stands here. -/
def Ends (rest : Rest) : Prop :=
  ∀ c ∈ rest.head?, c.isDigit = false ∧ c ≠ '.' ∧ c ≠ 'e' ∧ c ≠ 'E'

theorem ends_cons {c : Char} (h : c.isDigit = false ∧ c ≠ '.' ∧ c ≠ 'e' ∧ c ≠ 'E') (rest : Rest) :
    Ends (c :: rest) := by
  intro c' hc'
  obtain rfl := Option.some.inj hc'
  exact h

/-! ## 2. Numbers -/

section Numbers

variable {rest : Rest}

theorem digit?_of_isDigit {c : Char} (h : c.isDigit = true) : digit? c =
    some (c.toNat - '0'.toNat) := if_pos h

theorem digit?_of_not_isDigit {c : Char} (h : c.isDigit = false) : digit? c = none := by
  rw [digit?, h]
  rfl

theorem isDigit_toDigits (n : Nat) : ∀ c ∈ Nat.toDigits 10 n, c.isDigit = true := fun _ hc =>
  Nat.isDigit_of_mem_toDigits (by decide) (by decide) hc

/-- Digits are read up to what is none. -/
theorem readDigits_append {ds : List Char} (hds : ∀ c ∈ ds, c.isDigit = true)
    (hrest : ∀ c ∈ rest.head?, c.isDigit = false) (count value : Nat) :
    readDigits count value (ds ++ rest) = (count + ds.length, Nat.ofDigitChars 10 ds value,
      rest) := by
  induction ds generalizing count value with
  | nil =>
    cases rest with
    | nil => rfl
    | cons c rest =>
      rw [List.nil_append, readDigits, digit?_of_not_isDigit (hrest c rfl)]
      rfl
  | cons c ds ih =>
    obtain ⟨hc, hds⟩ := List.forall_mem_cons.mp hds
    rw [List.cons_append, readDigits, digit?_of_isDigit hc]
    simp only
    rw [ih hds, Nat.ofDigitChars_cons, List.length_cons, Nat.mul_comm value, Nat.add_right_comm,
      Nat.add_assoc count]

theorem readSomeDigits_append {ds : List Char} (hsome : ds ≠ []) (hds : ∀ c ∈ ds, c.isDigit = true)
    (hrest : ∀ c ∈ rest.head?, c.isDigit = false) (value : Nat) :
    readSomeDigits value (ds ++ rest) = .ok (ds.length, Nat.ofDigitChars 10 ds value, rest) := by
  obtain ⟨c, ds, rfl⟩ := List.exists_cons_of_ne_nil hsome
  rw [readSomeDigits, readDigits_append hds hrest, Nat.zero_add]
  rfl

/-- The numeral of a number above zero does not begin with a zero. -/
theorem head?_toDigits_ne {n : Nat} (h : 0 < n) : (Nat.toDigits 10 n).head? ≠ some '0' := by
  induction n using Nat.strongRecOn with
  | ind n ih =>
    by_cases hsmall : n < 10
    · have hfigures : ∀ n < 10, 0 < n → [n.digitChar].head? ≠ some '0' := by decide
      rw [Nat.toDigits_of_lt_base hsmall]
      exact hfigures n hsmall h
    · have hsome : (Nat.toDigits 10 (n / 10)).head?.isSome = true :=
        List.isSome_head?.mpr Nat.toDigits_ne_nil
      rw [Nat.toDigits_of_base_le
        (by decide) (by omega), List.head?_append, Option.or_of_isSome hsome]
      exact ih (n / 10) (by omega) (by omega)

theorem readWhole_toDigits (n : Nat) (hrest : ∀ c ∈ rest.head?, c.isDigit = false) :
    readWhole (Nat.toDigits 10 n ++ rest) = .ok (n, rest) := by
  rcases Nat.eq_zero_or_pos n with rfl | hpos
  · have hnone : rest.head?.any Char.isDigit = false := by
      cases rest with
      | nil => rfl
      | cons c rest => exact hrest c rfl
    rw [Nat.toDigits_zero, List.singleton_append, readWhole, hnone]
    rfl
  · obtain ⟨c, ds, hds⟩ := List.exists_cons_of_ne_nil (@Nat.toDigits_ne_nil n 10)
    have hread := readDigits_append (isDigit_toDigits n) hrest 0 0
    rw [Nat.ofDigitChars_ten_toDigits] at hread
    have hc : c ≠ '0' := by
      intro hzero
      exact head?_toDigits_ne hpos (by rw [hds, hzero, List.head?_cons])
    have hdigit := isDigit_toDigits n c (hds ▸ List.mem_cons_self)
    rw [hds, List.cons_append] at hread ⊢
    rw [readWhole.eq_3 _ _ (fun h => hc h), digit?_of_isDigit hdigit]
    simp only [hread]

theorem readFraction_of_ends (h : Ends rest) (value : Nat) :
    readFraction value rest = .ok (none, value, rest) := by
  unfold readFraction
  split
  · next rest => exact absurd rfl (h '.' rfl).2.1
  · rfl

theorem readExponent_of_ends (h : Ends rest) : readExponent rest = .ok (none, rest) := by
  cases rest with
  | nil => rfl
  | cons c rest =>
    obtain ⟨-, -, hsmall, hlarge⟩ := h c rfl
    rw [readExponent, if_neg (not_or.mpr ⟨hsmall, hlarge⟩)]

/-- Digits in front of the point and behind it. -/
theorem toList_positional (mantissa : Nat) {exponent : Int} (h : exponent < 0) :
    ∃ digits, (Numeral.positional mantissa exponent).toList =
        Nat.toDigits 10 (mantissa / Nat.pow 10 (-exponent).toNat) ++ '.' :: digits ∧
      digits.length = (-exponent).toNat ∧ (∀ c ∈ digits, c.isDigit = true) ∧
      Nat.ofDigitChars 10 digits (mantissa / Nat.pow 10 (-exponent).toNat) = mantissa := by
  generalize hplaces : (-exponent).toNat = places
  have hpos : 0 < places := by omega
  have hshort : (Nat.toDigits 10 (mantissa % Nat.pow 10 places)).length ≤ places :=
    (Nat.length_toDigits_le_iff (by decide) hpos).mpr (Nat.mod_lt _ (Nat.pow_pos (by decide)))
  have hfraction : (mantissa % Nat.pow 10 places).repr.length =
      (Nat.toDigits 10 (mantissa % Nat.pow 10 places)).length := by
    rw [← String.length_toList, Nat.toList_repr]
  refine ⟨List.replicate (places - (Nat.toDigits 10 (mantissa % Nat.pow 10 places)).length) '0' ++
    Nat.toDigits 10 (mantissa % Nat.pow 10 places), ?_, ?_, ?_, ?_⟩
  · rw [Numeral.positional, if_neg (by omega)]
    simp only [hplaces, Nat.toString_eq_repr, hfraction, String.toList_append,
      String.toList_ofList, Nat.toList_repr, List.append_assoc]
    rfl
  · rw [List.length_append, List.length_replicate]
    omega
  · intro c hc
    rcases List.mem_append.mp hc with hzero | hdigit
    · rw [(List.mem_replicate.mp hzero).2]
      rfl
    · exact isDigit_toDigits _ c hdigit
  · rw [Nat.ofDigitChars_append, Nat.ofDigitChars_replicate_zero,
      Nat.ofDigitChars_eq_ofDigitChars_zero,
      Nat.ofDigitChars_ten_toDigits, ← Nat.mul_assoc, ← Nat.pow_add, Nat.add_sub_cancel' hshort]
    exact Nat.div_add_mod mantissa (Nat.pow 10 places)

theorem readNumber_natural {n : Nat} (hrange : n ≤ largestNatural) (hrest : Ends rest) :
    readNumber .keep false (Nat.toDigits 10 n ++ rest) = .ok (.natural n, rest) := by
  simp only [readNumber, readWhole_toDigits n fun c hc => (hrest c hc).1,
    readFraction_of_ends hrest, readExponent_of_ends hrest, bind, Except.bind, Bool.not_false,
    Bool.true_and, decide_eq_true hrange, if_true]
  rfl

theorem readNumber_negative {n : Nat} (hpos : 0 < n) (hrange : n ≤ largestNegative)
    (hrest : Ends rest) :
    readNumber .keep true (Nat.toDigits 10 n ++ rest) = .ok (.negative n, rest) := by
  simp only [readNumber, readWhole_toDigits n fun c hc => (hrest c hc).1,
    readFraction_of_ends hrest, readExponent_of_ends hrest, bind, Except.bind, Bool.not_true,
    Bool.false_and, Bool.false_eq_true,
    if_false, decide_eq_true hpos, decide_eq_true hrange, Bool.and_self, if_true]
  rfl

/-- A fraction is read with as many places as it is written with. -/
theorem readNumber_positional (minus : Bool) {mantissa : Nat} {exponent : Int}
    (hexponent : exponent < 0) (hrange : outOfRange mantissa exponent = false) (hrest : Ends rest) :
    readNumber .keep minus ((Numeral.positional mantissa exponent).toList ++ rest) =
      .ok (.decimal (if minus then -(mantissa : Int) else mantissa) exponent, rest) := by
  obtain ⟨digits, htext, hlength, hdigits, hvalue⟩ := toList_positional mantissa hexponent
  have hsome : digits ≠ [] := by
    intro hnil
    rw [hnil, List.length_nil] at hlength
    omega
  have hpoint : ∀ c ∈ ('.' :: (digits ++ rest)).head?, c.isDigit = false := by
    intro c hc
    obtain rfl := Option.some.inj hc
    rfl
  have hfraction : ∀ value, readFraction value ('.' :: (digits ++ rest)) =
      .ok (some digits.length, Nat.ofDigitChars 10 digits value, rest) := by
    intro value
    simp only [readFraction, readSomeDigits_append hsome hdigits (fun c hc => (hrest c hc).1), bind,
      Except.bind]
    rfl
  have hsame : (0 : Int) - ((-exponent).toNat : Nat) = exponent := by omega
  rw [htext, List.append_assoc, List.cons_append]
  simp only [readNumber, readWhole_toDigits _ hpoint, hfraction, readExponent_of_ends hrest, bind,
    Except.bind, hlength, hvalue, Option.getD_none, Option.getD_some, hsame, hrange,
    Bool.false_eq_true,
    and_false, if_false]
  rfl

end Numbers

/-! ## 3. Blanks -/

section Blanks

variable {rest : Rest}

theorem skip_cons_blank {c : Char} (h : isBlank c = true) (rest : Rest) :
    skip (c :: rest) = skip rest :=
  List.dropWhile_cons_of_pos h

theorem skip_cons_other {c : Char} (h : isBlank c = false) (rest : Rest) :
    skip (c :: rest) = c :: rest :=
  List.dropWhile_cons_of_neg (by rw [h]; exact Bool.false_ne_true)

theorem toList_newLine (level : Nat) :
    (newLine level).toList = '\n' :: List.replicate (2 * level) ' ' := by
  simp only [newLine, String.toList_append, String.toList_ofList]
  rfl

theorem length_newLine (level : Nat) : (newLine level).toList.length = 2 * level + 1 := by
  rw [toList_newLine, List.length_cons, List.length_replicate]

theorem skip_newLine (level : Nat) (rest : Rest) :
    skip ((newLine level).toList ++ rest) = skip rest := by
  have hblank : ∀ c ∈ (newLine level).toList, isBlank c = true := by
    intro c hc
    rw [toList_newLine] at hc
    rcases List.mem_cons.mp hc with rfl | hspace
    · rfl
    · rw [(List.mem_replicate.mp hspace).2]
      rfl
  exact List.dropWhile_append_of_pos hblank

/-- Blanks in front of a value are passed over. -/
theorem readValue_cons_blank {c : Char} (h : isBlank c = true) (fuel depth : Nat) (rest : Rest) :
    readValue .keep fuel depth (c :: rest) = readValue .keep fuel depth rest := by
  cases fuel with
  | zero => rfl
  | succ fuel => rw [readValue, readValue, skip_cons_blank h]

end Blanks

/-! ## 4. Items and members -/

/-- Lines one after the other, each one level deeper than what holds them, and a comma in front of
all but the first. -/
def listed (level : Nat) : (first : Bool) → List String → List Char
  | _, [] => []
  | first, line :: lines =>
    (if first then [] else [',']) ++ (newLine (level + 1)).toList ++ line.toList ++
    listed level false lines

/-- What stands behind the last line: the closing bracket, on a line of its own unless there is
nothing else. -/
def closed (closing : Char) (level : Nat) (empty : Bool) : List Char :=
  (if empty then [] else (newLine level).toList) ++ [closing]

section Lines

variable {level : Nat} {first : Bool}

theorem listed_append (xs ys : List String) :
    listed level first (xs ++ ys) =
      listed level first xs ++ listed level (first && xs.isEmpty) ys := by
  induction xs generalizing first with
  | nil => rw [List.nil_append, listed, List.nil_append, List.isEmpty_nil, Bool.and_true]
  | cons x xs ih =>
    rw [List.cons_append, listed, listed, ih, List.isEmpty_cons, Bool.and_false, Bool.false_and]
    simp only [List.append_assoc]

/-- There are at least as many characters as lines. -/
theorem length_le_length_listed (lines : List String) :
    lines.length ≤ (listed level first lines).length := by
  induction lines generalizing first with
  | nil => exact Nat.le_refl _
  | cons line lines ih =>
    have hrest := @ih false
    rw [listed, List.length_append, List.length_append, List.length_append, toList_newLine,
      List.length_cons, List.length_cons]
    omega

theorem toList_intercalate (level : Nat) {lines : List String} (h : lines ≠ []) :
    (newLine (level + 1)).toList ++ (("," ++ newLine (level + 1)).intercalate lines).toList =
      listed level true lines := by
  obtain ⟨line, lines, rfl⟩ := List.exists_cons_of_ne_nil h
  clear h
  induction lines generalizing line with
  | nil => simp [listed]
  | cons line' lines ih =>
    have hrest := ih line'
    rw [listed, if_pos rfl, List.nil_append, List.append_assoc] at hrest
    have hbehind := List.append_cancel_left hrest
    rw [String.intercalate_cons_cons, listed, listed, if_neg Bool.false_ne_true, if_pos rfl]
    simp only [String.toList_append, List.append_assoc, List.nil_append, hbehind]
    rfl

theorem toList_block (opening closing : String) (level : Nat) (lines : List String) :
    (block opening closing level lines).toList = opening.toList ++ listed level true lines ++
      (if lines.isEmpty then [] else (newLine level).toList) ++ closing.toList := by
  cases lines with
  | nil => simp [block, listed]
  | cons line lines =>
    rw [block, List.isEmpty_cons, if_neg Bool.false_ne_true, if_neg Bool.false_ne_true,
      ← toList_intercalate level (List.cons_ne_nil line lines)]
    simp only [String.toList_append, List.append_assoc]

theorem readSeparator_closed (closing : Char) (hblank : isBlank closing = false) (level : Nat)
    (empty : Bool) (rest : Rest) :
    readSeparator closing empty (closed closing level empty ++ rest) = .ok (none, rest) := by
  have hskip : skip (closed closing level empty ++ rest) = closing :: rest := by
    rw [closed]
    cases empty with
    | true => exact skip_cons_other hblank rest
    | false =>
      rw [if_neg Bool.false_ne_true, List.append_assoc, skip_newLine]
      exact skip_cons_other hblank rest
  simp only [readSeparator, hskip, if_true]

theorem readSeparator_line {c : Char} (closing : Char) (hblank : isBlank c = false)
    (hc : c ≠ closing) (hcomma : closing ≠ ',') (level : Nat) (first : Bool) (rest : Rest) :
    readSeparator closing first
      ((if first then [] else [',']) ++ (newLine (level + 1)).toList ++ c :: rest) =
        .ok (some (c :: rest), rest) := by
  have hskip : skip ((newLine (level + 1)).toList ++ c :: rest) = c :: rest := by
    rw [skip_newLine, skip_cons_other hblank]
  cases first with
  | true => simp [readSeparator, hskip, hc]
  | false =>
    have hfront : skip (',' :: ((newLine (level + 1)).toList ++ c :: rest)) =
        ',' :: ((newLine (level + 1)).toList ++ c :: rest) := skip_cons_other rfl _
    simp [readSeparator, hfront, hskip, hc, hcomma.symm]

end Lines

/-! ## 5. Values -/

section Values

variable {rest : Rest}

theorem isBlank_of_isDigit {c : Char} (h : c.isDigit = true) : isBlank c = false := by
  have hne : ∀ c' : Char, c'.isDigit = false → c ≠ c' := by
    rintro c' hc' rfl
    rw [h] at hc'
    cases hc'
  simp [isBlank, hne ' ' rfl, hne '\n' rfl, hne '\t' rfl, hne '\r' rfl]

/-- What begins with a digit is read as a number. -/
theorem readValue_digit {c : Char} (h : c.isDigit = true) (fuel depth : Nat) :
    readValue .keep (fuel + 1) depth (c :: rest) =
      (readNumber .keep false (c :: rest)).map fun (n, rest) => (.number n, rest) := by
  have hne : ∀ c' : Char, c'.isDigit = false → ∀ rest', c :: rest ≠ c' :: rest' := by
    intro c' hc' rest' heq
    rw [(List.cons.inj heq).1, hc'] at h
    cases h
  rw [readValue, skip_cons_other (isBlank_of_isDigit h)]
  split
  case h_1 heq => cases heq
  case h_9 c' rest' _ _ _ _ _ _ _ heq =>
    obtain ⟨rfl, rfl⟩ := List.cons.inj heq
    rw [if_pos h]
    cases readNumber .keep false (c :: rest) <;> rfl
  all_goals exact absurd ‹_› (hne _ rfl _)

theorem toList_repr_begins (n : Nat) (behind : List Char) :
    ∃ c cs, (toString n).toList ++ behind = c :: cs ∧ c.isDigit = true := by
  obtain ⟨c, cs, hc⟩ := List.exists_cons_of_ne_nil (@Nat.toDigits_ne_nil n 10)
  refine ⟨c, cs ++ behind, ?_, isDigit_toDigits n c (hc ▸ List.mem_cons_self)⟩
  rw [Nat.toString_eq_repr, Nat.toList_repr, hc, List.cons_append]

theorem toList_positional_begins (mantissa : Nat) (exponent : Int) :
    ∃ c cs, (Numeral.positional mantissa exponent).toList = c :: cs ∧ c.isDigit = true := by
  unfold Numeral.positional
  split
  · rw [String.toList_append]
    exact toList_repr_begins _ _
  · simp only [String.toList_append, List.append_assoc]
    exact toList_repr_begins _ _

theorem toList_minus (text : String) : ("-" ++ text).toList = '-' :: text.toList := by
  rw [String.toList_append]
  rfl

/-- A number begins with a digit or a minus sign. -/
theorem Number.toList_write_begins (n : Number) :
    ∃ c cs, n.write.toList = c :: cs ∧ (c.isDigit = true ∨ c = '-') := by
  cases n with
  | natural n =>
    obtain ⟨c, cs, hc, hdigit⟩ := toList_repr_begins n []
    exact ⟨c, cs, by rwa [List.append_nil] at hc, .inl hdigit⟩
  | negative n => exact ⟨'-', _, toList_minus _, .inr rfl⟩
  | decimal mantissa exponent =>
    by_cases hminus : mantissa < 0
    · exact ⟨'-', _, by rw [write, if_pos hminus, toList_minus], .inr rfl⟩
    · obtain ⟨c, cs, hc, hdigit⟩ := toList_positional_begins mantissa.natAbs exponent
      exact ⟨c, cs, by rwa [write, if_neg hminus, String.empty_append], .inl hdigit⟩

/-- A value begins with no blank and no closing bracket. -/
theorem Value.toList_indented_begins (v : Value) (level : Nat) :
    ∃ c cs, (v.indented level).toList = c :: cs ∧ isBlank c = false ∧ c ≠ ']' := by
  cases v with
  | null => exact ⟨'n', ['u', 'l', 'l'], by simp [indented, compact], rfl, by decide⟩
  | bool b =>
    cases b with
    | false => exact ⟨'f', ['a', 'l', 's', 'e'], by simp [indented, compact], rfl, by decide⟩
    | true => exact ⟨'t', ['r', 'u', 'e'], by simp [indented, compact], rfl, by decide⟩
  | number n =>
    have htext : indented level (.number n) = n.write := by simp [indented, compact]
    obtain ⟨c, cs, hc, hdigit | rfl⟩ := n.toList_write_begins
    · refine ⟨c, cs, htext ▸ hc, isBlank_of_isDigit hdigit, ?_⟩
      rintro rfl
      exact absurd hdigit (by decide)
    · exact ⟨'-', cs, htext ▸ hc, rfl, by decide⟩
  | string s =>
    have htext : indented level (.string s) = quote s := by simp [indented, compact]
    exact ⟨'"', _, htext ▸ toList_quote s, rfl, by decide⟩
  | array items => exact ⟨'[', _, (toList_block "[" "]" level _).trans rfl, rfl, by decide⟩
  | object members => exact ⟨'{', _, (toList_block "\x7b" "\x7d" level _).trans rfl, rfl, by decide⟩

/-- A number is read back. -/
theorem readValue_number {n : Number} (hkept : n.isKept = true) (fuel depth : Nat)
    (hrest : Ends rest) :
    readValue .keep (fuel + 1) depth (n.write.toList ++ rest) = .ok (.number n, rest) := by
  have hminus : ∀ rest, readValue .keep (fuel + 1) depth ('-' :: rest) =
      (readNumber .keep true rest).map fun (n, rest) => (.number n, rest) := by
    intro rest
    simp only [readValue, skip_cons_other (rfl : isBlank '-' = false)]
    cases readNumber .keep true rest <;> rfl
  have hdigit : ∀ text : String, (∃ c cs, text.toList = c :: cs ∧ c.isDigit = true) →
      readValue .keep (fuel + 1) depth (text.toList ++ rest) =
        (readNumber .keep false (text.toList ++ rest)).map fun (n, rest) => (.number n, rest) := by
    intro text h
    obtain ⟨c, cs, htext, hc⟩ := h
    rw [htext, List.cons_append, readValue_digit hc]
  cases n with
  | natural n =>
    have htext : (Number.natural n).write.toList = Nat.toDigits 10 n := Nat.toList_repr
    obtain ⟨c, cs, hc, hbegins⟩ := toList_repr_begins n []
    rw [hdigit _ ⟨c, cs, by rwa [List.append_nil] at hc, hbegins⟩, htext,
      readNumber_natural (of_decide_eq_true hkept) hrest]
    rfl
  | negative n =>
    obtain ⟨hpos, hrange⟩ := Bool.and_eq_true_iff.mp hkept
    have htext : (Number.negative n).write.toList = '-' :: Nat.toDigits 10 n := by
      rw [Number.write, toList_minus, Nat.toString_eq_repr, Nat.toList_repr]
    rw [htext, List.cons_append, hminus,
      readNumber_negative (of_decide_eq_true hpos) (of_decide_eq_true hrange) hrest]
    rfl
  | decimal mantissa exponent =>
    obtain ⟨hexponent, hkept⟩ := Bool.and_eq_true_iff.mp hkept
    have hrange : outOfRange mantissa.natAbs exponent = false := by simpa using hkept
    have hread := fun minus =>
      readNumber_positional minus (of_decide_eq_true hexponent) hrange hrest
    by_cases hless : mantissa < 0
    · have hvalue : -(mantissa.natAbs : Int) = mantissa := by omega
      rw [Number.write, if_pos hless, toList_minus, List.cons_append, hminus, hread,
        if_pos rfl, hvalue]
      rfl
    · have hvalue : (mantissa.natAbs : Int) = mantissa := by omega
      rw [Number.write, if_neg hless, String.empty_append, hdigit _ (toList_positional_begins _ _),
        hread, if_neg Bool.false_ne_true, hvalue]
      rfl

/-- Behind lines stands what ends a number, if it does behind the last of them. -/
theorem ends_listed (level : Nat) (lines : List String) (hrest : Ends rest) :
    Ends (listed level false lines ++ rest) := by
  cases lines with
  | nil => exact hrest
  | cons line lines => exact ends_cons (by decide) _

theorem ends_closed {closing : Char} (hclosing : Ends [closing]) (level : Nat) (empty : Bool)
    (rest : Rest) : Ends (closed closing level empty ++ rest) := by
  cases empty with
  | true => exact ends_cons (hclosing closing rfl) rest
  | false =>
    rw [closed, if_neg Bool.false_ne_true, toList_newLine]
    exact ends_cons (by decide) _

theorem indentedItems_eq (level : Nat) (items : List Value) :
    Value.indented.indentedItems level items = items.map (·.indented level) := by
  induction items with
  | nil => rfl
  | cons item items ih => rw [Value.indented.indentedItems, ih, List.map_cons]

theorem indentedMembers_eq (level : Nat) (members : List (String × Value)) :
    Value.indented.indentedMembers level members =
      members.map fun (name, value) => quote name ++ ": " ++ value.indented level := by
  induction members with
  | nil => rfl
  | cons m members ih =>
    obtain ⟨name, value⟩ := m
    rw [Value.indented.indentedMembers, ih, List.map_cons]

theorem length_le_length_items (level : Nat) (first : Bool) (items : List Value) :
    items.length ≤
    (listed level first (Value.indented.indentedItems (level + 1) items)).length := by
  have hcount :=
    @length_le_length_listed level first (Value.indented.indentedItems (level + 1) items)
  rwa [indentedItems_eq, List.length_map, ← indentedItems_eq] at hcount

theorem length_le_length_members (level : Nat) (first : Bool) (members : List (String × Value)) :
    members.length ≤
    (listed level first (Value.indented.indentedMembers (level + 1) members)).length := by
  have hcount :=
    @length_le_length_listed level first (Value.indented.indentedMembers (level + 1) members)
  rwa [indentedMembers_eq, List.length_map, ← indentedMembers_eq] at hcount

theorem toList_array (level : Nat) (items : List Value) :
    ((Value.array items).indented level).toList =
      '[' :: (listed level true (Value.indented.indentedItems (level + 1) items) ++
        closed ']' level items.isEmpty) := by
  rw [Value.indented, toList_block, closed, List.append_assoc, List.append_assoc, indentedItems_eq,
    List.isEmpty_map]
  rfl

theorem toList_object (level : Nat) (members : List (String × Value)) :
    ((Value.object members).indented level).toList =
      '{' :: (listed level true (Value.indented.indentedMembers (level + 1) members) ++
        closed '}' level members.isEmpty) := by
  rw [Value.indented, toList_block, closed, List.append_assoc, List.append_assoc,
    indentedMembers_eq, List.isEmpty_map]
  rfl

theorem toList_member (name text : String) :
    (quote name ++ ": " ++ text).toList =
      '"' :: (escaped name ++ '"' :: ':' :: ' ' :: text.toList) := by
  simp only [String.toList_append, toList_quote, List.cons_append, List.append_assoc]
  rfl

theorem readItems_closed (fuel depth level : Nat) (empty : Bool) (rest : Rest) :
    readItems .keep (fuel + 1) depth empty (closed ']' level empty ++ rest) = .ok ([], rest) := by
  simp only [readItems, readSeparator_closed ']' rfl, bind, Except.bind]
  rfl

theorem readMembers_closed (fuel depth level : Nat) (empty : Bool) (rest : Rest) :
    readMembers .keep (fuel + 1) depth empty (closed '}' level empty ++ rest) = .ok ([], rest) := by
  simp only [readMembers, readSeparator_closed '}' rfl, bind, Except.bind]
  rfl

/-- The name of a member is read, and then the value. -/
theorem readMembers_member (fuel depth level : Nat) (first : Bool) (name : String) (rest : Rest) :
    readMembers .keep (fuel + 1) depth first
      ((if first then [] else [',']) ++ (newLine (level + 1)).toList ++
        '"' :: (escaped name ++ '"' :: ':' :: ' ' :: rest)) =
      (readValue .keep fuel depth rest).bind fun (value, rest) =>
        (readMembers .keep fuel depth false rest).map fun (members, rest) =>
          ((name, value) :: members, rest) := by
  simp only [readMembers, readSeparator_line (c := '"') '}' rfl (by decide) (by decide), bind,
    Except.bind, readString_escaped, readColon, skip_cons_other (c := ':') rfl,
    readValue_cons_blank (c := ' ') rfl]
  cases readValue .keep fuel depth rest with
  | error fault => rfl
  | ok read => cases readMembers .keep fuel depth false read.2 <;> rfl

mutual

/-- **A value is read back** in front of whatever ends a number. -/
theorem readValue_indented : ∀ (v : Value) (room level depth fuel : Nat) {rest : Rest},
    v.isKept room = true → depth + room ≤ nestingLimit → (v.indented level).toList.length < fuel →
      Ends rest → readValue .keep fuel depth ((v.indented level).toList ++ rest) = .ok (v, rest)
  | .null, _, level, _, _ + 1, _, _, _, _, _ => by
    have htext : (Value.null.indented level).toList = ['n', 'u', 'l', 'l'] := by
      simp [Value.indented, Value.compact]
    rw [htext]
    rfl
  | .bool b, _, level, _, _ + 1, _, _, _, _, _ => by
    cases b with
    | false =>
      have htext : ((Value.bool false).indented level).toList = ['f', 'a', 'l', 's', 'e'] := by
        simp [Value.indented, Value.compact]
      rw [htext]
      rfl
    | true =>
      have htext : ((Value.bool true).indented level).toList = ['t', 'r', 'u', 'e'] := by
        simp [Value.indented, Value.compact]
      rw [htext]
      rfl
  | .number n, _, level, _, _ + 1, _, hkept, _, _, hrest => by
    have htext : (Value.number n).indented level = n.write := by
      simp [Value.indented, Value.compact]
    rw [htext]
    exact readValue_number (by simpa [Value.isKept] using hkept) _ _ hrest
  | .string s, _, level, _, _ + 1, rest, _, _, _, _ => by
    have htext : ((Value.string s).indented level).toList = '"' :: (escaped s ++ ['"']) := by
      simp [Value.indented, Value.compact, toList_quote]
    rw [htext, List.cons_append, List.append_assoc, List.singleton_append]
    simp only [readValue, skip_cons_other (c := '"') rfl, readString_escaped, bind, Except.bind]
    rfl
  | .array items, room + 1, level, depth, fuel + 1, rest, hkept, hdepth, hfuel, hrest => by
    have hcount := length_le_length_items level true items
    have hroom : ¬ depth ≥ nestingLimit := by omega
    rw [toList_array] at hfuel ⊢
    rw [List.length_cons, List.length_append] at hfuel
    have hends : Ends (closed ']' level items.isEmpty ++ rest) :=
      ends_closed (ends_cons (by decide) []) level items.isEmpty rest
    have hitems :=
      readItems_listed items room level (depth + 1) fuel true hkept (by omega) (by omega) hends
    obtain ⟨spare, hspare⟩ := Nat.exists_eq_add_of_lt (show items.length < fuel by omega)
    rw [hspare, Nat.add_assoc, Nat.add_sub_cancel_left, Bool.true_and, readItems_closed,
      ← Nat.add_assoc, ← hspare] at hitems
    simp only [List.cons_append, List.append_assoc, readValue, skip_cons_other (c := '[') rfl,
      hroom, and_false, if_false, hitems, Except.map, bind, Except.bind, List.append_nil]
    rfl
  | .object members, room + 1, level, depth, fuel + 1, rest, hkept, hdepth, hfuel, hrest => by
    have hcount := length_le_length_members level true members
    have hroom : ¬ depth ≥ nestingLimit := by omega
    rw [toList_object] at hfuel ⊢
    rw [List.length_cons, List.length_append] at hfuel
    have hends : Ends (closed '}' level members.isEmpty ++ rest) :=
      ends_closed (ends_cons (by decide) []) level members.isEmpty rest
    have hmembers :=
      readMembers_listed members room level (depth + 1) fuel true hkept (by omega) (by omega) hends
    obtain ⟨spare, hspare⟩ := Nat.exists_eq_add_of_lt (show members.length < fuel by omega)
    rw [hspare, Nat.add_assoc, Nat.add_sub_cancel_left, Bool.true_and, readMembers_closed,
      ← Nat.add_assoc, ← hspare] at hmembers
    simp only [List.cons_append, List.append_assoc, readValue, skip_cons_other (c := '{') rfl,
      hroom, and_false, if_false, hmembers, Except.map, bind, Except.bind, List.append_nil]
    rfl

/-- Items are read one by one, and the reader goes on behind them. -/
theorem readItems_listed :
    ∀ (items : List Value) (room level depth fuel : Nat) (first : Bool) {rest : Rest},
    Value.isKept.itemsKept room items = true → depth + room ≤ nestingLimit →
      (listed level first (Value.indented.indentedItems (level + 1) items)).length < fuel →
      Ends rest → readItems .keep fuel depth first
        (listed level first (Value.indented.indentedItems (level + 1) items) ++ rest) =
      (readItems .keep (fuel - items.length) depth (first && items.isEmpty) rest).map
        fun (more, rest) => (items ++ more, rest)
  | [], _, _, depth, fuel, first, rest, _, _, _, _ => by
    rw [List.isEmpty_nil, Bool.and_true]
    show readItems .keep fuel depth first rest = (readItems .keep fuel depth first rest).map _
    cases readItems .keep fuel depth first rest <;> rfl
  | item :: items, room, level, depth, fuel + 1, first, rest, hkept, hdepth, hfuel, hrest => by
    obtain ⟨hitem, hkept⟩ := Bool.and_eq_true_iff.mp hkept
    obtain ⟨c, cs, hc, hblank, hbracket⟩ := item.toList_indented_begins (level + 1)
    rw [Value.indented.indentedItems, listed] at hfuel ⊢
    simp only [List.length_append, length_newLine] at hfuel
    have hends := ends_listed level (Value.indented.indentedItems (level + 1) items) hrest
    have hvalue := readValue_indented item room (level + 1) depth fuel hitem hdepth (by omega) hends
    have hitems := readItems_listed items room level depth fuel false hkept hdepth (by omega) hrest
    rw [hc, List.cons_append] at hvalue
    rw [hc, List.append_assoc, List.append_assoc, List.cons_append]
    simp only [readItems, readSeparator_line ']' hblank hbracket (by decide), hvalue, hitems,
      bind, Except.bind, Bool.false_and, List.isEmpty_cons, Bool.and_false, List.length_cons,
      Nat.add_sub_add_right]
    cases readItems .keep (fuel - items.length) depth false rest <;> rfl

/-- Members are read one by one, and the reader goes on behind them. -/
theorem readMembers_listed :
    ∀ (members : List (String × Value)) (room level depth fuel : Nat) (first : Bool)
    {rest : Rest}, Value.isKept.membersKept room members = true → depth + room ≤ nestingLimit →
      (listed level first (Value.indented.indentedMembers (level + 1) members)).length < fuel →
      Ends rest → readMembers .keep fuel depth first
        (listed level first (Value.indented.indentedMembers (level + 1) members) ++ rest) =
      (readMembers .keep (fuel - members.length) depth (first && members.isEmpty) rest).map
        fun (more, rest) => (members ++ more, rest)
  | [], _, _, depth, fuel, first, rest, _, _, _, _ => by
    rw [List.isEmpty_nil, Bool.and_true]
    show readMembers .keep fuel depth first rest = (readMembers .keep fuel depth first rest).map _
    cases readMembers .keep fuel depth first rest <;> rfl
  | (name, value) :: members, room, level, depth, fuel + 1, first, rest, hkept, hdepth, hfuel,
      hrest => by
    obtain ⟨hvalue, hkept⟩ := Bool.and_eq_true_iff.mp hkept
    have htext : listed level first
        (Value.indented.indentedMembers (level + 1) ((name, value) :: members)) ++
        rest = (if first then [] else [',']) ++ (newLine (level + 1)).toList ++ '"' ::
        (escaped name ++ '"' :: ':' :: ' ' :: ((value.indented (level + 1)).toList ++
            (listed level false (Value.indented.indentedMembers (level + 1) members) ++
              rest))) := by
      rw [Value.indented.indentedMembers, listed, toList_member]
      simp only [List.append_assoc, List.cons_append]
    rw [Value.indented.indentedMembers, listed, toList_member] at hfuel
    simp only [List.length_append, List.length_cons, length_newLine] at hfuel
    have hends := ends_listed level (Value.indented.indentedMembers (level + 1) members) hrest
    have hread :=
      readValue_indented value room (level + 1) depth fuel hvalue hdepth (by omega) hends
    have hmembers :=
      readMembers_listed members room level depth fuel false hkept hdepth (by omega) hrest
    rw [htext, readMembers_member, hread]
    simp only [Except.bind, hmembers, Bool.false_and, List.isEmpty_cons, Bool.and_false,
      List.length_cons, Nat.add_sub_add_right]
    cases readMembers .keep (fuel - members.length) depth false rest <;> rfl

end

end Values

/-! ## 6. Texts -/

/-- **What is written is read back**, if it keeps to what the reader keeps; blanks may stand behind
it. -/
theorem read_pretty {v : Value} (hkept : v.isKept nestingLimit = true) {blanks : List Char}
    (hblanks : ∀ c ∈ blanks, isBlank c = true) :
    Value.read (v.pretty.toList ++ blanks) = .ok v := by
  have hends : Ends blanks := by
    intro c hc
    have hblank := hblanks c (List.mem_of_mem_head? hc)
    simp only [isBlank, Bool.or_eq_true, beq_iff_eq] at hblank
    rcases hblank with ((rfl | rfl) | rfl) | rfl
    all_goals decide
  have hskip : skip blanks = [] := by
    have hnone : skip (blanks ++ []) = skip [] := List.dropWhile_append_of_pos hblanks
    rwa [List.append_nil] at hnone
  have hfuel : (v.indented 0).toList.length < fuelFor (v.pretty.toList ++ blanks) := by
    rw [fuelFor, List.length_append, Value.pretty]
    omega
  have hread :=
    readValue_indented v nestingLimit 0 0 _ hkept (Nat.le_of_eq (Nat.zero_add _)) hfuel hends
  rw [← Value.pretty] at hread
  rw [Value.read, hread]
  simp only [readEnd, hskip, bind, Except.bind]
  rfl

section Objects

variable (before : List (String × Value)) (name : String)

theorem toList_prettyUpTo :
    (prettyUpTo before name).toList =
      '{' :: (listed 0 true (Value.indented.indentedMembers 1 before) ++
      ((if before.isEmpty then [] else [',']) ++ (newLine 1).toList ++
        '"' :: (escaped name ++ '"' :: ':' :: ' ' :: []))) := by
  have hname : (quote name ++ ": ").toList = '"' :: (escaped name ++ '"' :: ':' :: ' ' :: []) := by
    simp only [String.toList_append, toList_quote, List.cons_append, List.append_assoc]
    rfl
  have hlines : (newLine 1).toList ++ (("," ++ newLine 1).intercalate
      (Value.indented.indentedMembers 1 before ++ [quote name ++ ": "])).toList = _ :=
    toList_intercalate 0 (List.concat_ne_nil _ _)
  rw [listed_append, listed, listed, hname, indentedMembers_eq, List.isEmpty_map,
    ← indentedMembers_eq, Bool.true_and, List.append_nil] at hlines
  rw [prettyUpTo, String.toList_append, String.toList_append, List.append_assoc, hlines]
  rfl

/-- **The text of an object begins with what is written of it up to one of its values.** -/
theorem pretty_object (value : Value) (behind : List (String × Value)) : ∃ rest,
    (Value.object (before ++ (name, value) :: behind)).pretty =
      prettyUpTo before name ++ value.indented 1 ++ rest := by
  refine ⟨String.ofList (listed 0 false (Value.indented.indentedMembers 1 behind) ++
    closed '}' 0 false), ?_⟩
  have hempty : (before ++ (name, value) :: behind).isEmpty = false := by simp
  have hcolon : ": ".toList = [':', ' '] := rfl
  rw [← String.toList_inj, Value.pretty, toList_object, hempty]
  simp only [String.toList_append, String.toList_ofList, toList_prettyUpTo, indentedMembers_eq,
    List.map_append, List.map_cons, listed_append, listed, List.isEmpty_map, toList_quote, hcolon,
    Bool.true_and, List.append_assoc, List.cons_append, List.nil_append]

/-- **An object that is written only up to the value of a member is unfinished.** -/
theorem read_prettyUpTo (hkept : Value.isKept.membersKept (nestingLimit - 1) before = true) :
    Value.read (prettyUpTo before name).toList = .error .unfinished := by
  have hcount : before.length ≤ (listed 0 true (Value.indented.indentedMembers 1 before)).length :=
    length_le_length_members 0 true before
  have hends : Ends ((if before.isEmpty then [] else [',']) ++ (newLine 1).toList ++
      '"' :: (escaped name ++ '"' :: ':' :: ' ' :: [])) := by
    rw [toList_newLine]
    cases before with
    | nil => exact ends_cons (by decide) _
    | cons m before => exact ends_cons (by decide) _
  have hfuel : (listed 0 true (Value.indented.indentedMembers 1 before)).length <
      2 * (prettyUpTo before name).toList.length + 1 := by
    rw [toList_prettyUpTo, List.length_cons, List.length_append]
    omega
  have hmembers := readMembers_listed before _ 0 1 _ true hkept (by decide) hfuel hends
  obtain ⟨spare, hspare⟩ : ∃ spare,
      2 * (prettyUpTo before name).toList.length + 1 - before.length = spare + 2 := by
    refine ⟨2 * (prettyUpTo before name).toList.length + 1 - before.length - 2, ?_⟩
    rw [toList_prettyUpTo, List.length_cons, List.length_append]
    omega
  rw [hspare, Bool.true_and, readMembers_member] at hmembers
  have hroom : ¬ 0 ≥ nestingLimit := by decide
  have hread : readValue .keep (fuelFor (prettyUpTo before name).toList) 0
      (prettyUpTo before name).toList = .error .unfinished := by
    rw [fuelFor]
    generalize 2 * (prettyUpTo before name).toList.length = fuel at *
    rw [toList_prettyUpTo]
    simp only [readValue, skip_cons_other (c := '{') rfl, hroom, and_false, if_false, hmembers]
    rfl
  rw [Value.read, hread]
  rfl

end Objects

end PrivacyAudit.Json
