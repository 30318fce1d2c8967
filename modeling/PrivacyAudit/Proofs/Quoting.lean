import PrivacyAudit.Json.Reader
import PrivacyAudit.Json.Writer

/-!
# Quoted texts

What the writer puts between quotes is what the reader takes out again, whatever the text holds and
whatever stands behind it (`readString_escaped`). So a quoted text ends by itself: two texts that
begin with quoted texts are equal only if these are, and what is left behind them (`escaped_inj`).
The same holds of a list of quoted texts in brackets (`items_inj`).
-/

namespace PrivacyAudit.Json

/-! ## 1. Reading back -/

/-- The characters of a text as they are written between quotes. -/
def escaped (s : String) : List Char := s.toList.flatMap escapeChar

theorem toList_quote (s : String) : (quote s).toList = '"' :: escaped s ++ ['"'] :=
  String.toList_ofList

theorem hexDigit?_hexChar : ∀ n < 16, hexDigit? (hexChar n) = some n := by decide

/-- Every character takes a byte at least. -/
theorem hasBytes_of_le_length {rest : Rest} {n : Nat} (h : n ≤ rest.length) :
    hasBytes rest n = true := by
  induction rest generalizing n with
  | nil =>
    obtain rfl : n = 0 := Nat.le_zero.mp h
    rfl
  | cons c rest ih =>
    have hsize : 0 < c.utf8Size := Char.utf8Size_pos c
    have hrest : n - c.utf8Size ≤ rest.length := by
      rw [List.length_cons] at h
      omega
    rw [hasBytes, ih hrest, Bool.or_true]

/-- A control character is read back from its number. -/
theorem readEscape_number {high low : Nat} (hhigh : high < 2) (hlow : low < 16) (rest : Rest) :
    readEscape .keep ('u' :: '0' :: '0' :: hexChar high :: hexChar low :: rest) =
      .ok (Char.ofNat (high * 16 + low), rest) := by
  have hbytes : hasBytes ('0' :: '0' :: hexChar high :: hexChar low :: rest) 4 = true :=
    hasBytes_of_le_length (by simp)
  have hunit : ((0 * 16 + 0) * 16 + high) * 16 + low = high * 16 + low := by omega
  have hzero : hexDigit? '0' = some 0 := by decide
  have hread : readHex4 ('0' :: '0' :: hexChar high :: hexChar low :: rest) =
      .ok (high * 16 + low, rest) := by
    simp only [readHex4, hbytes, hzero,
      hexDigit?_hexChar high (by omega), hexDigit?_hexChar low hlow, hunit,
      Bool.not_true, Bool.false_eq_true, if_false]
  have hsmall : high * 16 + low < 0xD800 := by omega
  simp only [readEscape, readUnit, hread, bind, Except.bind, hsmall, true_or, or_true, if_true]
  rfl

/-- A character is written behind a backslash so that it is read back, without any brace; or it is
written as it is, and then it is no quote, no backslash and no control character. -/
theorem escapeChar_cases (c : Char) :
    (∃ code, escapeChar c = '\\' :: code ∧ '{' ∉ code ∧
      ∀ rest, readEscape .keep (code ++ rest) = .ok (c, rest)) ∨
      (escapeChar c = [c] ∧ c ≠ '"' ∧ c ≠ '\\' ∧ 0x20 ≤ c.toNat) := by
  by_cases hletter : c ∈ ['"', '\\', '\x08', '\x0C', '\n', '\r', '\t']
  · left
    simp only [List.mem_cons, List.not_mem_nil, or_false] at hletter
    rcases hletter with rfl | rfl | rfl | rfl | rfl | rfl | rfl
    all_goals exact ⟨_, rfl, by decide, fun rest => rfl⟩
  · simp only [List.mem_cons, List.not_mem_nil, or_false, not_or] at hletter
    obtain ⟨hquote, hbackslash, hbackspace, hfeed, hline, hreturn, htab⟩ := hletter
    have height : c.toNat ≠ 8 := fun h => hbackspace (Char.toNat_inj.mp h)
    have htwelve : c.toNat ≠ 12 := fun h => hfeed (Char.toNat_inj.mp h)
    simp only [escapeChar, hquote, hbackslash, height, htwelve, hline, hreturn, htab, if_false]
    by_cases hcontrol : c.toNat < 0x20
    · left
      rw [if_pos hcontrol]
      have hbrace : ∀ n < 16, '{' ≠ hexChar n := by decide
      refine ⟨_, rfl, ?_, fun rest => ?_⟩
      · simp [hbrace (c.toNat / 16) (by omega), hbrace (c.toNat % 16) (by omega)]
      have hnumber : c.toNat / 16 * 16 + c.toNat % 16 = c.toNat := by omega
      have hread := @readEscape_number (c.toNat / 16) (c.toNat % 16) (by omega) (by omega) rest
      rwa [hnumber, Char.ofNat_toNat] at hread
    · right
      rw [if_neg hcontrol]
      exact ⟨rfl, hquote, hbackslash, Nat.le_of_not_lt hcontrol⟩

/-- A character that was written is read back. -/
theorem readStringFrom_escapeChar (fuel : Nat) (read : List Char) (c : Char) (rest : Rest) :
    readStringFrom .keep (fuel + 1) read (escapeChar c ++ rest) =
      readStringFrom .keep fuel (c :: read) rest := by
  rcases escapeChar_cases c with ⟨code, hcode, -, hread⟩ | ⟨hplain, hquote, hbackslash, hlarge⟩
  · rw [hcode, List.cons_append, readStringFrom, if_neg (by decide), if_pos rfl, hread]
  · rw [hplain, List.singleton_append, readStringFrom, if_neg hquote, if_neg hbackslash,
      if_neg (Nat.not_lt.mpr hlarge)]

theorem readStringFrom_escaped {chars read : List Char} {fuel : Nat} (hfuel : chars.length < fuel)
    (rest : Rest) :
    readStringFrom .keep fuel read (chars.flatMap escapeChar ++ '"' :: rest) =
      .ok (String.ofList (read.reverse ++ chars), rest) := by
  induction chars generalizing fuel read with
  | nil =>
    obtain ⟨fuel, rfl⟩ := Nat.exists_eq_add_one.mpr hfuel
    rw [List.flatMap_nil, List.nil_append, List.append_nil]
    rfl
  | cons c chars ih =>
    obtain ⟨fuel, rfl⟩ := Nat.exists_eq_add_one.mpr (Nat.zero_lt_of_lt hfuel)
    rw [List.flatMap_cons, List.append_assoc, readStringFrom_escapeChar,
      ih (Nat.lt_of_succ_lt_succ hfuel), List.reverse_cons, List.append_assoc,
      List.singleton_append]

theorem length_le_length_escaped (chars : List Char) :
    chars.length ≤ (chars.flatMap escapeChar).length := by
  induction chars with
  | nil => exact Nat.le_refl _
  | cons c chars ih =>
    have hsome : 0 < (escapeChar c).length := by
      rcases escapeChar_cases c with ⟨code, hcode, -⟩ | ⟨hplain, -⟩
      · rw [hcode]
        exact Nat.zero_lt_succ _
      · rw [hplain]
        exact Nat.zero_lt_succ _
    rw [List.flatMap_cons, List.length_append, List.length_cons]
    omega

/-- **What is written between quotes is read back**, in front of any rest. -/
theorem readString_escaped (s : String) (rest : Rest) :
    readString .keep (escaped s ++ '"' :: rest) = .ok (s, rest) := by
  have hlength := length_le_length_escaped s.toList
  have hfuel : s.toList.length < (escaped s ++ '"' :: rest).length + 1 := by
    rw [List.length_append, escaped]
    omega
  have hread := @readStringFrom_escaped s.toList [] _ hfuel rest
  rwa [List.reverse_nil, List.nil_append, String.ofList_toList] at hread

/-! ## 2. Written forms that end by themselves -/

/-- Behind quoted texts that begin alike nothing differs. -/
theorem escaped_inj {s s' : String} {rest rest' : List Char}
    (h : escaped s ++ '"' :: rest = escaped s' ++ '"' :: rest') : s = s' ∧ rest = rest' := by
  have hread := readString_escaped s rest
  rw [h, readString_escaped] at hread
  obtain ⟨hs, hrest⟩ := Prod.mk.inj (Except.ok.inj hread)
  exact ⟨hs.symm, hrest.symm⟩

/-- Further items of a list of texts, and the bracket that closes it. -/
def furtherItems : List String → List Char
  | [] => [']']
  | s :: ss => ',' :: '"' :: escaped s ++ '"' :: furtherItems ss

/-- The items of a list of texts, and the bracket that closes it. -/
def items : List String → List Char
  | [] => [']']
  | s :: ss => '"' :: escaped s ++ '"' :: furtherItems ss

theorem furtherItems_inj {ss ss' : List String} {rest rest' : List Char}
    (h : furtherItems ss ++ rest = furtherItems ss' ++ rest') : ss = ss' ∧ rest = rest' := by
  induction ss generalizing ss' with
  | nil =>
    cases ss' with
    | nil => exact ⟨rfl, List.append_cancel_left h⟩
    | cons s' ss' => exact absurd (List.head_eq_of_cons_eq h) (by decide)
  | cons s ss ih =>
    cases ss' with
    | nil => exact absurd (List.head_eq_of_cons_eq h) (by decide)
    | cons s' ss' =>
      simp only [furtherItems, List.cons_append, List.append_assoc, List.cons.injEq, true_and] at h
      obtain ⟨rfl, hbehind⟩ := escaped_inj h
      obtain ⟨rfl, hrest⟩ := ih hbehind
      exact ⟨rfl, hrest⟩

/-- **A list of texts ends by itself**: what is written of it cannot be taken for another list,
whatever stands behind it. -/
theorem items_inj {ss ss' : List String} {rest rest' : List Char}
    (h : items ss ++ rest = items ss' ++ rest') : ss = ss' ∧ rest = rest' := by
  cases ss with
  | nil =>
    cases ss' with
    | nil => exact ⟨rfl, List.append_cancel_left h⟩
    | cons s' ss' => exact absurd (List.head_eq_of_cons_eq h) (by decide)
  | cons s ss =>
    cases ss' with
    | nil => exact absurd (List.head_eq_of_cons_eq h) (by decide)
    | cons s' ss' =>
      -- A comma in front turns first items into further ones.
      exact @furtherItems_inj (s :: ss) (s' :: ss') _ _ (congrArg (',' :: ·) h)

theorem toList_intercalate_quote (s : String) (ss : List String) :
    (",".intercalate ((s :: ss).map quote)).toList ++ [']'] =
      '"' :: escaped s ++ '"' :: furtherItems ss := by
  induction ss generalizing s with
  | nil =>
    rw [List.map_singleton, String.intercalate_singleton, toList_quote, List.append_assoc]
    rfl
  | cons s' ss ih =>
    have hrest := ih s'
    rw [List.map_cons, List.map_cons, String.intercalate_cons_cons, ← List.map_cons,
      String.toList_append, String.toList_append, toList_quote, List.append_assoc, hrest]
    simp [furtherItems]

/-- A list of texts in the compact form. -/
theorem toList_compact_strings (ss : List String) :
    (Value.strings ss).compact.toList = '[' :: items ss := by
  have hitems : Value.compact.compactItems (ss.map Value.string) = ss.map quote := by
    induction ss with
    | nil => rfl
    | cons s ss ih =>
      rw [List.map_cons, Value.compact.compactItems, ih]
      rfl
  have hbracket : ("[" ++ ",".intercalate (ss.map quote) ++ "]").toList =
      '[' :: ((",".intercalate (ss.map quote)).toList ++ [']']) := by
    simp
  rw [Value.strings, Value.compact, hitems, hbracket]
  cases ss with
  | nil => rfl
  | cons s ss =>
    rw [toList_intercalate_quote]
    rfl

end PrivacyAudit.Json
