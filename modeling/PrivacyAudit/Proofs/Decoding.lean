import PrivacyAudit.Text.Utf8

/-!
# Decoding what was encoded

`decode?` reads exactly the byte sequences that `encode` writes (`decode?_eq_some_iff`).
`decodeLossy` reads any sequence, and those that are UTF-8 without a loss (`decodeLossy_encode`):
its decoder is between two characters again behind the bytes of each character, and has completed
this very character (`decodeFrom_character`).
-/

namespace PrivacyAudit.Text

/-! ## 1. Decoding that may refuse -/

/-- A sequence is UTF-8 exactly if it is what some text is written as, and then it is read as this
text. -/
theorem decode?_eq_some_iff {bytes : List UInt8} {s : String} :
    decode? bytes = some s ↔ bytes = encode s := by
  have hbytes : (⟨bytes.toArray⟩ : ByteArray) = s.toByteArray ↔ bytes = encode s := by
    rw [encode, String.toUTF8_eq_toByteArray, ByteArray.ext_iff, ← Array.toList_inj]
  rw [← hbytes, decode?, String.fromUTF8?]
  constructor
  · intro h
    split at h
    · rw [← Option.some.inj h]
      rfl
    · cases h
  · intro h
    rw [h, dif_pos s.isValidUTF8]
    rfl

/-- The bytes of a text are those of its characters. -/
theorem encode_eq_flatMap (s : String) : encode s = s.toList.flatMap String.utf8EncodeChar := by
  rw [encode, String.toUTF8_eq_toByteArray, ← String.utf8Encode_toList, List.utf8Encode]
  exact List.toList_data_toByteArray

/-! ## 2. The first byte of a character -/

namespace DecoderState

theorem begin_of_one {b : Nat} (h : b < 0x80) : begin b = ([Char.ofNat b], .boundary) := if_pos h

theorem begin_of_two {b : Nat} (hleast : 0xC2 ≤ b) (hmost : b < 0xE0) :
    begin b = ([], .inside (b - 0xC0) 1 0x80 0xBF) := by
  rw [begin, if_neg (by omega), if_neg (by omega), if_pos hmost]

/-- The first of three bytes. Behind the least of them no byte follows with which the character
would have been written in two, and behind `0xED` none with which it would be a surrogate. -/
theorem begin_of_three (b next : Nat) (hleast : 0xE0 ≤ b) (hmost : b < 0xF0)
    (hnext : 0x80 ≤ next ∧ next ≤ 0xBF) (hlong : b = 0xE0 → 0xA0 ≤ next)
    (hsurrogate : b = 0xED → next ≤ 0x9F) :
    ∃ least greatest, begin b = ([], .inside (b - 0xE0) 2 least greatest) ∧ least ≤ next ∧
    next ≤ greatest := by
  rw [begin, if_neg (by omega), if_neg (by omega), if_neg (by omega)]
  by_cases hfirst : b = 0xE0
  · subst hfirst
    exact ⟨_, _, rfl, hlong rfl, hnext.2⟩
  by_cases hlast : b = 0xED
  · subst hlast
    exact ⟨_, _, rfl, hnext.1, hsurrogate rfl⟩
  rw [if_neg hfirst, if_neg hlast, if_pos hmost]
  exact ⟨_, _, rfl, hnext⟩

/-- The first of four bytes. Behind the least of them no byte follows with which the character would
have been written in three, and behind the greatest none that leads beyond the last character. -/
theorem begin_of_four (b next : Nat) (hleast : 0xF0 ≤ b) (hmost : b ≤ 0xF4)
    (hnext : 0x80 ≤ next ∧ next ≤ 0xBF) (hlong : b = 0xF0 → 0x90 ≤ next)
    (hbeyond : b = 0xF4 → next ≤ 0x8F) :
    ∃ least greatest, begin b = ([], .inside (b - 0xF0) 3 least greatest) ∧ least ≤ next ∧
    next ≤ greatest := by
  rw [begin, if_neg
    (by omega), if_neg (by omega), if_neg (by omega), if_neg (by omega), if_neg (by omega),
    if_neg (by omega)]
  by_cases hfirst : b = 0xF0
  · subst hfirst
    exact ⟨_, _, rfl, hlong rfl, hnext.2⟩
  by_cases hlast : b = 0xF4
  · subst hlast
    exact ⟨_, _, rfl, hnext.1, hbeyond rfl⟩
  rw [if_neg hfirst, if_pos (by omega)]
  exact ⟨_, _, rfl, hnext⟩

end DecoderState

/-! ## 3. Decoding that may lose something -/

theorem decodeFrom_boundary {b : Nat} (hb : b < 256) (rest : List UInt8) :
    decodeFrom .boundary (UInt8.ofNat b :: rest) =
      (DecoderState.begin b).1 ++ decodeFrom (DecoderState.begin b).2 rest := by
  rw [decodeFrom, UInt8.toNat_ofNat_of_lt' hb]
  rfl

/-- The last byte of a character. -/
theorem decodeFrom_last {bits least greatest b : Nat} (hb : b < 256) (h : least ≤ b ∧ b ≤ greatest)
    (rest : List UInt8) :
    decodeFrom (.inside bits 1 least greatest) (UInt8.ofNat b :: rest) =
      Char.ofNat (bits * 64 + (b - 0x80)) :: decodeFrom .boundary rest := by
  rw [decodeFrom, UInt8.toNat_ofNat_of_lt' hb, DecoderState.step, if_pos h]
  rfl

/-- A byte of a character behind the first and in front of the last. -/
theorem decodeFrom_middle {bits owed least greatest b : Nat} (hb : b < 256)
    (h : least ≤ b ∧ b ≤ greatest) (rest : List UInt8) :
    decodeFrom (.inside bits (owed + 2) least greatest) (UInt8.ofNat b :: rest) =
      decodeFrom (.inside (bits * 64 + (b - 0x80)) (owed + 1) 0x80 0xBF) rest := by
  rw [decodeFrom, UInt8.toNat_ofNat_of_lt' hb, DecoderState.step, if_pos h]
  rfl

/-- **The bytes of a character are read as this character.** -/
theorem decodeFrom_character (c : Char) (rest : List UInt8) :
    decodeFrom .boundary (String.utf8EncodeChar c ++ rest) = c :: decodeFrom .boundary rest := by
  have hvalid : c.toNat < 0xD800 ∨ 0xDFFF < c.toNat ∧ c.toNat < 0x110000 := c.valid
  have hc : c.val.toNat = c.toNat := rfl
  have hread : ∀ n, n = c.toNat → Char.ofNat n = c := fun n hn => hn ▸ Char.ofNat_toNat c
  unfold String.utf8EncodeChar
  simp only [hc]
  generalize hn : c.toNat = n at *
  by_cases hone : n ≤ 127
  · rw [if_pos hone, List.singleton_append, decodeFrom_boundary (by omega),
      DecoderState.begin_of_one (by omega), hread n rfl]
    rfl
  by_cases htwo : n ≤ 2047
  · rw [if_neg hone, if_pos htwo, List.cons_append, List.singleton_append,
      decodeFrom_boundary (by omega),
      DecoderState.begin_of_two
        (by omega) (by omega), List.nil_append, decodeFrom_last (by omega) (by omega)]
    rw [hread]
    omega
  by_cases hthree : n ≤ 65535
  · obtain ⟨least, greatest, hbegin, hnext⟩ := DecoderState.begin_of_three (n / 4096 % 16 + 224)
      (n / 64 % 64 + 128) (by omega) (by omega) (by omega) (by omega) (by omega)
    rw [if_neg hone, if_neg htwo, if_pos hthree]
    simp only [List.cons_append, List.nil_append]
    rw [decodeFrom_boundary (by omega), hbegin, List.nil_append, decodeFrom_middle (by omega) hnext,
      decodeFrom_last (by omega) (by omega)]
    rw [hread]
    omega
  · obtain ⟨least, greatest, hbegin, hnext⟩ := DecoderState.begin_of_four (n / 262144 % 8 + 240)
      (n / 4096 % 64 + 128) (by omega) (by omega) (by omega) (by omega) (by omega)
    rw [if_neg hone, if_neg htwo, if_neg hthree]
    simp only [List.cons_append, List.nil_append]
    rw [decodeFrom_boundary (by omega), hbegin, List.nil_append, decodeFrom_middle (by omega) hnext,
      decodeFrom_middle (by omega) (by omega), decodeFrom_last (by omega) (by omega)]
    rw [hread]
    omega

/-- **Nothing is lost of a text that was encoded.** -/
theorem decodeLossy_encode (s : String) : decodeLossy (encode s) = s := by
  have hchars : ∀ cs : List Char, decodeFrom .boundary (cs.flatMap String.utf8EncodeChar) = cs := by
    intro cs
    induction cs with
    | nil => rfl
    | cons c cs ih => rw [List.flatMap_cons, decodeFrom_character, ih]
  rw [decodeLossy, encode_eq_flatMap, hchars, String.ofList_toList]

/-- A sequence that is UTF-8 is read alike by both decoders. -/
theorem decodeLossy_of_decode? {bytes : List UInt8} {s : String} (h : decode? bytes = some s) :
    decodeLossy bytes = s := by
  rw [decode?_eq_some_iff.mp h, decodeLossy_encode]

end PrivacyAudit.Text
