import PrivacyAudit.Proofs.Reaching
import PrivacyAudit.Text.Ascii

/-!
# What the text of a path mentions

A path is looked at as a text, and what is looked for has no slash in it. Then it is found in the
text of a path exactly where it is found in a part of the path: the decoder is between two
characters in front of a slash and behind it, whatever bytes stand there
(`Text.decodeFrom_append_ascii`), and no place of what is looked for can be the slash
(`Text.infix_append_cons_iff`). So

* `Path.mentions_joinAll`: the text of a path with names joined to it mentions what the path does or
  a name does;
* `Path.not_mentions_absolute`: spelling a path from the root on adds nothing to what its text
  mentions.
-/

namespace PrivacyAudit

/-! ## 1. Texts inside texts -/

namespace Text

theorem occursIn_iff_isInfix {needle text : List Char} : occursIn needle text = true ↔
    needle <:+: text := by
  induction text with
  | nil => simp [occursIn]
  | cons c text ih => rw [occursIn, Bool.or_eq_true, List.isPrefixOf_iff_prefix, ih,
      List.infix_cons_iff]

theorem prefix_append_cons_iff {needle : List Char} {c : Char} (hc : c ∉ needle)
    (before after : List Char) : needle <+: before ++ c :: after ↔ needle <+: before := by
  induction before generalizing needle with
  | nil =>
    cases needle with
    | nil => simp
    | cons d needle =>
      have hne : d ≠ c := fun heq => hc (heq ▸ List.mem_cons_self)
      simp [hne]
  | cons b before ih =>
    cases needle with
    | nil => simp
    | cons d needle =>
      rw [List.cons_append, List.cons_prefix_cons, List.cons_prefix_cons,
        ih fun hmem => hc (List.mem_cons_of_mem d hmem)]

/-- What has a character nowhere lies in front of it or behind it. -/
theorem infix_append_cons_iff {needle before after : List Char} {c : Char} (hc : c ∉ needle) :
    needle <:+: before ++ c :: after ↔ needle <:+: before ∨ needle <:+: after := by
  induction before with
  | nil =>
    have hfirst := prefix_append_cons_iff hc [] after
    rw [List.nil_append] at hfirst
    rw [List.nil_append, List.infix_cons_iff, hfirst, List.prefix_nil, List.infix_nil]
  | cons b before ih =>
    have hfirst := prefix_append_cons_iff hc (b :: before) after
    rw [List.cons_append] at hfirst
    rw [List.cons_append, List.infix_cons_iff, hfirst, ih, List.infix_cons_iff, or_assoc]

/-! ## 2. Decoding across an ASCII character -/

namespace DecoderState

/-- Inside a character no byte is taken for a further one that is an ASCII character. -/
def AboveAscii : DecoderState → Prop
  | .boundary => True
  | .inside _ _ least _ => 0x80 ≤ least

theorem aboveAscii_begin (b : Nat) : (begin b).2.AboveAscii := by
  unfold begin
  repeat' split
  all_goals simp [AboveAscii]

theorem aboveAscii_step (state : DecoderState) (b : Nat) : (state.step b).2.AboveAscii := by
  cases state with
  | boundary => exact aboveAscii_begin b
  | inside bits owed least greatest =>
    rw [step]
    split
    · split
      · exact trivial
      · exact Nat.le_refl 0x80
    · exact aboveAscii_begin b

end DecoderState

theorem decodeFrom_cons (state : DecoderState) (b : UInt8) (rest : List UInt8) :
    decodeFrom state (b :: rest) =
      (state.step b.toNat).1 ++ decodeFrom (state.step b.toNat).2 rest := by
  rw [decodeFrom]

/-- An ASCII character ends the one that was begun, as the end of the bytes does. -/
theorem decodeFrom_ascii {state : DecoderState} (hstate : state.AboveAscii) {b : UInt8}
    (hb : b.toNat < 0x80) (rest : List UInt8) :
    decodeFrom state (b :: rest) = decodeFrom state [] ++ Char.ofNat b.toNat ::
    decodeFrom .boundary rest := by
  have hbegin : DecoderState.begin b.toNat = ([Char.ofNat b.toNat], .boundary) := if_pos hb
  rw [decodeFrom_cons]
  cases state with
  | boundary =>
    rw [DecoderState.step, hbegin]
    rfl
  | inside bits owed least greatest =>
    have hout : ¬ (least ≤ b.toNat ∧ b.toNat ≤ greatest) := by
      intro h
      have hleast : 0x80 ≤ least := hstate
      omega
    rw [DecoderState.step, if_neg hout, hbegin]
    rfl

/-- **Bytes are decoded in front of an ASCII character and behind it**, whatever they are. -/
theorem decodeFrom_append_ascii {state : DecoderState} (hstate : state.AboveAscii)
    (before : List UInt8) {b : UInt8} (hb : b.toNat < 0x80) (after : List UInt8) :
    decodeFrom state (before ++ b :: after) =
      decodeFrom state before ++ Char.ofNat b.toNat :: decodeFrom .boundary after := by
  induction before generalizing state with
  | nil => exact decodeFrom_ascii hstate hb after
  | cons c before ih =>
    have hnext := ih (state.aboveAscii_step c.toNat)
    rw [List.cons_append, decodeFrom_cons, hnext, decodeFrom_cons, List.append_assoc]

end Text

/-! ## 3. Paths -/

namespace Path

/-- Whether the text of the bytes contains another. -/
def spells (bytes : List UInt8) (needle : String) : Bool :=
  Text.contains (Text.decodeLossy bytes) needle

/-- Whether the text of the path contains another. -/
def mentions (p : Path) (needle : String) : Bool := spells p.bytes needle

section Needle

variable {needle : String} (hslash : '/' ∉ needle.toList)

include hslash in
/-- What has no slash is found in front of a slash or behind it. -/
theorem spells_append_slash (before after : List UInt8) :
    spells (before ++ slash :: after) needle = (spells before needle || spells after needle) := by
  have hboundary : Text.DecoderState.boundary.AboveAscii := trivial
  have hascii : slash.toNat < 0x80 := by decide
  have hdecoded := Text.decodeFrom_append_ascii hboundary before hascii after
  have hchar : Char.ofNat slash.toNat = '/' := rfl
  rw [Bool.eq_iff_iff, Bool.or_eq_true]
  simp only [spells, Text.contains, Text.decodeLossy, String.toList_ofList,
    Text.occursIn_iff_isInfix, hdecoded, hchar]
  exact Text.infix_append_cons_iff hslash

variable (hlong : 2 < needle.toList.length)

include hlong in
/-- A text is in no shorter one. -/
theorem not_spells_of_short {bytes : List UInt8} (h : (Text.decodeLossy bytes).toList.length ≤ 2) :
    spells bytes needle = false := by
  rw [← Bool.not_eq_true, spells, Text.contains, Text.occursIn_iff_isInfix]
  intro hinfix
  have hle := hinfix.length_le
  omega

include hlong in
theorem spells_nil : spells [] needle = false := not_spells_of_short hlong (by decide)

include hslash hlong in
/-- A path with something behind it spells what the path spells or what is behind it, whether or not
a slash is put between them. -/
theorem mentions_join {p : Path} {below : List UInt8} (hbelow : below.head? ≠ some slash) :
    (p.join below).mentions needle = (p.mentions needle || spells below needle) := by
  have hrelative : ¬ (below.head? == some slash) = true := by simpa using hbelow
  rw [join, mentions, mentions]
  by_cases hempty : p.bytes = []
  · rw [if_pos (.inr (.inl hempty)), if_neg hrelative, hempty, List.nil_append, spells_nil hlong,
      Bool.false_or]
  · by_cases hends : p.endsWithSlash = true
    · have hlast : p.bytes.getLast? = some slash := by simpa [endsWithSlash] using hends
      obtain ⟨front, hfront⟩ := List.getLast?_eq_some_iff.mp hlast
      have hbefore : spells (front ++ [slash]) needle = spells front needle := by
        rw [spells_append_slash hslash, spells_nil hlong, Bool.or_false]
      rw [if_pos (.inr (.inr hends)), if_neg hrelative, hfront, hbefore, List.append_assoc,
        List.singleton_append, spells_append_slash hslash]
    · rw [if_neg (not_or.mpr ⟨hrelative, not_or.mpr ⟨hempty, hends⟩⟩), spells_append_slash hslash]

include hslash hlong in
/-- **The text of a path with names joined to it mentions what the path does or a name does.** -/
theorem mentions_joinAll {p : Path} {names : List Name} (h : ∀ n ∈ names, isName n) :
    (p.joinAll names).mentions needle = (p.mentions needle || names.any (spells · needle)) := by
  induction names generalizing p with
  | nil => simp [joinAll]
  | cons n names ih =>
    obtain ⟨hn, hnames⟩ := List.forall_mem_cons.mp h
    have hrelative : n.head? ≠ some slash :=
      fun hhead => (isName_iff.mp hn).2.1 (List.mem_of_mem_head? hhead)
    have hrest := ih (p := p.join n) hnames
    rw [joinAll, List.foldl_cons, ← joinAll, hrest, mentions_join hslash hlong hrelative,
      List.any_cons, Bool.or_assoc]

include hslash in
/-- What a part between slashes spells, all of it does. -/
theorem spells_of_mem_split {bytes part : List UInt8} (hpart : part ∈ split bytes)
    (h : spells part needle = true) : spells bytes needle = true := by
  induction hn : bytes.length using Nat.strongRecOn generalizing bytes with
  | ind n ih =>
    by_cases hmem : slash ∈ bytes
    · obtain ⟨first, rest, rfl, hfirst⟩ := List.eq_append_cons_of_mem hmem
      rw [split_append_slash hfirst] at hpart
      rw [spells_append_slash hslash, Bool.or_eq_true]
      rcases List.mem_cons.mp hpart with rfl | hlater
      · exact .inl h
      · refine .inr (ih rest.length ?_ hlater rfl)
        rw [← hn, List.length_append, List.length_cons]
        omega
    · rw [split_of_not_mem hmem] at hpart
      rwa [List.mem_singleton.mp hpart] at h

include hslash hlong in
/-- What is absent from a path and from what is put behind it is absent from both together. -/
theorem not_mentions_join {p : Path} {below : List UInt8} (hp : p.mentions needle = false)
    (hbelow : spells below needle = false) : (p.join below).mentions needle = false := by
  by_cases hhead : below.head? = some slash
  · have habsolute : p.join below = ⟨below⟩ := by simp [join, hhead]
    rw [habsolute]
    exact hbelow
  · rw [mentions_join hslash hlong hhead, hp, hbelow, Bool.or_false]

/-- A name among the components of a path is one of its parts. -/
theorem mem_split_of_mem_components {p : Path} {n : Name} (h : .name n ∈ p.components) :
    n ∈ split p.bytes := by
  have hparts : .name n ∈ (split p.bytes).filterMap component? := by
    rcases List.mem_append.mp h with hlead | hparts
    · split at hlead
      · simp at hlead
      · split at hlead <;> simp at hlead
    · exact hparts
  obtain ⟨part, hpart, hname⟩ := List.mem_filterMap.mp hparts
  unfold component? at hname
  split at hname
  · cases hname
  · split at hname
    · cases hname
    · simp only [Option.some.injEq, Component.name.injEq] at hname
      exact hname ▸ hpart

include hslash hlong in
theorem not_mentions_extend {p : Path} {components : List Component}
    (hp : p.mentions needle = false)
    (hnames : ∀ n, .name n ∈ components → spells n needle = false) :
    (p.extend components).mentions needle = false := by
  have hdot : spells [dot] needle = false := not_spells_of_short hlong (by decide)
  have hdots : spells [dot, dot] needle = false := not_spells_of_short hlong (by decide)
  have hroot : (Path.mk [slash]).mentions needle = false := not_spells_of_short hlong (by decide)
  induction components generalizing p with
  | nil => exact hp
  | cons first components ih =>
    have hrest : ∀ n, .name n ∈ components → spells n needle = false :=
      fun n hn => hnames n (List.mem_cons_of_mem _ hn)
    cases first with
    | root => exact ih hroot hrest
    | current => exact ih (not_mentions_join hslash hlong hp hdot) hrest
    | parent => exact ih (not_mentions_join hslash hlong hp hdots) hrest
    | name n => exact ih (not_mentions_join hslash hlong hp (hnames n List.mem_cons_self)) hrest

include hslash hlong in
/-- **Spelling a path from the root on adds nothing to what its text mentions.** -/
theorem not_mentions_absolute {p : Path} (habsolute : p.isAbsolute = true) (workingDirectory : Path)
    (hp : p.mentions needle = false) : (p.absolute workingDirectory).mentions needle = false := by
  have hname : ∀ n, .name n ∈ p.components → spells n needle = false := by
    intro n hn
    refine Bool.eq_false_iff.mpr fun hspells => ?_
    have hall := spells_of_mem_split hslash (mem_split_of_mem_components hn) hspells
    rw [mentions] at hp
    rw [hp] at hall
    cases hall
  have hnil : (Path.mk []).mentions needle = false := spells_nil hlong
  have hroots : (Path.mk [slash, slash]).mentions needle = false :=
    not_spells_of_short hlong (by decide)
  have hseen : ∀ n, .name n ∈ p.components.filter (· ≠ .current) → spells n needle = false := by
    intro n hn
    exact hname n (List.mem_of_mem_filter hn)
  have hspelt : ∀ front components, mentions front needle = false →
      (∀ n, .name n ∈ components → spells n needle = false) →
      (if p.endsWithSlash then (front.extend components).join []
        else front.extend components).mentions needle = false := by
    intro front components hfront hnames
    have hextended := not_mentions_extend hslash hlong hfront hnames
    split
    · exact not_mentions_join hslash hlong hextended (spells_nil hlong)
    · exact hextended
  unfold absolute
  by_cases hempty : p.bytes = []
  · rw [if_pos hempty]
    exact hp
  · rw [if_neg hempty]
    simp only [habsolute, if_true]
    by_cases htwo : p.bytes.take 2 = [slash, slash] ∧ p.bytes.take 3 ≠ [slash, slash, slash]
    · rw [if_pos htwo]
      exact hspelt ⟨[slash, slash]⟩ _ hroots fun n hn => hseen n (List.mem_of_mem_drop hn)
    · rw [if_neg htwo]
      exact hspelt ⟨[]⟩ _ hnil hseen

end Needle

end Path

end PrivacyAudit
