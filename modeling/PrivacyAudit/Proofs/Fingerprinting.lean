import PrivacyAudit.Proofs.Decoding
import PrivacyAudit.Proofs.Quoting
import PrivacyAudit.Proofs.Transparency
import Std.Data.String.ToNat

/-!
# The text that a fingerprint is taken of

The text is the path, a colon and the options as a JSON object. The path is not quoted, so it may
hold colons, quotes, braces or a whole JSON text of its own; still it is known where the path ends.
For the object begins with a brace, a quote and a letter, and behind its first brace these three
stand nowhere in it: inside a pattern a quote is escaped, and a quote that closes a pattern is
followed by a comma or a bracket (`unopened_body`). So no part of the object is itself such an
object, and the text determines the path's text and the normalized options
(`fingerprintText_eq_iff`): requests that differ in these share a fingerprint only if the hash takes
two texts for one.
-/

namespace PrivacyAudit

open Json (escaped items furtherItems escapeChar escapeChar_cases)

/-! ## 1. How options are written -/

/-- The options in the compact form, behind the brace. -/
def NormalizedOptions.body (o : NormalizedOptions) : List Char :=
  "\"include_patterns\":[".toList ++
  (items o.includes ++ (",\"exclude_patterns\":[".toList ++ (items o.excludes ++
    (",\"max_files\":".toList ++ ((toString o.maxFiles).toList ++ ['}'])))))

theorem NormalizedOptions.toList_compact (o : NormalizedOptions) :
    o.toJson.compact.toList = '{' :: o.body := by
  have hincludes := Json.toList_compact_strings o.includes
  have hexcludes := Json.toList_compact_strings o.excludes
  simp only [toJson, Json.Value.compact, Json.Value.compact.compactMembers,
    String.intercalate_cons_cons, String.intercalate_singleton, String.toList_append,
    Json.toList_quote, hincludes, hexcludes, Json.Value.natural,
    Json.Number.write, List.append_assoc]
  rfl

/-- **The written options determine the options.** -/
theorem NormalizedOptions.body_inj {o o' : NormalizedOptions} (h : o.body = o'.body) : o = o' := by
  obtain ⟨hincludes, hbehind⟩ := Json.items_inj (List.append_cancel_left h)
  obtain ⟨hexcludes, hbehind⟩ := Json.items_inj (List.append_cancel_left hbehind)
  have hdigits : toString o.maxFiles = toString o'.maxFiles :=
    String.toList_inj.mp (List.append_cancel_right (List.append_cancel_left hbehind))
  have hmaxFiles : o.maxFiles = o'.maxFiles := Nat.repr_inj.mp hdigits
  calc o = ⟨o.includes, o.excludes, o.maxFiles⟩ := rfl
    _ = o' := by rw [hincludes, hexcludes, hmaxFiles]

/-! ## 2. Where options begin -/

/-- What an options object begins with, and no other part of it does. -/
def opening : List Char := ['{', '"', 'i']

/-- No options object begins in the text. -/
def Unopened (text : List Char) : Prop := ∀ part, part <:+ text → ¬ opening <+: part

theorem unopened_nil : Unopened [] := by
  intro part hpart hopening
  rw [List.suffix_nil.mp hpart] at hopening
  exact absurd (List.prefix_nil.mp hopening) (by decide)

theorem unopened_cons_iff {c : Char} {text : List Char} :
    Unopened (c :: text) ↔ ¬ opening <+: c :: text ∧ Unopened text := by
  constructor
  · intro h
    exact ⟨h _ (List.suffix_refl _),
      fun part hpart => h part (hpart.trans (List.suffix_cons c text))⟩
  · rintro ⟨hhere, hbehind⟩ part hpart
    rcases List.suffix_cons_iff.mp hpart with rfl | hpart
    · exact hhere
    · exact hbehind part hpart

theorem Unopened.cons_of_ne {c : Char} {text : List Char} (hc : c ≠ '{') (h : Unopened text) :
    Unopened (c :: text) := by
  refine unopened_cons_iff.mpr ⟨fun hopening => ?_, h⟩
  exact hc (List.cons_prefix_cons.mp hopening).1.symm

/-- A brace opens no object unless a quote follows it. -/
theorem Unopened.cons_of_head_ne {c : Char} {text : List Char} (hquote : text.head? ≠ some '"')
    (h : Unopened text) : Unopened (c :: text) := by
  refine unopened_cons_iff.mpr ⟨fun hopening => ?_, h⟩
  obtain ⟨rest, rfl⟩ := (List.cons_prefix_cons.mp hopening).2
  exact hquote rfl

theorem Unopened.append_left {front text : List Char} (hfront : '{' ∉ front) (h : Unopened text) :
    Unopened (front ++ text) := by
  induction front with
  | nil => exact h
  | cons c front ih =>
    rw [List.mem_cons, not_or] at hfront
    exact (ih hfront.2).cons_of_ne (Ne.symm hfront.1)

/-- An escaped character does not begin with a quote. -/
theorem head?_escapeChar_append (c : Char) (text : List Char) :
    (escapeChar c ++ text).head? ≠ some '"' := by
  rcases escapeChar_cases c with ⟨code, hcode, -⟩ | ⟨hplain, hquote, -⟩
  · rw [hcode]
    exact fun h => absurd (Option.some.inj h) (by decide)
  · rw [hplain]
    exact fun h => hquote (Option.some.inj h)

/-- No options object begins inside a pattern, whatever the pattern is: a quote in it is escaped,
and the one that closes it is not followed by a letter. -/
theorem Unopened.pattern {text : List Char} (hletter : text.head? ≠ some 'i') (h : Unopened text)
    (chars : List Char) : Unopened (chars.flatMap escapeChar ++ '"' :: text) := by
  induction chars with
  | nil => exact h.cons_of_ne (by decide)
  | cons c chars ih =>
    rw [List.flatMap_cons, List.append_assoc]
    rcases escapeChar_cases c with ⟨code, hcode, hbrace, -⟩ | ⟨hplain, -⟩
    · rw [hcode, List.cons_append]
      exact (ih.append_left hbrace).cons_of_ne (by decide)
    · rw [hplain, List.singleton_append]
      cases chars with
      | nil =>
        refine unopened_cons_iff.mpr ⟨fun hopening => ?_, ih⟩
        obtain ⟨rest, hrest⟩ := (List.cons_prefix_cons.mp (List.cons_prefix_cons.mp hopening).2).2
        exact hletter (hrest ▸ rfl)
      | cons next chars =>
        refine ih.cons_of_head_ne ?_
        rw [List.flatMap_cons, List.append_assoc]
        exact head?_escapeChar_append next _

theorem head?_furtherItems_append (ss : List String) (text : List Char) :
    (furtherItems ss ++ text).head? ≠ some 'i' := by
  cases ss with
  | nil => exact fun h => absurd (Option.some.inj h) (by decide)
  | cons s ss => exact fun h => absurd (Option.some.inj h) (by decide)

theorem Unopened.furtherItems {text : List Char} (h : Unopened text) (ss : List String) :
    Unopened (furtherItems ss ++ text) := by
  induction ss with
  | nil => exact h.cons_of_ne (by decide)
  | cons s ss ih =>
    have hpattern := ih.pattern (head?_furtherItems_append ss text) s.toList
    have hquoted := (hpattern.cons_of_ne (c := '"') (by decide)).cons_of_ne (c := ',') (by decide)
    rwa [Json.furtherItems, List.cons_append, List.cons_append, List.cons_append, List.cons_append,
      List.append_assoc, List.cons_append]

theorem Unopened.items {text : List Char} (h : Unopened text) (ss : List String) :
    Unopened (items ss ++ text) := by
  cases ss with
  | nil => exact h.cons_of_ne (by decide)
  | cons s ss => exact (unopened_cons_iff.mp (h.furtherItems (s :: ss))).2

/-- **No options object begins inside another one.** -/
theorem unopened_body (o : NormalizedOptions) : Unopened o.body := by
  have hdigits : '{' ∉ (toString o.maxFiles).toList := by
    intro hmem
    rw [Nat.toString_eq_repr, Nat.toList_repr] at hmem
    exact absurd (Nat.isDigit_of_mem_toDigits (by decide) (by decide) hmem) (by decide)
  have hend : Unopened ['}'] := unopened_nil.cons_of_ne (by decide)
  exact ((((hend.append_left hdigits).append_left (by decide)).items o.excludes).append_left
    (by decide)).items o.includes |>.append_left (by decide)

theorem opening_prefix_body (o : NormalizedOptions) : opening <+: '{' :: o.body :=
  ⟨"nclude_patterns\":[".toList ++ _, rfl⟩

/-! ## 3. The whole text -/

theorem toList_fingerprintText (project : Path) (o : ScanOptions) :
    (fingerprintText project o).toList = project.text.toList ++ ':' :: '{' ::
    o.normalized.body := by
  rw [fingerprintText, String.toList_append, String.toList_append, NormalizedOptions.toList_compact,
    List.append_assoc]
  rfl

/-- What is in front of the one colon and not in front of the other is nothing. -/
theorem eq_nil_of_written {o o' : NormalizedOptions} {between : List Char}
    (h : ':' :: '{' :: o.body = between ++ ':' :: '{' :: o'.body) : between = [] := by
  cases between with
  | nil => rfl
  | cons c between =>
    have hbehind : '{' :: o.body = between ++ ':' :: '{' :: o'.body := (List.cons.inj h).2
    cases between with
    | nil => exact absurd (List.head_eq_of_cons_eq hbehind) (by decide)
    | cons c between =>
      have hbody : o.body = between ++ ':' :: '{' :: o'.body := (List.cons.inj hbehind).2
      have hpart : '{' :: o'.body <:+ o.body := by
        rw [hbody]
        exact (List.suffix_cons ':' _).trans (List.suffix_append between _)
      exact absurd (opening_prefix_body o') (unopened_body o _ hpart)

/-- The text of a request determines the text of the path and the normalized options. -/
theorem fingerprintText_inj {project project' : Path} {o o' : ScanOptions}
    (h : fingerprintText project o = fingerprintText project' o') :
    project.text = project'.text ∧ o.normalized = o'.normalized := by
  have hlist := congrArg String.toList h
  rw [toList_fingerprintText, toList_fingerprintText] at hlist
  rcases List.append_eq_append_iff.mp hlist with ⟨between, hpath, hbehind⟩ |
    ⟨between, hpath, hbehind⟩
  · obtain rfl := eq_nil_of_written hbehind
    have hbody : o.normalized.body = o'.normalized.body :=
      (List.cons.inj (List.cons.inj hbehind).2).2
    rw [List.append_nil] at hpath
    exact ⟨String.toList_inj.mp hpath.symm, NormalizedOptions.body_inj hbody⟩
  · obtain rfl := eq_nil_of_written hbehind
    have hbody : o'.normalized.body = o.normalized.body :=
      (List.cons.inj (List.cons.inj hbehind).2).2
    rw [List.append_nil] at hpath
    exact ⟨String.toList_inj.mp hpath, (NormalizedOptions.body_inj hbody).symm⟩

theorem normalized_eq_iff (o o' : ScanOptions) :
    o.normalized = o'.normalized ↔
      o.include?.getD ScanOptions.defaultIncludes = o'.include?.getD ScanOptions.defaultIncludes ∧
      o.exclude?.getD ScanOptions.defaultExcludes = o'.exclude?.getD ScanOptions.defaultExcludes ∧
      o.maxFiles?.getD ScanOptions.defaultMaxFiles =
        o'.maxFiles?.getD ScanOptions.defaultMaxFiles := by
  rw [ScanOptions.normalized, ScanOptions.normalized, NormalizedOptions.mk.injEq]

/-! ## 4. Requests and fingerprints -/

/-- **The text that a fingerprint is taken of determines the request**: two texts are equal exactly
if the paths have the same text and the options are the same once what is left out is filled in.
What is left out is then its default, but an empty list is not, and nothing tells whether a stored
report would do. So requests that differ share a fingerprint only if the hash takes two texts for
one. -/
theorem fingerprintText_eq_iff (project project' : Path) (o o' : ScanOptions) :
    (fingerprintText project o = fingerprintText project' o' ↔
      project.text = project'.text ∧
      o.include?.getD ScanOptions.defaultIncludes = o'.include?.getD ScanOptions.defaultIncludes ∧
      o.exclude?.getD ScanOptions.defaultExcludes = o'.exclude?.getD ScanOptions.defaultExcludes ∧
      o.maxFiles?.getD ScanOptions.defaultMaxFiles =
        o'.maxFiles?.getD ScanOptions.defaultMaxFiles) ∧
    fingerprintText project { o with include? := some [] } ≠
      fingerprintText project { o with include? := none } ∧
    fingerprintText project { o with exclude? := some [] } ≠
      fingerprintText project { o with exclude? := none } ∧
    (scanId project o = scanId project' o' →
      (project.text = project'.text ∧ o.normalized = o'.normalized) ∨
      (fingerprintText project o ≠ fingerprintText project' o' ∧
        hashNumeral (fingerprintText project o) = hashNumeral (fingerprintText project' o'))) := by
  refine ⟨?_, fun hincludes => ?_, fun hexcludes => ?_, fun hid => ?_⟩
  · rw [← normalized_eq_iff]
    constructor
    · exact fingerprintText_inj
    · rintro ⟨hpath, hoptions⟩
      rw [fingerprintText, fingerprintText, hpath, hoptions]
  · have hlist := ((normalized_eq_iff _ _).mp (fingerprintText_inj hincludes).2).1
    exact absurd hlist (List.cons_ne_nil _ _).symm
  · have hlist := ((normalized_eq_iff _ _).mp (fingerprintText_inj hexcludes).2).2.1
    exact absurd hlist (List.cons_ne_nil _ _).symm
  · by_cases htext : fingerprintText project o = fingerprintText project' o'
    · exact .inl (fingerprintText_inj htext)
    · have hhash : hashNumeral (fingerprintText project o) =
          hashNumeral (fingerprintText project' o') :=
        (String.append_right_inj "scan_").mp hid
      exact .inr ⟨htext, hhash⟩

/-- The projects `Aa` and `BB` share their fingerprint, so the hash takes two texts for one; and a
path that goes on like the text of a request for `a` is told from `a`. -/
theorem fingerprintText_eq_iff_lookalikes :
    scanId (.ofText "Aa") .default = scanId (.ofText "BB") .default ∧
    fingerprintText (.ofText "Aa") .default ≠ fingerprintText (.ofText "BB") .default ∧
    fingerprintText (.ofText "a") .default ≠
      fingerprintText (.ofText (fingerprintText (.ofText "a") .default)) .default := by
  have hid : scanId (.ofText "Aa") .default = scanId (.ofText "BB") .default :=
    scanId_Aa_BB .default
  have htext (s : String) : (Path.ofText s).text = s := Text.decodeLossy_encode s
  have hpaths : (Path.ofText "Aa").text ≠ (Path.ofText "BB").text := by
    rw [htext, htext]
    decide
  have hlookalike : (Path.ofText "a").text ≠
      (Path.ofText (fingerprintText (.ofText "a") .default)).text := by
    rw [htext, htext]
    intro hsame
    have hlist := congrArg String.toList hsame
    rw [toList_fingerprintText, htext] at hlist
    exact List.cons_ne_nil _ _ (List.self_eq_append_right.mp hlist)
  refine ⟨hid, ?_, fun hsame => ?_⟩
  · exact ((fingerprintText_eq_iff (.ofText "Aa") (.ofText "BB") .default .default).2.2.2 hid).elim
      (fun h => absurd h.1 hpaths) And.left
  · exact hlookalike ((fingerprintText_eq_iff _ _ _ _).1.mp hsame).1

end PrivacyAudit
