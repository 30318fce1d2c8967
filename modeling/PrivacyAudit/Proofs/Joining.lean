import PrivacyAudit.Disk.Path
import Mathlib.Data.List.Basic

/-!
# Joining names to a path

Names that are joined with slashes come apart again where they were joined (`split_intercalate`), so
different names behind a path give different paths (`joinAll_injective`).
-/

namespace PrivacyAudit

namespace Path

theorem split_ne_nil (bytes : List UInt8) : split bytes ≠ [] := by
  cases bytes with
  | nil => simp [split]
  | cons b rest =>
    rw [split]
    split
    · simp
    · split <;> simp

theorem split_append (front rest : List UInt8) :
    split (front ++ slash :: rest) = split front ++ split rest := by
  induction front with
  | nil =>
    obtain ⟨part, parts, hrest⟩ := List.exists_cons_of_ne_nil (split_ne_nil rest)
    simp [split, hrest]
  | cons b front ih =>
    obtain ⟨part, parts, hfront⟩ := List.exists_cons_of_ne_nil (split_ne_nil front)
    rw [List.cons_append, split, ih, split, hfront]
    simp only [List.cons_append]
    split <;> rfl

theorem split_of_not_mem {n : Name} (hn : slash ∉ n) : split n = [n] := by
  induction n with
  | nil => rfl
  | cons b n ih =>
    obtain ⟨hb, hn⟩ := not_or.mp (List.mem_cons.not.mp hn)
    rw [split, ih hn]
    exact if_neg (Ne.symm hb)

theorem split_append_slash {n : Name} (hn : slash ∉ n) (rest : List UInt8) :
    split (n ++ slash :: rest) = n :: split rest := by
  rw [split_append, split_of_not_mem hn, List.singleton_append]

/-- Names that are joined with slashes come apart again. -/
theorem split_intercalate {names : List Name} (hne : names ≠ []) (h : ∀ n ∈ names, slash ∉ n) :
    split ([slash].intercalate names) = names := by
  induction names with
  | nil => exact absurd rfl hne
  | cons n names ih =>
    obtain ⟨hn, hnames⟩ := List.forall_mem_cons.mp h
    cases names with
    | nil => simpa using split_of_not_mem hn
    | cons m names =>
      have hbytes : [slash].intercalate (n :: m :: names) =
          n ++ slash :: [slash].intercalate (m :: names) := by
        simp
      rw [hbytes, split_append_slash hn, ih (List.cons_ne_nil m names) hnames]

theorem isName_iff {n : Name} : isName n ↔ n ≠ [] ∧ slash ∉ n ∧ n ≠ [dot] ∧ n ≠ [dot, dot] := by
  simp [isName, and_assoc]

/-- The bytes of a path in front of a name that is joined to it. -/
def front (p : Path) : List UInt8 := if p.bytes = [] ∨ p.endsWithSlash then p.bytes
  else p.bytes ++ [slash]

theorem bytes_join {p : Path} {n : Name} (hn : isName n) : (p.join n).bytes = p.front ++ n := by
  obtain ⟨hne, hslash, -⟩ := isName_iff.mp hn
  have hhead : ¬ (n.head? == some slash) = true := by
    intro h
    exact hslash (List.mem_of_mem_head? (by simpa using h))
  rw [join, front]
  by_cases hp : p.bytes = [] ∨ p.endsWithSlash
  · rw [if_pos (.inr hp), if_pos hp, if_neg hhead]
  · rw [if_neg (not_or.mpr ⟨hhead, hp⟩), if_neg hp, List.append_assoc, List.singleton_append]

theorem endsWithSlash_join {p : Path} {n : Name} (hn : isName n) :
    (p.join n).endsWithSlash = false := by
  obtain ⟨hne, hslash, -⟩ := isName_iff.mp hn
  rw [endsWithSlash, bytes_join hn, List.getLast?_append_of_ne_nil _ hne]
  refine beq_eq_false_iff_ne.mpr fun h => ?_
  exact hslash (List.mem_of_getLast? h)

theorem front_join {p : Path} {n : Name} (hn : isName n) :
    (p.join n).front = p.front ++ n ++ [slash] := by
  have hne := (isName_iff.mp hn).1
  rw [front, if_neg, bytes_join hn]
  rw [bytes_join hn, endsWithSlash_join hn]
  simp [hne]

theorem bytes_joinAll {p : Path} {names : List Name} (hne : names ≠ [])
    (h : ∀ n ∈ names, isName n) :
    (p.joinAll names).bytes = p.front ++ [slash].intercalate names := by
  induction names generalizing p with
  | nil => exact absurd rfl hne
  | cons n names ih =>
    obtain ⟨hn, hnames⟩ := List.forall_mem_cons.mp h
    cases names with
    | nil => simpa [joinAll] using bytes_join hn
    | cons m names =>
      have hrest := ih (p := p.join n) (List.cons_ne_nil m names) hnames
      rw [joinAll, List.foldl_cons, ← joinAll, hrest, front_join hn]
      simp

/-- Different names lead to different paths. -/
theorem joinAll_injective {p : Path} {names names' : List Name} (hne : names ≠ [])
    (hne' : names' ≠ []) (h : ∀ n ∈ names, isName n) (h' : ∀ n ∈ names', isName n)
    (heq : p.joinAll names = p.joinAll names') : names = names' := by
  have hbytes := congrArg Path.bytes heq
  rw [bytes_joinAll hne h, bytes_joinAll hne' h'] at hbytes
  have hsplit := congrArg split (List.append_cancel_left hbytes)
  rwa [split_intercalate hne fun n hn => (isName_iff.mp (h n hn)).2.1,
    split_intercalate hne' fun n hn => (isName_iff.mp (h' n hn)).2.1] at hsplit

end Path

end PrivacyAudit
