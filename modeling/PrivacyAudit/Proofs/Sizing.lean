import Mathlib.Algebra.BigOperators.Ring.List
import Mathlib.Algebra.Order.BigOperators.Group.List
import Mathlib.Algebra.Order.Ring.Nat
import PrivacyAudit.Pattern.Size

/-!
# How large a character set is

The memory of a character set is counted on the tree of its byte sequences. How the tree looks is
not needed for a bound: a range of code points has no more byte sequences than code points, and
every sequence passes through no more than five nodes.

* `length_setSequences_le`: a set has no more sequences than its ranges have code points
  (`CharSet.spread`);
* `sum_subtrees_le`: what a tree costs, if a node costs something and each of its edges does;
* `setSize_le`: so the memory of a set is linear in its code points, in either direction;
* `CharSet.spread_caseVariants_le`: and a letter has a few case variants at most.
-/

namespace PrivacyAudit

/-! ## 1. Code points -/

namespace CharSet

/-- The number of code points in ranges, those in several of them counted repeatedly. -/
def spreadOf (rs : List (Nat × Nat)) : Nat := (rs.map fun r => r.2 + 1 - r.1).sum

/-- The number of code points in the ranges of a set. -/
def spread (s : CharSet) : Nat := spreadOf s.ranges

theorem spreadOf_cons (r : Nat × Nat) (rs : List (Nat × Nat)) :
    spreadOf (r :: rs) = (r.2 + 1 - r.1) + spreadOf rs := by
  rw [spreadOf, List.map_cons, List.sum_cons, spreadOf]

/-- Joining ranges adds no code points. -/
theorem spreadOf_addFirst_le (r : Nat × Nat) (rs : List (Nat × Nat)) :
    spreadOf (addFirst r rs) ≤ (r.2 + 1 - r.1) + spreadOf rs := by
  induction rs generalizing r with
  | nil => exact Nat.le_of_eq (spreadOf_cons r [])
  | cons s later ih =>
    obtain ⟨first, last⟩ := s
    rw [addFirst]
    by_cases hjoins : first ≤ r.2 + 1
    · have hjoined := ih (r.1, max r.2 last)
      have hspan : max r.2 last + 1 - r.1 ≤ (r.2 + 1 - r.1) + (last + 1 - first) := by omega
      rw [if_pos hjoins, spreadOf_cons]
      omega
    · rw [if_neg hjoins, spreadOf_cons]

theorem spread_ofRanges_le (rs : List (Nat × Nat)) : (ofRanges rs).spread ≤ spreadOf rs := by
  have hfold : ∀ sorted : List (Nat × Nat), spreadOf (sorted.foldr addFirst []) ≤
      spreadOf sorted := by
    intro sorted
    induction sorted with
    | nil => exact Nat.le_refl _
    | cons r later ih =>
      have hjoined := spreadOf_addFirst_le r (later.foldr addFirst [])
      rw [List.foldr_cons, spreadOf_cons]
      omega
  have hperm := (List.mergeSort_perm rs fun r s => decide (r.1 ≤ s.1)).map fun r => r.2 + 1 - r.1
  exact Nat.le_trans (hfold _) (Nat.le_of_eq hperm.sum_eq)

/-- Every run of code points that have another case adds one variant at most. -/
theorem spread_caseVariants_le (c : Char) :
    (caseVariants c).spread ≤ Text.foldingShifts.length + 1 := by
  have hvariants : (Text.caseVariants c.toNat).length ≤ Text.foldingShifts.length + 1 := by
    unfold Text.caseVariants Text.Shift.preimages
    rw [List.length_cons]
    exact Nat.add_le_add_right (List.length_filterMap_le _ _) 1
  have hones : ∀ ns : List Nat, spreadOf (ns.map fun n => (n, n)) = ns.length := by
    intro ns
    induction ns with
    | nil => rfl
    | cons n ns ih =>
      rw [List.map_cons, spreadOf_cons, ih, List.length_cons]
      omega
  have hjoined := spread_ofRanges_le ((Text.caseVariants c.toNat).map fun n => (n, n))
  rw [hones] at hjoined
  exact Nat.le_trans hjoined hvariants

end CharSet

namespace Pattern

/-! ## 2. Byte sequences -/

/-- A cut divides a range into two that are in order. -/
def CutsAt (first last : Nat) (cut : Nat × Nat) : Prop :=
  first ≤ cut.1 ∧ cut.1 < cut.2 ∧ cut.2 ≤ last

theorem cutsAt_of_cutAt {cuts : List Nat} {first last : Nat} {cut : Nat × Nat}
    (h : cutAt cuts first last = some cut) : CutsAt first last cut := by
  obtain ⟨c, hc, rfl⟩ := Option.map_eq_some_iff.mp h
  have hinside := List.find?_some hc
  simp only [Bool.and_eq_true, decide_eq_true_eq] at hinside
  exact ⟨hinside.1, Nat.lt_succ_self c, hinside.2⟩

theorem cutsAt_of_blockCut {block first last : Nat} {cut : Nat × Nat} (hblock : 0 < block)
    (hle : first ≤ last) (h : blockCut block first last = some cut) : CutsAt first last cut := by
  unfold blockCut at h
  have hfirst := Nat.div_add_mod first block
  have hlast := Nat.div_add_mod last block
  have hfirstMod := Nat.mod_lt first hblock
  split at h
  · cases h
  · rename_i hblocks
    -- The ends lie in different blocks, so a whole block fits between the start of one and the
    -- start of the other.
    have hlt : first / block < last / block := Nat.lt_of_le_of_ne (Nat.div_le_div_right hle) hblocks
    have hwhole : block * (first / block + 1) ≤ block * (last / block) :=
      Nat.mul_le_mul_left block hlt
    rw [Nat.mul_add, Nat.mul_one] at hwhole
    split at h
    · obtain rfl := Option.some.inj h
      simp only [CutsAt, Nat.mul_comm _ block]
      omega
    · split at h
      · obtain rfl := Option.some.inj h
        simp only [CutsAt, Nat.mul_comm _ block]
        omega
      · cases h

/-- Where a range is cut: at the gap between the planes of characters, where encodings grow longer,
or at the end of a block. -/
def rangeCut (first last : Nat) : Option (Nat × Nat) :=
  if first < 0xD800 && 0xDFFF < last then some (0xD7FF, 0xE000)
  else (cutAt [0x7F, 0x7FF, 0xFFFF] first last).orElse fun _ =>
    if last < 0x80 then none
    else (blockCut 0x40 first last).orElse fun _ => (blockCut 0x1000 first last).orElse fun _ =>
      blockCut 0x40000 first last

theorem byteSequences_succ (fuel : Nat) {first last : Nat} (h : first ≤ last) :
    byteSequences (fuel + 1) first last =
      match rangeCut first last with
      | some (a, b) => byteSequences fuel first a ++ byteSequences fuel b last
      | none => [(utf8Bytes first).zip (utf8Bytes last)] := by
  rw [byteSequences, if_neg (Nat.not_lt.mpr h)]
  rfl

theorem eq_some_of_orElse {α : Type} {first : Option α} {second : Unit → Option α} {found : α}
    (h : first.orElse second = some found) : first = some found ∨ second () = some found := by
  cases first with
  | none => exact .inr h
  | some a => exact .inl h

theorem cutsAt_of_rangeCut {first last : Nat} {cut : Nat × Nat} (hle : first ≤ last)
    (h : rangeCut first last = some cut) : CutsAt first last cut := by
  unfold rangeCut at h
  split at h
  · rename_i hgap
    obtain rfl := Option.some.inj h
    simp only [Bool.and_eq_true, decide_eq_true_eq] at hgap
    simp only [CutsAt]
    omega
  · rcases eq_some_of_orElse h with hlengths | hblocks
    · exact cutsAt_of_cutAt hlengths
    · split at hblocks
      · cases hblocks
      · rcases eq_some_of_orElse hblocks with hblock | hlarger
        · exact cutsAt_of_blockCut (by decide) hle hblock
        · rcases eq_some_of_orElse hlarger with hblock | hblock
          · exact cutsAt_of_blockCut (by decide) hle hblock
          · exact cutsAt_of_blockCut (by decide) hle hblock

/-- A range has no more byte sequences than code points. -/
theorem length_byteSequences_le (fuel first last : Nat) :
    (byteSequences fuel first last).length ≤ last + 1 - first := by
  induction fuel generalizing first last with
  | zero => exact Nat.zero_le _
  | succ fuel ih =>
    by_cases hempty : last < first
    · rw [byteSequences, if_pos hempty]
      exact Nat.zero_le _
    · have hle : first ≤ last := Nat.le_of_not_lt hempty
      rw [byteSequences_succ fuel hle]
      cases hcut : rangeCut first last with
      | none =>
        rw [List.length_singleton]
        omega
      | some cut =>
        obtain ⟨a, b⟩ := cut
        obtain ⟨hfirst, hgap, hlast⟩ : first ≤ a ∧ a < b ∧ b ≤ last := cutsAt_of_rangeCut hle hcut
        have hlower := ih first a
        have hupper := ih b last
        rw [List.length_append]
        omega

/-- A set has no more byte sequences than code points. -/
theorem length_setSequences_le (s : CharSet) : (setSequences s).length ≤ s.spread := by
  unfold setSequences CharSet.spread
  induction s.ranges with
  | nil => exact Nat.le_refl _
  | cons r rs ih =>
    rw [List.flatMap_cons, List.length_append, CharSet.spreadOf_cons]
    refine Nat.add_le_add (Nat.le_trans (length_byteSequences_le _ _ _) ?_) ih
    simp only [Bool.and_eq_true, decide_eq_true_eq]
    split <;> split <;> omega

/-! ## 3. The tree -/

theorem foldl_add_eq_sum {α : Type} (cost : α → Nat) (l : List α) (n : Nat) :
    l.foldl (fun n a => n + cost a) n = n + (l.map cost).sum := by
  induction l generalizing n with
  | nil => rfl
  | cons a l ih => rw [List.foldl_cons, ih, List.map_cons, List.sum_cons, Nat.add_assoc]

theorem eraseDups_sublist {α : Type} [BEq α] (l : List α) : l.eraseDups.Sublist l := by
  induction hn : l.length using Nat.strongRecOn generalizing l with
  | ind n ih =>
    cases l with
    | nil => exact .slnil
    | cons a l =>
      have hfilter : (l.filter fun b => !b == a).Sublist l := List.filter_sublist
      have hshorter : (l.filter fun b => !b == a).length < n := by
        have hle := hfilter.length_le
        rw [List.length_cons] at hn
        omega
      rw [List.eraseDups_cons]
      exact ((ih _ hshorter _ rfl).trans hfilter).cons_cons a

/-- The sequences behind first ranges are those of the tree, less the empty ones. -/
theorem sum_groupByFirst_le (sequences : List ByteSequence) :
    ((groupByFirst sequences).map fun g => g.2.length).sum ≤ sequences.length := by
  induction sequences with
  | nil => exact Nat.le_refl _
  | cons first rest ih =>
    cases first with
    | nil =>
      rw [groupByFirst, List.length_cons]
      omega
    | cons r tail =>
      rw [groupByFirst, List.length_cons]
      cases hgroups : groupByFirst rest with
      | nil => simp
      | cons g groups =>
        obtain ⟨q, tails⟩ := g
        rw [hgroups, List.map_cons, List.sum_cons] at ih
        by_cases hsame : q = r
        · simp only [hsame, if_true, List.map_cons, List.sum_cons, List.length_cons]
          simp only at ih
          omega
        · simp only [hsame, if_false, List.map_cons, List.sum_cons, List.length_cons,
            List.length_nil]
          simp only at ih
          omega

/-- Behind every first range there is a sequence. -/
theorem length_pos_of_mem_groupByFirst {sequences : List ByteSequence}
    {g : (Nat × Nat) × List ByteSequence} (h : g ∈ groupByFirst sequences) : 0 < g.2.length := by
  induction sequences with
  | nil => cases h
  | cons first rest ih =>
    cases first with
    | nil => exact ih h
    | cons r tail =>
      rw [groupByFirst] at h
      cases hgroups : groupByFirst rest with
      | nil =>
        rw [hgroups] at h
        obtain rfl := List.mem_singleton.mp h
        exact Nat.one_pos
      | cons q groups =>
        obtain ⟨q, tails⟩ := q
        rw [hgroups] at h ih
        by_cases hsame : q = r
        · simp only [hsame, if_true, List.mem_cons] at h
          rcases h with rfl | h
          · exact Nat.succ_pos _
          · exact ih (List.mem_cons_of_mem _ h)
        · simp only [hsame, if_false] at h
          rcases List.mem_cons.mp h with rfl | h
          · exact Nat.one_pos
          · exact ih h

theorem length_groupByFirst_le (sequences : List ByteSequence) :
    (groupByFirst sequences).length ≤ sequences.length := by
  have hones : (groupByFirst sequences).length ≤
      ((groupByFirst sequences).map fun g => g.2.length).sum := by
    rw [← List.length_map (fun g : (Nat × Nat) × List ByteSequence => g.2.length)]
    refine List.length_le_sum_of_one_le _ fun n hn => ?_
    obtain ⟨g, hg, rfl⟩ := List.mem_map.mp hn
    exact length_pos_of_mem_groupByFirst hg
  exact Nat.le_trans hones (sum_groupByFirst_le sequences)

theorem sum_flatMap_le {α β : Type} {parts : α → List β} {cost : β → Nat} {bound : α → Nat}
    {l : List α} (h : ∀ a ∈ l, ((parts a).map cost).sum ≤ bound a) :
    ((l.flatMap parts).map cost).sum ≤ (l.map bound).sum := by
  induction l with
  | nil => exact Nat.le_refl _
  | cons a l ih =>
    have hlater := ih fun b hb => h b (List.mem_cons_of_mem _ hb)
    rw [List.flatMap_cons, List.map_append, List.sum_append, List.map_cons, List.sum_cons]
    exact Nat.add_le_add (h a List.mem_cons_self) hlater

/-- **What the nodes below a root cost**, if one costs `a` and each of its sequences `b`: on every
level the sequences are divided among the nodes. -/
theorem sum_subtrees_le (a b depth : Nat) (sequences : List ByteSequence) :
    ((subtrees depth sequences).map fun below => a + b * below.length).sum ≤
      depth * ((a + b) * sequences.length) := by
  induction depth generalizing sequences with
  | zero => exact Nat.zero_le _
  | succ depth ih =>
    have hgroup : ∀ g ∈ groupByFirst sequences,
        ((if g.2.all List.isEmpty then [] else g.2 :: subtrees depth g.2).map
          fun below => a + b * below.length).sum ≤ (depth + 1) * ((a + b) * g.2.length) := by
      intro g hg
      have htails : 1 ≤ g.2.length := length_pos_of_mem_groupByFirst hg
      split
      · exact Nat.zero_le _
      · have hbelow := ih g.2
        have hnode : a + b * g.2.length ≤ (a + b) * g.2.length := by
          rw [Nat.add_mul]
          exact Nat.add_le_add_right (Nat.le_mul_of_pos_right a htails) _
        rw [List.map_cons, List.sum_cons, Nat.succ_mul]
        omega
    calc ((subtrees (depth + 1) sequences).map fun below => a + b * below.length).sum
      _ ≤ ((groupByFirst sequences).map fun g => (depth + 1) * ((a + b) * g.2.length)).sum :=
      sum_flatMap_le hgroup
      _ = (depth + 1) * ((a + b) * ((groupByFirst sequences).map fun g => g.2.length).sum) := by
        rw [List.sum_map_mul_left, List.sum_map_mul_left]
      _ ≤ (depth + 1) * ((a + b) * sequences.length) :=
        Nat.mul_le_mul_left _ (Nat.mul_le_mul_left _ (sum_groupByFirst_le sequences))

/-! ## 4. Memory -/

theorem nodeSize_le (sequences : List ByteSequence) :
    nodeSize sequences ≤ 32 + 8 * sequences.length := by
  have hgroups := length_groupByFirst_le sequences
  simp only [nodeSize, stateSize, transitionSize]
  omega

theorem treeNodes_le (sequences : List ByteSequence) :
    treeNodes sequences ≤ 5 * sequences.length := by
  have hbelow : ((subtrees 4 sequences).map fun below => (groupByFirst below).length).sum ≤
      4 * (1 * sequences.length) := by
    refine Nat.le_trans (List.sum_le_sum fun below _ => ?_) (sum_subtrees_le 0 1 4 sequences)
    have hgroups := length_groupByFirst_le below
    omega
  have hroot := length_groupByFirst_le sequences
  rw [treeNodes, foldl_add_eq_sum, List.map_cons, List.sum_cons]
  omega

/-- The tree of a set with so many sequences. -/
theorem treeSize_le (direction : Direction) (s : CharSet) :
    setSize.treeSize direction s ≤ 64 + 168 * (setSequences s).length := by
  unfold setSize.treeSize
  simp only
  split
  · have hnodes : ((subtrees 4 (setSequences s)).eraseDups.map nodeSize).sum ≤
        4 * (40 * (setSequences s).length) := by
      have hkept : ((subtrees 4 (setSequences s)).eraseDups.map nodeSize).sum ≤
          ((subtrees 4 (setSequences s)).map nodeSize).sum :=
        ((eraseDups_sublist _).map nodeSize).sum_le_sum fun _ _ => Nat.zero_le _
      refine Nat.le_trans hkept (Nat.le_trans (List.sum_le_sum fun below _ => nodeSize_le below) ?_)
      exact sum_subtrees_le 32 8 4 (setSequences s)
    have hroot := nodeSize_le (setSequences s)
    rw [foldl_add_eq_sum]
    simp only [stateSize]
    omega
  · have hnodes := treeNodes_le (setSequences s)
    simp only [stateSize, alternativeSize]
    omega

theorem length_utf8Bytes_le (c : Nat) : (utf8Bytes c).length ≤ 4 := by
  unfold utf8Bytes
  split
  · exact Nat.le_add_left 1 3
  · split
    · exact Nat.le_add_left 2 2
    · split
      · exact Nat.le_add_left 3 1
      · exact Nat.le_refl 4

/-- **The memory of a set is linear in its code points**, in either direction. -/
theorem setSize_le (direction : Direction) (s : CharSet) :
    setSize direction s ≤ 128 + 168 * s.spread := by
  have htree := treeSize_le direction s
  have hsequences := length_setSequences_le s
  unfold setSize
  split
  · rename_i first last _
    split
    · have hbytes := length_utf8Bytes_le first
      simp only [stateSize]
      omega
    · omega
  · omega

end Pattern

end PrivacyAudit
