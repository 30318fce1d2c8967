import Mathlib.Data.List.Nodup
import PrivacyAudit.Proofs.Stored

/-!
# What a store makes room for

The queue of a store lists the keys of its entries, each once, and there are no more entries than
the store may hold (`Store.Sound`). All operations keep this.

`Store.Sound.insert_cases` says once what an insertion can do, and everything else follows from it:

* under a key that is there the entry is replaced, and the queue stays as it is;
* a new key comes to the end of the queue;
* if the store was full, the key at the head of the queue goes with its entry, and no other. The key
  that was just put in is never the one that goes, for it is the last of the queue and not its only
  one.
-/

namespace PrivacyAudit.Store

variable {α : Type} {s : Store α}

/-! ## 1. Sound stores -/

/-- A store whose queue lists the keys of its entries, each once, and that holds no more than it
may. -/
structure Sound (s : Store α) : Prop where
  nodup : s.queue.Nodup
  mem_queue_iff : ∀ key, key ∈ s.queue ↔ key ∈ s.entries
  size_le : s.size ≤ s.capacity

/-- As many keys are in the queue as there are entries. -/
theorem Sound.length_queue (h : s.Sound) : s.queue.length = s.size := by
  have hperm : s.queue.Perm s.entries.keys := by
    refine (List.perm_ext_iff_of_nodup h.nodup Std.HashMap.nodup_keys).mpr fun key => ?_
    rw [h.mem_queue_iff, Std.HashMap.mem_keys]
  rw [hperm.length_eq, Std.HashMap.length_keys]
  rfl

theorem sound_empty (lifetime capacity : Nat) : (empty lifetime capacity : Store α).Sound where
  nodup := List.nodup_nil
  mem_queue_iff key := iff_of_false List.not_mem_nil Std.HashMap.not_mem_empty
  size_le := by
    show (∅ : Std.HashMap String (Stored α)).size ≤ capacity
    rw [Std.HashMap.size_empty]
    exact Nat.zero_le _

theorem size_clear (s : Store α) : s.clear.size = 0 := Std.HashMap.size_empty

theorem sound_clear (s : Store α) : s.clear.Sound :=
  let h := sound_empty (α := α) s.lifetime s.capacity
  ⟨h.nodup, h.mem_queue_iff, h.size_le⟩

/-! ## 2. Insertions -/

/-- An insertion is what eviction leaves of the store with the entry in it. -/
theorem insert_of_evict {now : Moment} {key : String} {value : α} {queue queue' : List String}
    {entries : Std.HashMap String (Stored α)}
    (hqueue : (if s.entries.contains key then s.queue else s.queue ++ [key]) = queue)
    (hevict : evict s.capacity queue (s.entries.insert key ⟨value, now⟩) = (entries, queue')) :
    s.insert now key value = { s with entries, queue := queue' } := by
  subst hqueue
  unfold insert
  simp only [hevict]

/-- Where there is one entry too many, the key at the head of the queue goes and no other. -/
theorem evict_of_eq {capacity : Nat} {oldest : String} {queue : List String}
    {entries : Std.HashMap String (Stored α)} (hmem : oldest ∈ entries)
    (hsize : entries.size = capacity + 1) :
    evict capacity (oldest :: queue) entries = (entries.erase oldest, queue) := by
  rw [evict, if_pos (by omega)]
  refine evict_of_le ?_
  rw [Std.HashMap.size_erase, if_pos hmem]
  omega

/-- **What an insertion does**: it replaces the entry under a key that is there, it appends a new
key, or it appends a new key to a full store, which loses the key that came in first. -/
theorem Sound.insert_cases (h : s.Sound) (hcapacity : 0 < s.capacity) (now : Moment) (key : String)
    (value : α) : (key ∈ s.entries ∧
      s.insert now key value = { s with entries := s.entries.insert key ⟨value, now⟩ }) ∨
    (key ∉ s.entries ∧ s.size < s.capacity ∧
      s.insert now key value =
        { s with entries := s.entries.insert key ⟨value, now⟩, queue := s.queue ++ [key] }) ∨
    (key ∉ s.entries ∧ s.size = s.capacity ∧ ∃ oldest rest, s.queue = oldest :: rest ∧
      oldest ≠ key ∧
      s.insert now key value =
        { s with
          entries := (s.entries.insert key ⟨value, now⟩).erase oldest
          queue := rest ++ [key] }) := by
  have hle : s.entries.size ≤ s.capacity := h.size_le
  by_cases hkey : key ∈ s.entries
  · have hsize : (s.entries.insert key ⟨value, now⟩).size = s.entries.size := by
      rw [Std.HashMap.size_insert, if_pos hkey]
    exact .inl ⟨hkey,
      insert_of_evict (if_pos (Std.HashMap.mem_iff_contains.mp hkey)) (evict_of_le (by omega))⟩
  · have hsize : (s.entries.insert key ⟨value, now⟩).size = s.entries.size + 1 := by
      rw [Std.HashMap.size_insert, if_neg hkey]
    have hqueue : (if s.entries.contains key then s.queue else s.queue ++ [key]) =
        s.queue ++ [key] :=
      if_neg fun hcontains => hkey (Std.HashMap.mem_iff_contains.mpr hcontains)
    by_cases hroom : s.entries.size < s.capacity
    · exact .inr (.inl ⟨hkey, hroom, insert_of_evict hqueue (evict_of_le (by omega))⟩)
    · have hlength : s.queue.length = s.entries.size := h.length_queue
      -- The store is full and may hold something, so there is a key to go, and it is an old one.
      have hpos : 0 < s.queue.length := by omega
      obtain ⟨oldest, rest, hcons⟩ := List.exists_cons_of_length_pos hpos
      have holdest : oldest ∈ s.entries := (h.mem_queue_iff oldest).mp (hcons ▸ List.mem_cons_self)
      have hmem : oldest ∈ s.entries.insert key ⟨value, now⟩ :=
        Std.HashMap.mem_insert.mpr (.inr holdest)
      rw [hcons, List.cons_append] at hqueue
      exact .inr (.inr ⟨hkey, Nat.le_antisymm hle (Nat.le_of_not_lt hroom), oldest, rest, hcons,
        fun heq => hkey (heq ▸ holdest),
        insert_of_evict (hcons ▸ hqueue) (evict_of_eq hmem (by omega))⟩)

namespace Sound

variable (h : s.Sound) (hcapacity : 0 < s.capacity) (now : Moment) (key : String) (value : α)

include h hcapacity

/-- What was put in is there, even if the store was full. -/
theorem getElem?_insert_self : (s.insert now key value).entries[key]? = some ⟨value, now⟩ := by
  obtain ⟨-, hinsert⟩ | ⟨-, -, hinsert⟩ | ⟨-, -, oldest, rest, -, hne, hinsert⟩ :=
    h.insert_cases hcapacity now key value
  · rw [hinsert]
    exact Std.HashMap.getElem?_insert_self
  · rw [hinsert]
    exact Std.HashMap.getElem?_insert_self
  · rw [hinsert]
    show ((s.entries.insert key ⟨value, now⟩).erase oldest)[key]? = _
    rw [Std.HashMap.getElem?_erase, if_neg (by simpa using hne), Std.HashMap.getElem?_insert_self]

/-- A new key makes the store larger by one, until it is full. -/
theorem size_insert :
    (s.insert now key value).size = if key ∈ s.entries then s.size
      else min s.capacity (s.size + 1) := by
  have hle : s.entries.size ≤ s.capacity := h.size_le
  obtain ⟨hkey, hinsert⟩ | ⟨hkey, hroom, hinsert⟩ |
    ⟨hkey, hfull, oldest, rest, hqueue, -, hinsert⟩ :=
    h.insert_cases hcapacity now key value
  · rw [hinsert, if_pos hkey]
    show (s.entries.insert key ⟨value, now⟩).size = s.entries.size
    rw [Std.HashMap.size_insert, if_pos hkey]
  · rw [hinsert, if_neg hkey]
    show (s.entries.insert key ⟨value, now⟩).size = _
    rw [Std.HashMap.size_insert, if_neg hkey]
    unfold size at hroom ⊢
    omega
  · have holdest : oldest ∈ s.entries.insert key ⟨value, now⟩ :=
      Std.HashMap.mem_insert.mpr (.inr ((h.mem_queue_iff oldest).mp (hqueue ▸ List.mem_cons_self)))
    rw [hinsert, if_neg hkey]
    show ((s.entries.insert key ⟨value, now⟩).erase oldest).size = _
    rw [Std.HashMap.size_erase, if_pos holdest, Std.HashMap.size_insert, if_neg hkey]
    unfold size at hfull ⊢
    omega

/-- **Insertions keep a store sound.** -/
theorem insert : (s.insert now key value).Sound := by
  have hnew : ∀ {k}, k ∈ s.entries.insert key ⟨value, now⟩ ↔ k = key ∨ k ∈ s.entries := by
    intro k
    rw [Std.HashMap.mem_insert, beq_iff_eq, eq_comm]
  have hbound : (s.insert now key value).size ≤ s.capacity := by
    have hle := h.size_le
    rw [h.size_insert hcapacity]
    split
    · exact hle
    · exact Nat.min_le_left _ _
  obtain ⟨hkey, hinsert⟩ | ⟨hkey, -, hinsert⟩ | ⟨hkey, -, oldest, rest, hqueue, hne, hinsert⟩ :=
    h.insert_cases hcapacity now key value
  · rw [hinsert] at hbound ⊢
    refine ⟨h.nodup, fun k => ?_, hbound⟩
    show k ∈ s.queue ↔ k ∈ s.entries.insert key ⟨value, now⟩
    rw [hnew, h.mem_queue_iff]
    exact ⟨.inr, fun hk => hk.elim (fun heq => heq ▸ hkey) id⟩
  · rw [hinsert] at hbound ⊢
    refine ⟨?_, fun k => ?_, hbound⟩
    · show (s.queue ++ [key]).Nodup
      rw [← List.concat_eq_append]
      exact List.Nodup.concat (fun hk => hkey ((h.mem_queue_iff key).mp hk)) h.nodup
    · show k ∈ s.queue ++ [key] ↔ k ∈ s.entries.insert key ⟨value, now⟩
      rw [hnew, List.mem_append, List.mem_singleton, h.mem_queue_iff, or_comm]
  · have hnodup := h.nodup
    rw [hqueue] at hnodup
    obtain ⟨holdest, hrest⟩ := List.nodup_cons.mp hnodup
    have hmem : ∀ k, k ∈ rest ↔ k ≠ oldest ∧ k ∈ s.entries := by
      intro k
      rw [← h.mem_queue_iff, hqueue, List.mem_cons]
      constructor
      · intro hk
        exact ⟨fun heq => holdest (heq ▸ hk), .inr hk⟩
      · intro hk
        exact hk.2.resolve_left hk.1
    rw [hinsert] at hbound ⊢
    refine ⟨?_, fun k => ?_, hbound⟩
    · show (rest ++ [key]).Nodup
      rw [← List.concat_eq_append]
      exact List.Nodup.concat (fun hk => hkey ((hmem key).mp hk).2) hrest
    · show k ∈ rest ++ [key] ↔ k ∈ (s.entries.insert key ⟨value, now⟩).erase oldest
      rw [Std.HashMap.mem_erase, hnew, List.mem_append, List.mem_singleton, hmem,
        beq_eq_false_iff_ne]
      constructor
      · intro hk
        rcases hk with ⟨hk, hold⟩ | rfl
        · exact ⟨Ne.symm hk, .inr hold⟩
        · exact ⟨hne, .inl rfl⟩
      · intro hk
        rcases hk with ⟨hk, rfl | hold⟩
        · exact .inr rfl
        · exact .inl ⟨Ne.symm hk, hold⟩

end Sound

end PrivacyAudit.Store
