import PrivacyAudit.Proofs.Capacity

/-!
# A store as a queue

Seen from outside a store is one list of keys with their entries, the key that came in first at the
head (`Shelf`). An entry that is put under a key of the list takes the place of the old one; under a
new key it comes to the end, and the head goes if the list is then too long (`Shelf.put`). Nothing
else takes anything away but clearing.

* `Store.Shows s l`: the store holds what the list holds, in the same order;
* `Store.evictions`: which keys an eviction takes away, and whether its queue runs out too early;
* `Store.Shows.perform`, `Store.Shows.run`: one operation and a whole run of them are answered by
  the store and by the list alike, and what they leave behind are a store and a list that hold the
  same;
* `Store.runs_as_shelf`: all of it, for every run that begins with an empty store.
-/

namespace PrivacyAudit

/-! ## 1. Shelves -/

/-- Keys with their entries, the key that came in first at the head. -/
abbrev Shelf (α : Type) := List (String × Stored α)

namespace Shelf

variable {α : Type}

/-- The shelf with an entry under a key: a key that is there keeps its place, a new one comes to the
end, and the head goes if there are then more than `capacity`. -/
def put (capacity : Nat) (l : Shelf α) (key : String) (e : Stored α) : Shelf α :=
  if key ∈ l.map (·.1) then l.map fun p => if p.1 = key then (key, e) else p
  else if capacity < l.length + 1 then (l ++ [(key, e)]).tail
  else l ++ [(key, e)]

/-- The value under a key, if it was put in less than `lifetime` ago. -/
def get? (lifetime : Nat) (l : Shelf α) (now : Moment) (key : String) : Option α :=
  (l.find? fun p => p.1 = key ∧ now < p.2.since + lifetime).map (·.2.value)

/-- Nothing on the shelf is from later than a moment. -/
def Until (now : Moment) (l : Shelf α) : Prop := ∀ p ∈ l, p.2.since ≤ now

section Put

variable {capacity : Nat} {l : Shelf α} {key : String} {e : Stored α}

theorem put_of_mem (h : key ∈ l.map (·.1)) :
    l.put capacity key e = l.map fun p => if p.1 = key then (key, e) else p := if_pos h

theorem put_of_room (h : key ∉ l.map (·.1)) (hroom : l.length < capacity) :
    l.put capacity key e = l ++ [(key, e)] := by
  rw [put, if_neg h, if_neg (by omega)]

theorem put_of_full {first : String × Stored α} (h : key ∉ (first :: l).map (·.1))
    (hfull : capacity < l.length + 2) :
    Shelf.put capacity (first :: l) key e = l ++ [(key, e)] := by
  rw [put, if_neg h, List.length_cons, if_pos (by omega), List.cons_append, List.tail_cons]

/-- Putting an entry in the place of another one keeps the keys. -/
theorem keys_put_of_mem (h : key ∈ l.map (·.1)) :
    (l.put capacity key e).map (·.1) = l.map (·.1) := by
  rw [put_of_mem h, List.map_map]
  refine List.map_congr_left fun p _ => ?_
  show (if p.1 = key then (key, e) else p).1 = p.1
  split
  · rename_i hp
    exact hp.symm
  · rfl

theorem mem_put {p : String × Stored α} (h : p ∈ l.put capacity key e) : p = (key, e) ∨ p ∈ l := by
  unfold put at h
  split at h
  · obtain ⟨q, hq, rfl⟩ := List.mem_map.mp h
    by_cases hkey : q.1 = key
    · exact .inl (if_pos hkey)
    · exact .inr ((if_neg hkey).symm ▸ hq)
  · have happended : p ∈ l ++ [(key, e)] := by
      split at h
      · exact List.mem_of_mem_tail h
      · exact h
    rcases List.mem_append.mp happended with hold | hnew
    · exact .inr hold
    · exact .inl (List.mem_singleton.mp hnew)

theorem Until.put {now : Moment} (h : l.Until now) (he : e.since ≤ now) :
    (l.put capacity key e).Until now := by
  intro p hp
  rcases mem_put hp with rfl | hold
  · exact he
  · exact h p hold

end Put

/-- A value is found if and only if it is on the shelf and young enough. -/
theorem get?_eq_some_iff {l : Shelf α} (hnodup : (l.map (·.1)).Nodup) {lifetime : Nat}
    {now : Moment} {key : String} {value : α} : l.get? lifetime now key = some value ↔
      ∃ e, (key, e) ∈ l ∧ now < e.since + lifetime ∧ e.value = value := by
  unfold get?
  rw [Option.map_eq_some_iff]
  constructor
  · intro hfound
    obtain ⟨p, hp, hvalue⟩ := hfound
    have htest := List.find?_some hp
    obtain ⟨rfl, hyoung⟩ := of_decide_eq_true htest
    exact ⟨p.2, List.mem_of_find?_eq_some hp, hyoung, hvalue⟩
  · intro hfound
    obtain ⟨e, hmem, hyoung, hvalue⟩ := hfound
    have hsome : (l.find? fun p => p.1 = key ∧ now < p.2.since + lifetime).isSome := by
      rw [List.find?_isSome]
      exact ⟨(key, e), hmem, decide_eq_true ⟨rfl, hyoung⟩⟩
    obtain ⟨p, hp⟩ := Option.isSome_iff_exists.mp hsome
    have htest := List.find?_some hp
    have hsame : p = (key, e) :=
      List.inj_on_of_nodup_map hnodup (List.mem_of_find?_eq_some hp) hmem
        (of_decide_eq_true htest).1
    exact ⟨p, hp, hsame ▸ hvalue⟩

end Shelf

/-! ## 2. Operations -/

/-- What is done with a store. -/
inductive StoreOperation (α : Type)
  | insert (key : String) (value : α)
  | get (key : String)
  | clear
  deriving DecidableEq, Repr

/-- What a store answers to an operation, and the store behind it. -/
def Store.perform {α : Type} (s : Store α) (now : Moment) : StoreOperation α → Option α × Store α
  | .insert key value => (none, s.insert now key value)
  | .get key => (s.get? now key, s)
  | .clear => (none, s.clear)

/-- What a shelf of `capacity` keys answers to an operation, and the shelf behind it. -/
def Shelf.perform {α : Type} (lifetime capacity : Nat) (l : Shelf α) (now : Moment) :
    StoreOperation α → Option α × Shelf α
  | .insert key value => (none, l.put capacity key ⟨value, now⟩)
  | .get key => (l.get? lifetime now key, l)
  | .clear => (none, [])

/-- The answers to operations that are done one after the other, each at its moment, and what they
leave behind. -/
def runOperations {α σ : Type} (perform : σ → Moment → StoreOperation α → Option α × σ) :
    σ → List (Moment × StoreOperation α) → List (Option α) × σ
  | state, [] => ([], state)
  | state, (now, operation) :: rest =>
    let (answer, state) := perform state now operation
    let (answers, state) := runOperations perform state rest
    (answer :: answers, state)

namespace Store

variable {α : Type} {s : Store α} {l : Shelf α}

/-! ## 3. Evictions -/

/-- The keys that an eviction takes away, and whether its queue runs out while there are still too
many entries. -/
def evictions (capacity : Nat) : List String → Std.HashMap String (Stored α) → List String × Bool
  | [], entries => ([], capacity < entries.size)
  | oldest :: queue, entries =>
    if capacity < entries.size then
      let (gone, ranOut) := evictions capacity queue (entries.erase oldest)
      (oldest :: gone, ranOut)
    else ([], false)

/-- Eviction takes these keys and no others, from the head of the queue and with their entries. -/
theorem evict_eq_evictions (capacity : Nat) (queue : List String)
    (entries : Std.HashMap String (Stored α)) :
    ∃ rest, queue = (evictions capacity queue entries).1 ++ rest ∧
      evict capacity queue entries =
        ((evictions capacity queue entries).1.foldl .erase entries, rest) := by
  induction queue generalizing entries with
  | nil => exact ⟨[], rfl, rfl⟩
  | cons oldest queue ih =>
    unfold evictions evict
    by_cases hmany : capacity < entries.size
    · obtain ⟨rest, hqueue, hevict⟩ := ih (entries.erase oldest)
      rw [if_pos hmany, if_pos hmany]
      exact ⟨rest, congrArg (oldest :: ·) hqueue, hevict⟩
    · rw [if_neg hmany, if_neg hmany]
      exact ⟨oldest :: queue, rfl, rfl⟩

/-- The queue with a key that is put in. -/
def queueWith (s : Store α) (key : String) : List String :=
  if s.entries.contains key then s.queue else s.queue ++ [key]

/-- The keys that the insertion of a value takes away, and whether the queue runs out over it. -/
def evictionsOf (s : Store α) (now : Moment) (key : String) (value : α) : List String × Bool :=
  evictions s.capacity (s.queueWith key) (s.entries.insert key ⟨value, now⟩)

/-- What is left behind an insertion is the store with the entry, without these keys. -/
theorem insert_eq_evictionsOf (s : Store α) (now : Moment) (key : String) (value : α) :
    ∃ rest, s.queueWith key = (s.evictionsOf now key value).1 ++ rest ∧
      s.insert now key value =
        { s with
          entries := (s.evictionsOf now key value).1.foldl .erase
            (s.entries.insert key ⟨value, now⟩)
          queue := rest } := by
  obtain ⟨rest, hqueue, hevict⟩ :=
    evict_eq_evictions s.capacity (s.queueWith key) (s.entries.insert key ⟨value, now⟩)
  exact ⟨rest, hqueue, insert_of_evict rfl hevict⟩

/-- Where the entries fit, nothing goes. -/
theorem evictions_of_le {capacity : Nat} {queue : List String}
    {entries : Std.HashMap String (Stored α)} (h : entries.size ≤ capacity) :
    evictions capacity queue entries = ([], false) := by
  cases queue with
  | nil =>
    have hfits : decide (capacity < entries.size) = false := decide_eq_false (by omega)
    rw [evictions, hfits]
  | cons oldest queue => rw [evictions, if_neg (by omega)]

/-- **An insertion takes away at most one key**, never the one that was put in, and the queue does
not run out over it. -/
theorem Sound.evictionsOf_insert (h : s.Sound) (hcapacity : 0 < s.capacity) (now : Moment)
    (key : String) (value : α) :
    ∃ gone, s.evictionsOf now key value = (gone, false) ∧ gone.length ≤ 1 ∧ key ∉ gone := by
  have hle : s.entries.size ≤ s.capacity := h.size_le
  have hlength : s.queue.length = s.entries.size := h.length_queue
  have hsize : (s.entries.insert key ⟨value, now⟩).size =
      if key ∈ s.entries then s.entries.size else s.entries.size + 1 := Std.HashMap.size_insert
  unfold evictionsOf queueWith
  by_cases hfits : (s.entries.insert key ⟨value, now⟩).size ≤ s.capacity
  · exact ⟨[], evictions_of_le hfits, by simp, by simp⟩
  · -- The key is new and the store full, so the head of its queue is an old key, and one is enough.
    have hnew : key ∉ s.entries := by
      intro hkey
      rw [if_pos hkey] at hsize
      omega
    rw [if_neg hnew] at hsize
    obtain ⟨oldest, rest, hqueue⟩ :=
      List.exists_cons_of_length_pos (show 0 < s.queue.length by omega)
    have holdest : oldest ∈ s.entries := (h.mem_queue_iff oldest).mp (hqueue ▸ List.mem_cons_self)
    have hne : oldest ≠ key := fun heq => hnew (heq ▸ holdest)
    have hless : ((s.entries.insert key ⟨value, now⟩).erase oldest).size ≤ s.capacity := by
      have hmem : oldest ∈ s.entries.insert key ⟨value, now⟩ :=
        Std.HashMap.mem_insert.mpr (.inr holdest)
      rw [Std.HashMap.size_erase, if_pos hmem]
      omega
    have hcontains : ¬ s.entries.contains key = true :=
      fun hc => hnew (Std.HashMap.mem_iff_contains.mpr hc)
    refine ⟨[oldest], ?_, Nat.le_refl 1, fun hmem => hne (List.mem_singleton.mp hmem).symm⟩
    rw [if_neg hcontains, hqueue, List.cons_append, evictions,
      if_pos (by omega), evictions_of_le hless]

/-! ## 4. What a store shows -/

/-- The keys of the queue with their entries. -/
def contents (s : Store α) : Shelf α := s.queue.filterMap fun key => s.entries[key]?.map (key, ·)

/-- A store holds what a shelf holds, in the same order. -/
structure Shows (s : Store α) (l : Shelf α) : Prop where
  sound : s.Sound
  queue : s.queue = l.map (·.1)
  entry : ∀ p ∈ l, s.entries[p.1]? = some p.2

theorem shows_empty (lifetime capacity : Nat) : (empty lifetime capacity : Store α).Shows [] where
  sound := sound_empty lifetime capacity
  queue := rfl
  entry _ hp := absurd hp List.not_mem_nil

namespace Shows

theorem nodup (h : s.Shows l) : (l.map (·.1)).Nodup := h.queue ▸ h.sound.nodup

theorem length_eq_size (h : s.Shows l) : l.length = s.size := by
  rw [← h.sound.length_queue, h.queue, List.length_map]

theorem mem_keys_iff (h : s.Shows l) {key : String} : key ∈ l.map (·.1) ↔ key ∈ s.entries := by
  rw [← h.queue, h.sound.mem_queue_iff]

/-- The entries of the store are those on the shelf. -/
theorem mem_iff (h : s.Shows l) {key : String} {e : Stored α} :
    (key, e) ∈ l ↔ s.entries[key]? = some e := by
  constructor
  · exact h.entry (key, e)
  · intro he
    have hkey : key ∈ s.entries := by
      rw [Std.HashMap.mem_iff_isSome_getElem?, he]
      rfl
    obtain ⟨p, hp, rfl⟩ := List.mem_map.mp (h.mem_keys_iff.mpr hkey)
    obtain rfl : p.2 = e := Option.some.inj ((h.entry p hp).symm.trans he)
    exact hp

/-- What a store shows is what it holds. -/
theorem contents_eq (h : s.Shows l) : s.contents = l := by
  unfold contents
  rw [h.queue, List.filterMap_map]
  have hentry : ∀ p ∈ l, ((fun key => s.entries[key]?.map (key, ·)) ∘ (·.1)) p = some p := by
    intro p hp
    show s.entries[p.1]?.map (p.1, ·) = some p
    rw [h.entry p hp]
    rfl
  rw [List.filterMap_congr hentry, List.filterMap_some]

/-- Where an entry takes the place of another one, there are the others and this one. -/
theorem getElem?_insert_of_mem (h : s.Shows l) (key : String) (e : Stored α) :
    ∀ p ∈ l.map fun p => if p.1 = key then (key, e) else p, (s.entries.insert key e)[p.1]? =
      some p.2 := by
  intro p hp
  obtain ⟨old, hold, rfl⟩ := List.mem_map.mp hp
  by_cases hsame : old.1 = key
  · rw [if_pos hsame, Std.HashMap.getElem?_insert_self]
  · rw [if_neg hsame, Std.HashMap.getElem?_insert,
      if_neg (by simpa using Ne.symm hsame), h.entry old hold]

/-- Where an entry is put under a new key, there are the entries of before and this one. -/
theorem getElem?_insert_of_new (h : s.Shows l) {key : String} (hnew : key ∉ s.entries)
    (e : Stored α) : ∀ p ∈ l ++ [(key, e)], (s.entries.insert key e)[p.1]? = some p.2 := by
  intro p hp
  rcases List.mem_append.mp hp with hold | hlast
  · have hother : key ≠ p.1 := fun heq => hnew (heq ▸ h.mem_keys_iff.mp (List.mem_map_of_mem hold))
    rw [Std.HashMap.getElem?_insert, if_neg (by simpa using hother), h.entry p hold]
  · obtain rfl := List.mem_singleton.mp hlast
    exact Std.HashMap.getElem?_insert_self

/-- Where the head goes then, there are the others and this one. -/
theorem getElem?_erase_head {first : String × Stored α} (h : s.Shows (first :: l)) {key : String}
    (hnew : key ∉ s.entries) (e : Stored α) :
    ∀ p ∈ l ++ [(key, e)], ((s.entries.insert key e).erase first.1)[p.1]? = some p.2 := by
  intro p hp
  -- The key that goes is neither the one put in nor another one of the queue.
  have hstays : first.1 ≠ p.1 := by
    intro heq
    rcases List.mem_append.mp hp with hold | hlast
    · have hnodup := h.nodup
      rw [List.map_cons, List.nodup_cons, heq] at hnodup
      exact hnodup.1 (List.mem_map_of_mem hold)
    · have hfirst : first.1 ∈ s.entries :=
        h.mem_keys_iff.mp (List.mem_map_of_mem List.mem_cons_self)
      rw [heq, List.mem_singleton.mp hlast] at hfirst
      exact hnew hfirst
  rw [Std.HashMap.getElem?_erase, if_neg (by simpa using hstays)]
  exact h.getElem?_insert_of_new hnew e p (List.mem_cons_of_mem first hp)

/-- The store behind an insertion shows the shelf with the entry put on it. -/
theorem insert (h : s.Shows l) (hcapacity : 0 < s.capacity) (now : Moment) (key : String)
    (value : α) : (s.insert now key value).Shows (l.put s.capacity key ⟨value, now⟩) := by
  have hsound := h.sound.insert hcapacity now key value
  have hlength := h.length_eq_size
  obtain ⟨hkey, hinsert⟩ | ⟨hkey, hroom, hinsert⟩ |
    ⟨hkey, hfull, oldest, rest, hqueue, -, hinsert⟩ :=
    h.sound.insert_cases hcapacity now key value
  · have hmem := h.mem_keys_iff.mpr hkey
    refine ⟨hsound, ?_, ?_⟩
    · rw [hinsert, Shelf.keys_put_of_mem hmem]
      exact h.queue
    · rw [hinsert, Shelf.put_of_mem hmem]
      exact h.getElem?_insert_of_mem key ⟨value, now⟩
  · have hnew : key ∉ l.map (·.1) := fun hmem => hkey (h.mem_keys_iff.mp hmem)
    rw [Shelf.put_of_room hnew (hlength ▸ hroom)]
    refine ⟨hsound, ?_, ?_⟩
    · rw [hinsert, List.map_append, ← h.queue]
      rfl
    · rw [hinsert]
      exact h.getElem?_insert_of_new hkey ⟨value, now⟩
  · obtain ⟨first, later, rfl⟩ : ∃ first later, l = first :: later := by
      refine List.exists_cons_of_ne_nil fun hnil => ?_
      rw [h.queue, hnil] at hqueue
      cases hqueue
    obtain ⟨rfl, hlater⟩ : first.1 = oldest ∧ later.map (·.1) = rest :=
      List.cons.inj (h.queue.symm.trans hqueue)
    have hnew : key ∉ (first :: later).map (·.1) := fun hmem => hkey (h.mem_keys_iff.mp hmem)
    have hmany : s.capacity < later.length + 2 := by
      rw [List.length_cons] at hlength
      omega
    rw [Shelf.put_of_full hnew hmany]
    refine ⟨hsound, ?_, ?_⟩
    · rw [hinsert, List.map_append, hlater]
      rfl
    · rw [hinsert]
      exact h.getElem?_erase_head hkey ⟨value, now⟩

theorem clear (s : Store α) : s.clear.Shows [] where
  sound := sound_clear s
  queue := rfl
  entry _ hp := absurd hp List.not_mem_nil

/-- A value is answered if and only if it is on the shelf and was put in less than the lifetime
ago. -/
theorem get?_eq_some_iff (h : s.Shows l) {now : Moment} (hl : l.Until now) (key : String)
    (value : α) :
    s.get? now key = some value ↔
      ∃ e, (key, e) ∈ l ∧ now < e.since + s.lifetime ∧ e.value = value := by
  simp only [h.mem_iff]
  unfold get?
  cases he : s.entries[key]? with
  | none => simp
  | some e =>
    have hage : now - e.since < s.lifetime ↔ now < e.since + s.lifetime :=
      Nat.sub_lt_iff_lt_add' (hl _ (h.mem_iff.mpr he))
    simp only [hage, Option.ite_none_right_eq_some, Option.some.injEq, exists_eq_left']

/-- The store and the shelf answer alike. -/
theorem get?_eq (h : s.Shows l) {now : Moment} (hl : l.Until now) (key : String) :
    s.get? now key = l.get? s.lifetime now key := by
  refine Option.ext fun value => ?_
  rw [h.get?_eq_some_iff hl, Shelf.get?_eq_some_iff h.nodup]

/-! ## 5. Runs -/

/-- **One operation**: the store and the shelf answer alike, and the store behind it shows the shelf
behind it. -/
theorem perform (h : s.Shows l) (hcapacity : 0 < s.capacity) {now : Moment} (hl : l.Until now)
    (operation : StoreOperation α) :
    (s.perform now operation).1 = (l.perform s.lifetime s.capacity now operation).1 ∧
      (s.perform now operation).2.Shows (l.perform s.lifetime s.capacity now operation).2 ∧
      (s.perform now operation).2.lifetime = s.lifetime ∧
      (s.perform now operation).2.capacity = s.capacity := by
  cases operation with
  | insert key value => exact ⟨rfl, h.insert hcapacity now key value, rfl, rfl⟩
  | get key => exact ⟨h.get?_eq hl key, h, rfl, rfl⟩
  | clear => exact ⟨rfl, Shows.clear s, rfl, rfl⟩

/-- **A run of operations**, none of which is done at an earlier moment than one before it. -/
theorem run {operations : List (Moment × StoreOperation α)} (h : s.Shows l)
    (hcapacity : 0 < s.capacity) (hl : ∀ operation ∈ operations, l.Until operation.1)
    (htimes : (operations.map (·.1)).Pairwise (· ≤ ·)) :
    (runOperations Store.perform s operations).1 =
        (runOperations (Shelf.perform s.lifetime s.capacity) l operations).1 ∧
      (runOperations Store.perform s operations).2.Shows
        (runOperations (Shelf.perform s.lifetime s.capacity) l operations).2 ∧
      (runOperations Store.perform s operations).2.lifetime = s.lifetime ∧
      (runOperations Store.perform s operations).2.capacity = s.capacity := by
  induction operations generalizing s l with
  | nil => exact ⟨rfl, h, rfl, rfl⟩
  | cons first rest ih =>
    obtain ⟨now, operation⟩ := first
    obtain ⟨hnow, hrest⟩ := List.pairwise_cons.mp htimes
    obtain ⟨hanswer, hshows, hlifetime, hcap⟩ :=
      h.perform hcapacity (hl _ List.mem_cons_self) operation
    have hnext : ∀ later ∈ rest,
        (l.perform s.lifetime s.capacity now operation).2.Until later.1 := by
      intro later hlater
      have hold : l.Until later.1 := hl later (List.mem_cons_of_mem _ hlater)
      cases operation with
      | insert key value => exact hold.put (hnow _ (List.mem_map_of_mem hlater))
      | get key => exact hold
      | clear => exact fun p hp => absurd hp List.not_mem_nil
    have hlater := ih hshows (hcap ▸ hcapacity) hnext hrest
    rw [hlifetime, hcap] at hlater
    exact ⟨congrArg₂ List.cons hanswer hlater.1, hlater.2⟩

end Shows

end Store

/-- Whatever is left of a run is from a moment of the run. -/
theorem Shelf.Until.run {α : Type} {l : Shelf α} {now : Moment}
    {operations : List (Moment × StoreOperation α)} (h : l.Until now) (lifetime capacity : Nat)
    (htimes : ∀ operation ∈ operations, operation.1 ≤ now) :
    (runOperations (Shelf.perform lifetime capacity) l operations).2.Until now := by
  induction operations generalizing l with
  | nil => exact h
  | cons first rest ih =>
    obtain ⟨moment, operation⟩ := first
    obtain ⟨hfirst, hrest⟩ := List.forall_mem_cons.mp htimes
    refine ih ?_ hrest
    cases operation with
    | insert key value => exact h.put hfirst
    | get key => exact h
    | clear => exact fun p hp => absurd hp List.not_mem_nil

/-- A store acts as a shelf of `capacity` keys at a moment and later. -/
structure Store.ActsAs {α : Type} (s : Store α) (lifetime capacity : Nat) (l : Shelf α)
    (since : Moment) : Prop where
  /-- The queue has no key twice. -/
  nodup : s.queue.Nodup
  /-- The queue has exactly the keys of the entries. -/
  keys : ∀ key, key ∈ s.queue ↔ key ∈ s.entries
  /-- The queue with its entries is the shelf. -/
  contents : s.contents = l
  /-- No more is held than may be. -/
  size : s.size ≤ capacity
  /-- A value is found if and only if it is on the shelf and was put in less than the lifetime
  ago. -/
  finds : ∀ now, since ≤ now → ∀ key value,
    s.get? now key = some value ↔ ∃ e, (key, e) ∈ l ∧ now < e.since + lifetime ∧ e.value = value
  /-- Putting in takes away at most one key, from the head of the queue and another one than is put
  in, and never runs out of keys over it. -/
  evicts : ∀ now key value, ∃ gone rest, s.evictionsOf now key value = (gone, false) ∧
    gone.length ≤ 1 ∧ key ∉ gone ∧ s.queueWith key = gone ++ rest ∧
    s.insert now key value =
      { s with entries := gone.foldl .erase (s.entries.insert key ⟨value, now⟩), queue := rest }

/-- **A store is a queue of limited length**: whatever is done with one that was empty, it answers
like the shelf with which the same is done, and behind the run it acts as the shelf behind it. -/
theorem Store.runs_as_shelf {α : Type} (lifetime : Nat) {capacity : Nat} (hcapacity : 1 ≤ capacity)
    {operations : List (Moment × StoreOperation α)}
    (htimes : (operations.map (·.1)).Pairwise (· ≤ ·)) :
    (runOperations Store.perform (.empty lifetime capacity) operations).1 =
        (runOperations (Shelf.perform lifetime capacity) [] operations).1 ∧
      ∀ last, (∀ operation ∈ operations, operation.1 ≤ last) →
        (runOperations Store.perform (.empty lifetime capacity) operations).2.ActsAs
          lifetime capacity
            (runOperations (Shelf.perform lifetime capacity) [] operations).2 last := by
  have hnone : ∀ now, Shelf.Until now ([] : Shelf α) := fun now p hp => absurd hp List.not_mem_nil
  obtain ⟨hanswers, hshows, hlifetime, hcap⟩ :=
    (Store.shows_empty (α := α) lifetime capacity).run hcapacity (fun _ _ => hnone _) htimes
  have hlifetime : (runOperations Store.perform (.empty lifetime capacity) operations).2.lifetime =
      lifetime := hlifetime
  have hcap : (runOperations Store.perform (.empty lifetime capacity) operations).2.capacity =
      capacity := hcap
  refine ⟨hanswers, fun last hlast => ?_⟩
  refine ⟨hshows.sound.nodup, hshows.sound.mem_queue_iff, hshows.contents_eq, ?_,
    fun now hnow key value => ?_, fun now key value => ?_⟩
  · have hsize := hshows.sound.size_le
    rwa [hcap] at hsize
  · have hbefore := (hnone now).run lifetime capacity fun operation hmem =>
      Nat.le_trans (hlast operation hmem) hnow
    have hfinds := hshows.get?_eq_some_iff hbefore key value
    rwa [hlifetime] at hfinds
  · obtain ⟨gone, hgone, hone, hother⟩ :=
      hshows.sound.evictionsOf_insert (hcap.symm ▸ hcapacity) now key value
    obtain ⟨rest, hqueue, hinsert⟩ := insert_eq_evictionsOf _ now key value
    rw [hgone] at hqueue hinsert
    exact ⟨gone, rest, hgone, hone, hother, hqueue, hinsert⟩

/-- Two keys fit. The one that came in first gets another value, and is the first to go
nevertheless; when it comes in again, the other one goes. -/
def comings : List (Moment × StoreOperation Nat) :=
  [(0, .insert "a" 1), (1, .insert "b" 2), (2, .insert "a" 3), (3, .insert "c" 4), (4, .get "a"),
    (4, .get "b"), (5, .insert "a" 5)]

theorem Store.runs_as_shelf_comings :
    (comings.map (·.1)).Pairwise (· ≤ ·) ∧
      (runOperations Store.perform (.empty 9 2) comings).1 =
        [none, none, none, none, none, some 2, none] ∧
      (runOperations Store.perform (.empty 9 2) comings).2.ActsAs 9 2 [("c", ⟨4, 3⟩),
        ("a", ⟨5, 5⟩)] 5 := by
  have htimes : (comings.map (·.1)).Pairwise (· ≤ ·) := by decide
  have hshelf : runOperations (Shelf.perform 9 2) [] comings =
      ([none, none, none, none, none, some 2, none], [("c", ⟨4, 3⟩), ("a", ⟨5, 5⟩)]) := by
      decide +kernel
  obtain ⟨hanswers, hacts⟩ := Store.runs_as_shelf 9 (by decide : 1 ≤ 2) htimes
  rw [hshelf] at hanswers hacts
  exact ⟨htimes, hanswers, hacts 5 (by decide +kernel)⟩

end PrivacyAudit
