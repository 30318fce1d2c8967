import PrivacyAudit.Store

/-!
# What a store holds

Entries come into a store by insertion only, and eviction only takes some away.
-/

namespace PrivacyAudit.Store

variable {α : Type} {s : Store α} {key : String}

theorem getElem?_of_empty {lifetime capacity : Nat} (h : s = .empty lifetime capacity) :
    s.entries[key]? = none := by
  rw [h]
  exact Std.HashMap.getElem?_empty

theorem getElem?_clear : s.clear.entries[key]? = none := Std.HashMap.getElem?_empty

theorem mem_of_get? {now : Moment} {value : α} (h : s.get? now key = some value) :
    ∃ e, s.entries[key]? = some e ∧ e.value = value := by
  unfold get? at h
  split at h
  · rename_i e he
    split at h
    · exact ⟨e, he, Option.some.inj h⟩
    · cases h
  · cases h

/-- What eviction leaves was there before. -/
theorem mem_of_evict {capacity : Nat} {queue : List String}
    {entries : Std.HashMap String (Stored α)} {e : Stored α}
    (h : (evict capacity queue entries).1[key]? = some e) : entries[key]? = some e := by
  induction queue generalizing entries with
  | nil => exact h
  | cons oldest queue ih =>
    unfold evict at h
    split at h
    · have herase := ih h
      rw [Std.HashMap.getElem?_erase] at herase
      split at herase
      · cases herase
      · exact herase
    · exact h

/-- An entry behind an insertion is the one put in, or it was there before. -/
theorem mem_of_insert {now : Moment} {new : String} {value : α} {e : Stored α}
    (h : (s.insert now new value).entries[key]? = some e) :
    (key = new ∧ e = ⟨value, now⟩) ∨ s.entries[key]? = some e := by
  have hold : (s.entries.insert new ⟨value, now⟩)[key]? = some e := mem_of_evict h
  rw [Std.HashMap.getElem?_insert] at hold
  split at hold
  · rename_i heq
    exact .inl ⟨(beq_iff_eq.mp heq).symm, (Option.some.inj hold).symm⟩
  · exact .inr hold

/-- What stands under a key behind an insertion under this key is what was put in. -/
theorem eq_of_insert {now : Moment} {value : α} {e : Stored α}
    (h : (s.insert now key value).entries[key]? = some e) : e = ⟨value, now⟩ := by
  have hnew : (s.entries.insert key ⟨value, now⟩)[key]? = some e := mem_of_evict h
  rw [Std.HashMap.getElem?_insert_self] at hnew
  exact (Option.some.inj hnew).symm

/-- Where the entries fit, nothing is evicted. -/
theorem evict_of_le {capacity : Nat} {queue : List String} {entries : Std.HashMap String (Stored α)}
    (h : entries.size ≤ capacity) : evict capacity queue entries = (entries, queue) := by
  cases queue with
  | nil => rfl
  | cons oldest queue => rw [evict, if_neg (Nat.not_lt.mpr h)]

/-- Where the entries fit, a value is found under its key while it is young enough. -/
theorem get?_insert {now later : Moment} {value : α}
    (hfits : (s.entries.insert key ⟨value, now⟩).size ≤ s.capacity)
    (hage : later - now < s.lifetime) : (s.insert now key value).get? later key = some value := by
  have he : (s.insert now key value).entries = s.entries.insert key ⟨value, now⟩ := by
    show (evict s.capacity _ (s.entries.insert key ⟨value, now⟩)).1 = _
    rw [evict_of_le hfits]
  have hl : (s.insert now key value).lifetime = s.lifetime := rfl
  unfold get?
  rw [he, hl, Std.HashMap.getElem?_insert_self]
  exact if_pos hage

/-- What was put into an empty store is found while it is young enough. -/
theorem get?_insert_of_empty {lifetime capacity : Nat} (h : s = .empty lifetime capacity)
    {now later : Moment} {value : α} (hcapacity : 0 < capacity) (hage : later - now < lifetime) :
    (s.insert now key value).get? later key = some value := by
  subst h
  refine get?_insert ?_ hage
  have hle : ((∅ : Std.HashMap String (Stored α)).insert key ⟨value, now⟩).size ≤
      (∅ : Std.HashMap String (Stored α)).size + 1 := Std.HashMap.size_insert_le
  rw [Std.HashMap.size_empty] at hle
  exact Nat.le_trans hle hcapacity

end PrivacyAudit.Store
