import PrivacyAudit.Text.Order

/-!
# Sets of tags

A set of texts in ascending byte order, each once. Two sets with the same members are the same list,
so the order in which members were put in cannot be seen.
-/

namespace PrivacyAudit

open Text (Before)

/-- A set of texts in ascending byte order. -/
structure TagSet where
  toList : List String
  ascending : toList.Pairwise Before
  deriving DecidableEq

namespace TagSet

instance : Repr TagSet := ⟨fun s n => reprPrec s.toList n⟩

instance : Membership String TagSet := ⟨fun s t => t ∈ s.toList⟩

instance (t : String) (s : TagSet) : Decidable (t ∈ s) := inferInstanceAs (Decidable (t ∈ s.toList))

/-- The set without members. -/
def empty : TagSet := ⟨[], .nil⟩

instance : EmptyCollection TagSet := ⟨empty⟩

instance : Inhabited TagSet := ⟨empty⟩

/-- A text put in its place in an ascending list; nothing changes if it is there already. -/
def insertInto (t : String) : List String → List String
  | [] => [t]
  | u :: us => if t = u then u :: us else if Before t u then t :: u :: us else u :: insertInto t us

theorem mem_insertInto {t v : String} : ∀ {us : List String}, v ∈ insertInto t us ↔ v = t ∨ v ∈ us
  | [] => by simp [insertInto]
  | u :: us => by
    unfold insertInto
    split
    · rename_i h
      subst h
      simp
    · split
      · simp
      · simp only [List.mem_cons, mem_insertInto]
        constructor
        · rintro (h | h | h) <;> simp [h]
        · rintro (h | h | h) <;> simp [h]

theorem insertInto_ascending {t : String} :
    ∀ {us : List String}, us.Pairwise Before → (insertInto t us).Pairwise Before
  | [], _ => by simp [insertInto]
  | u :: us, h => by
    have hu : ∀ v ∈ us, Before u v := (List.pairwise_cons.1 h).1
    have hus : us.Pairwise Before := (List.pairwise_cons.1 h).2
    unfold insertInto
    split
    · exact h
    · rename_i hne
      split
      · rename_i hlt
        refine List.pairwise_cons.2 ⟨fun v hv => ?_, h⟩
        rcases List.mem_cons.1 hv with rfl | hv
        · exact hlt
        · exact hlt.trans (hu v hv)
      · rename_i hlt
        refine List.pairwise_cons.2 ⟨fun v hv => ?_, insertInto_ascending hus⟩
        rcases mem_insertInto.1 hv with rfl | hv
        · exact Before.total hlt hne
        · exact hu v hv

/-- The set with one more member. -/
def insert (s : TagSet) (t : String) : TagSet :=
  ⟨insertInto t s.toList, insertInto_ascending s.ascending⟩

/-- The set with all texts of a list. -/
def insertAll (s : TagSet) (ts : List String) : TagSet := ts.foldl insert s

/-- The set of the texts of a list. -/
def ofList (ts : List String) : TagSet := empty.insertAll ts

/-- The number of members. -/
def size (s : TagSet) : Nat := s.toList.length

/-- Whether there is no member. -/
def isEmpty (s : TagSet) : Bool := s.toList.isEmpty

@[simp] theorem mem_toList {s : TagSet} {t : String} : t ∈ s.toList ↔ t ∈ s := Iff.rfl

@[simp] theorem not_mem_empty {t : String} : t ∉ empty := by
  simp [← mem_toList, empty]

@[simp] theorem mem_insert {s : TagSet} {t v : String} : v ∈ s.insert t ↔ v = t ∨ v ∈ s :=
  mem_insertInto

@[simp] theorem mem_insertAll {ts : List String} {s : TagSet} {v : String} :
    v ∈ s.insertAll ts ↔ v ∈ ts ∨ v ∈ s := by
  unfold insertAll
  induction ts generalizing s with
  | nil => simp
  | cons t ts ih =>
    rw [List.foldl_cons, ih, mem_insert, List.mem_cons]
    constructor
    · rintro (h | h | h) <;> simp [h]
    · rintro ((h | h) | h) <;> simp [h]

end TagSet

end PrivacyAudit
