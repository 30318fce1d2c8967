import Std.Data.HashMap

/-!
# Stores of limited size

A store keeps values under keys, each with the moment at which it was put in. It holds the entries
in a hash map and the keys in a queue, in the order in which they first came in. A value that is put
under a key that is there takes the place of the old one in the queue too; when there are more
entries than the store may hold, those at the head of the queue go. A value is answered only while
it is younger than the store's lifetime, but it is not removed for its age.
-/

namespace PrivacyAudit

/-- A moment, in nanoseconds since some moment in the past. -/
abbrev Moment := Nat

/-- A value and the moment at which it was put in. -/
structure Stored (α : Type) where
  value : α
  since : Moment
  deriving DecidableEq, Repr

/-- A store. -/
structure Store (α : Type) where
  entries : Std.HashMap String (Stored α)
  /-- The keys, the one that came in first at the head. -/
  queue : List String
  /-- The age at which a value is answered no longer, in nanoseconds. -/
  lifetime : Nat
  /-- The number of entries that the store may hold. -/
  capacity : Nat

namespace Store

variable {α : Type}

/-- A store that holds nothing. -/
def empty (lifetime capacity : Nat) : Store α := ⟨∅, [], lifetime, capacity⟩

/-- The number of entries, whatever their age. -/
def size (s : Store α) : Nat := s.entries.size

/-- The value under a key, if it is young enough. -/
def get? (s : Store α) (now : Moment) (key : String) : Option α :=
  match s.entries[key]? with
  | some e => if now - e.since < s.lifetime then some e.value else none
  | none => none

/-- Entries and queue without as many keys at the head as make the entries fit. -/
def evict (capacity : Nat) : List String → Std.HashMap String (Stored α) →
    Std.HashMap String (Stored α) × List String
  | [], entries => (entries, [])
  | oldest :: queue, entries =>
    if capacity < entries.size then evict capacity queue (entries.erase oldest)
    else (entries, oldest :: queue)

/-- The store with a value under a key. -/
def insert (s : Store α) (now : Moment) (key : String) (value : α) : Store α :=
  let queue := if s.entries.contains key then s.queue else s.queue ++ [key]
  let (entries, queue) := evict s.capacity queue (s.entries.insert key ⟨value, now⟩)
  { s with entries, queue }

/-- The store without its entries. -/
def clear (s : Store α) : Store α := { s with entries := ∅, queue := [] }

end Store

end PrivacyAudit
