import PrivacyAudit.Pattern.Basic

/-!
# Searching for spans

A search reads the text once, character by character. Between two characters it holds the ways to go
on: each is a list of patterns still to be matched one after the other. `Pattern.advance` lists what
a pattern can do at a position, in the order of preference: finish there, or read the next character
and leave a list of patterns behind. Ways that are left with the same list have the same future, so
only the first of them is kept, and the number of ways is bounded by the size of the pattern.

* `Pattern.find?` finds the span that begins first, and of those that begin there the preferred one;
* `Pattern.findAll` lists the spans found one after the other, each behind the end of the one
  before.
-/

namespace PrivacyAudit.Pattern

/-! ## 1. One step -/

/-- What a pattern can do at a position: the slots it records there, and then either finish (`none`)
or read the next character and leave patterns to be matched one after the other. -/
structure Branch where
  slots : List Nat
  left? : Option (List Pattern)
  deriving DecidableEq, Repr

/-- To finish at once. -/
def Branch.finish : Branch := ⟨[], none⟩

/-- Whether the branch finishes without reading. -/
def Branch.finishes (b : Branch) : Bool := b.left?.isNone

/-- The branch with slots recorded before it. -/
def Branch.after (slots : List Nat) (b : Branch) : Branch := ⟨slots ++ b.slots, b.left?⟩

/-- The branch with patterns to be matched after it; `none` if it finishes. -/
def Branch.readsThen? (later : List Pattern) (b : Branch) : Option Branch :=
  b.left?.map fun left => ⟨b.slots, some (left ++ later)⟩

/-- First the branches of `bs`, then those of `cs`; to finish twice is pointless. -/
def Branch.orElse (bs cs : List Branch) : List Branch :=
  if bs.any Branch.finishes then bs ++ cs.filter (!·.finishes) else bs ++ cs

/-- A repetition whose body can do `once`: `least` more rounds are owed. A round that reads nothing
is counted while rounds are owed, and is skipped after that. -/
def advanceLoop (once : List Branch) (body : Pattern) (greedy : Bool) :
    (least : Nat) → (most : Option Nat) → List Branch
  | 0, most =>
    if most = some 0 then [.finish]
    else
      let rounds := once.filterMap (Branch.readsThen? [.loop body 0 (most.map (· - 1)) greedy])
      if greedy then rounds ++ [.finish] else .finish :: rounds
  | least + 1, most =>
    if most = some 0 then []
    else
      let most := most.map (· - 1)
      once.flatMap fun b =>
        match b.readsThen? [.loop body least most greedy] with
        | none => (advanceLoop once body greedy least most).map (Branch.after b.slots)
        | some b => [b]

/-- What a pattern can do between the characters `before` and `next`, the preferred branch first. -/
def advance (before next : Option Char) : Pattern → List Branch
  | .empty => [.finish]
  | .set s =>
    match next with
    | none => []
    | some c => if s.contains c then [⟨[], some []⟩] else []
  | .look l => if l.holds before next then [.finish] else []
  | .mark k => [⟨[k], none⟩]
  | .seq p q =>
    match advance before next p with
    | [] => []
    | bs => bs.flatMap fun b =>
      match b.readsThen? [q] with
      | none => (advance before next q).map (Branch.after b.slots)
      | some b => [b]
  | .alt p q => Branch.orElse (advance before next p) (advance before next q)
  | .loop p least most greedy => advanceLoop (advance before next p) p greedy least most

/-- What patterns to be matched one after the other can do. -/
def advanceList (before next : Option Char) : List Pattern → List Branch
  | [] => [.finish]
  | p :: ps => (advance before next p).flatMap fun b =>
    match b.readsThen? ps with
    | none => (advanceList before next ps).map (Branch.after b.slots)
    | some b => [b]

/-! ## 2. Which span? -/

/-- A way to go on, with the positions recorded so far under their slots, the latest first. -/
structure Way where
  slots : List (Nat × Nat)
  left : List Pattern
  deriving DecidableEq, Repr

/-- A span that was found: its ends, and the positions recorded under slots, the latest first. -/
structure Found where
  start : Nat
  stop : Nat
  slots : List (Nat × Nat)
  deriving DecidableEq, Repr

/-- The slots recorded at a position put in front of those recorded before. -/
def record (position : Nat) (slots : List (Nat × Nat)) (new : List Nat) : List (Nat × Nat) :=
  new.foldl (fun acc k => (k, position) :: acc) slots

/-- Adds a way behind the others, unless one of them is left with the same patterns. -/
def addWay (ways : List Way) (w : Way) : List Way :=
  if ways.any fun v => v.left == w.left then ways else ways ++ [w]

/-- Follows branches in their order until one finishes; answers the ways that read on, and the slots
of the one that finished. -/
def follow (position : Nat) (slots : List (Nat × Nat)) :
    List Branch → List Way → List Way × Option (List (Nat × Nat))
  | [], ways => (ways, none)
  | b :: bs, ways =>
    match b.left? with
    | none => (ways, some (record position slots b.slots))
    | some left => follow position slots bs (addWay ways ⟨record position slots b.slots, left⟩)

/-- Follows all ways in their order until one finishes. -/
def followAll (before next : Option Char) (position : Nat) :
    List Way → List Way → List Way × Option (List (Nat × Nat))
  | [], ways => (ways, none)
  | w :: ws, ways =>
    match follow position w.slots (advanceList before next w.left) ways with
    | (ways, some slots) => (ways, some slots)
    | (ways, none) => followAll before next position ws ways

/-- The slot under which the start of a whole span is recorded. -/
def startSlot : Nat := 0

/-- The position recorded last under a slot. -/
def slot? (slots : List (Nat × Nat)) (k : Nat) : Option Nat := slots.lookup k

/-- The span found with these slots when its last way finished at `stop`. -/
def Found.ofSlots (slots : List (Nat × Nat)) (stop : Nat) : Found :=
  ⟨(slot? slots startSlot).getD stop, stop, slots⟩

/-- The search from a position on, where `best` was found so far. A new way begins at each position
until a span is found; then only the ways preferred to it go on. -/
def findFrom (p : Pattern) (before : Option Char) (position : Nat) (ways : List Way)
    (best : Option Found) : List Char → Option Found
  | [] =>
    let ways := if best.isNone then ways ++ [⟨[(startSlot, position)], [p]⟩] else ways
    match followAll before none position ways [] with
    | (_, some slots) => some (.ofSlots slots position)
    | (_, none) => best
  | c :: rest =>
    let ways := if best.isNone then ways ++ [⟨[(startSlot, position)], [p]⟩] else ways
    let (ways, finished) := followAll before (some c) position ways []
    let best := match finished with
      | some slots => some (Found.ofSlots slots position)
      | none => best
    if ways.isEmpty && best.isSome then best
    else findFrom p (some c) (position + 1) ways best rest

/-- The first span of the text, or of the text behind `position` characters that end with
`before`. -/
def find? (p : Pattern) (before : Option Char) (position : Nat) (text : List Char) : Option Found :=
  findFrom p before position [] none text

/-- The spans one after the other. The search goes on where the last span ended; an empty span right
there is passed over by one character. `fuel` bounds the number of searches. -/
def findAllFrom (p : Pattern) : (fuel : Nat) → (before : Option Char) → (position : Nat) →
    (lastStop : Option Nat) → List Char → List Found
  | 0, _, _, _, _ => []
  | fuel + 1, before, position, lastStop, text =>
    match find? p before position text with
    | none => []
    | some found =>
      if found.start == found.stop && lastStop == some found.stop then
        match text with
        | [] => []
        | c :: rest => findAllFrom p fuel (some c) (position + 1) none rest
      else
        let read := found.stop - position
        let before := if read = 0 then before else text[read - 1]?
        found :: findAllFrom p fuel before found.stop (some found.stop) (text.drop read)

/-- All spans of the text, none inside another: each search begins where the last span ended. -/
def findAll (p : Pattern) (text : List Char) : List Found :=
  findAllFrom p (2 * text.length + 2) none 0 none text

/-- The part of the text between two positions. -/
def slice (text : List Char) (start stop : Nat) : List Char := (text.drop start).take (stop - start)

/-- The text of a whole span. -/
def Found.text (found : Found) (source : List Char) : List Char :=
  slice source found.start found.stop

/-- The text between the two marks of a group, `none` if the span was found without the group. -/
def Found.group? (found : Found) (source : List Char) (k : Nat) : Option (List Char) :=
  match slot? found.slots (2 * k), slot? found.slots (2 * k + 1) with
  | some start, some stop => some (slice source start stop)
  | _, _ => none

end PrivacyAudit.Pattern
