import PrivacyAudit.Pattern.Basic

/-!
# The size of a pattern

A pattern may not grow without bound: its size is the memory of the automaton over bytes that reads
it. A state takes 32 bytes, a transition on a range of bytes 8, an alternative 4. A pattern has two
automata, one for each direction, and the larger one counts. Forwards, a character set is a tree of
byte ranges along the UTF-8 encodings of its characters in which equal subtrees are shared;
backwards, every node of that tree is a state of its own. A counted repetition repeats its body.
-/

namespace PrivacyAudit.Pattern

/-! ## 1. The byte ranges of a character set -/

/-- Ranges of bytes to be read one after the other. -/
abbrev ByteSequence := List (Nat × Nat)

/-- The bytes of a code point. -/
def utf8Bytes (c : Nat) : List Nat :=
  if c < 0x80 then [c]
  else if c < 0x800 then [0xC0 + c / 0x40, 0x80 + c % 0x40]
  else if c < 0x10000 then [0xE0 + c / 0x1000, 0x80 + c / 0x40 % 0x40, 0x80 + c % 0x40]
  else [0xF0 + c / 0x40000, 0x80 + c / 0x1000 % 0x40, 0x80 + c / 0x40 % 0x40, 0x80 + c % 0x40]

/-- Cuts a range at the first of the given code points that lies inside it. -/
def cutAt (cuts : List Nat) (first last : Nat) : Option (Nat × Nat) :=
  (cuts.find? fun c => first ≤ c && c < last).map fun c => (c, c + 1)

/-- Where a range must be cut so that its ends differ by whole blocks. -/
def blockCut (block first last : Nat) : Option (Nat × Nat) :=
  if first / block = last / block then none
  else if first % block ≠ 0 then
    let cut := first / block * block + block - 1
    some (cut, cut + 1)
  else if last % block ≠ block - 1 then
    let cut := last / block * block
    some (cut - 1, cut)
  else none

/-- The byte sequences of a range of code points; `fuel` bounds the number of cuts in a row. -/
def byteSequences : (fuel : Nat) → (first last : Nat) → List ByteSequence
  | 0, _, _ => []
  | fuel + 1, first, last =>
    if last < first then []
    else
      let cut := if first < 0xD800 && 0xDFFF < last then some (0xD7FF, 0xE000)
        else (cutAt [0x7F, 0x7FF, 0xFFFF] first last).orElse fun _ =>
          if last < 0x80 then none
          else (blockCut 0x40 first last).orElse fun _ =>
            (blockCut 0x1000 first last).orElse fun _ => blockCut 0x40000 first last
      match cut with
      | some (a, b) => byteSequences fuel first a ++ byteSequences fuel b last
      | none => [(utf8Bytes first).zip (utf8Bytes last)]

/-- All byte sequences of a character set. -/
def setSequences (s : CharSet) : List ByteSequence :=
  s.ranges.flatMap fun r =>
    let last := min r.2 CharSet.lastCodePoint
    let first := if 0xD800 ≤ r.1 && r.1 ≤ 0xDFFF then 0xE000 else r.1
    let last := if 0xD800 ≤ last && last ≤ 0xDFFF then 0xD7FF else last
    byteSequences 64 first last

/-! ## 2. The tree of byte ranges -/

/-- Sequences that begin with the same range side by side, as that range and what follows it. -/
def groupByFirst : List ByteSequence → List ((Nat × Nat) × List ByteSequence)
  | [] => []
  | [] :: rest => groupByFirst rest
  | (r :: tail) :: rest =>
    match groupByFirst rest with
    | (q, tails) :: groups =>
      if q = r then (r, tail :: tails) :: groups else (r, [tail]) :: (q, tails) :: groups
    | [] => [(r, [tail])]

/-- The sets of sequences that stand below the first ranges, level by level. -/
def subtrees : (depth : Nat) → List ByteSequence → List (List ByteSequence)
  | 0, _ => []
  | depth + 1, sequences =>
    (groupByFirst sequences).flatMap fun (_, tails) =>
      if tails.all List.isEmpty then [] else tails :: subtrees depth tails

/-- The number of nodes of the tree, its root not counted. -/
def treeNodes (sequences : List ByteSequence) : Nat :=
  (sequences :: subtrees 4 sequences).foldl (fun n below => n + (groupByFirst below).length) 0

/-- Memory of one state. -/
def stateSize : Nat := 32

/-- Memory of one transition. -/
def transitionSize : Nat := 8

/-- Memory of one alternative. -/
def alternativeSize : Nat := 4

/-- Memory of the state that stands before sequences. -/
def nodeSize (sequences : List ByteSequence) : Nat :=
  stateSize + transitionSize * (groupByFirst sequences).length

/-- A direction in which a text is read. -/
inductive Direction
  | forwards
  | backwards
  deriving DecidableEq, Repr

/-- Memory of a character set. A single character takes one state for each of its bytes; ASCII
characters take one state with a transition for each range, and the state behind it. -/
def setSize (direction : Direction) (s : CharSet) : Nat :=
  match s.ranges with
  | [(first, last)] =>
    if first = last then stateSize * (utf8Bytes first).length else treeSize
  | _ => treeSize
where
  /-- Memory of a set of several characters. -/
  treeSize : Nat :=
    let sequences := setSequences s
    if direction = .forwards ∨ s.isAscii then
      (subtrees 4 sequences).eraseDups.foldl (fun n below => n + nodeSize below)
        (nodeSize sequences + stateSize)
    else
      stateSize * (treeNodes sequences + 2) + alternativeSize * sequences.length

/-! ## 3. The size of a pattern -/

/-- Memory of a pattern by itself. The members of a choice share the state that chooses. -/
def bodySize (direction : Direction) : Pattern → Nat
  | .empty => stateSize
  | .set s => setSize direction s
  | .look _ => stateSize
  | .mark _ => stateSize
  | .seq p q => bodySize direction p + bodySize direction q
  | .alt p q =>
    bodySize direction p + bodySize direction q + alternativeSize +
      match q with
      | .alt _ _ => 0
      | _ => 2 * stateSize + alternativeSize
  | .loop body least most _ =>
    let choice := stateSize + 2 * alternativeSize
    match most with
    | none => max least 1 * bodySize direction body + choice
    | some most =>
      least * bodySize direction body +
        if least = most then 0 else stateSize + (most - least) * (bodySize direction body + choice)

/-- Memory of a pattern with the states around it: the search for a start, the marks of the whole
span, and the end. -/
def size (p : Pattern) : Nat :=
  max (bodySize .forwards p) (bodySize .backwards p) + 5 * stateSize + 2 * alternativeSize

end PrivacyAudit.Pattern
