import PrivacyAudit.Json.Reader

/-!
# Reading JSON of a known type

A reader that knows what it wants reports a value of another type as soon as it meets one, so that
of several faults the first in the text decides. The value that is out of place is read first if it
is a scalar, and a fault inside it comes before its being out of place.
-/

namespace PrivacyAudit.Json

/-- Why a text cannot be read as a value of the wanted type. -/
inductive TypedFault
  /-- The text is no JSON. -/
  | text (fault : Fault)
  /-- A value has the wrong type or is out of range, or a member that is known occurs twice. -/
  | mismatch
  deriving DecidableEq, Repr

/-- A reader of values of one type. -/
abbrev TypedReader (α : Type) := Rest → Except TypedFault (α × Rest)

/-- A reading whose faults are faults of the text. -/
def textual {α : Type} (result : Except Fault α) : Except TypedFault α := result.mapError .text

/-- The fault of a value that is out of place. -/
def outOfPlace {α : Type} (rest : Rest) : Except TypedFault α := do
  match skip rest with
  | [] => throw (.text .unfinished)
  | 'n' :: rest => let _ ← textual (readLetters "ull".toList rest)
  | 't' :: rest => let _ ← textual (readLetters "rue".toList rest)
  | 'f' :: rest => let _ ← textual (readLetters "alse".toList rest)
  | '"' :: rest => let _ ← textual (readString .keep rest)
  | '-' :: rest => let _ ← textual (readNumber .keep true rest)
  | '[' :: _ => pure ()
  | '{' :: _ => pure ()
  | c :: rest =>
    if c.isDigit then let _ ← textual (readNumber .keep false (c :: rest))
    else throw (.text .malformed)
  throw .mismatch

/-- A truth value. -/
def readBool : TypedReader Bool := fun rest =>
  match skip rest with
  | 't' :: rest => do return (true, ← textual (readLetters "rue".toList rest))
  | 'f' :: rest => do return (false, ← textual (readLetters "alse".toList rest))
  | rest => outOfPlace rest

/-- A natural number of at most 64 bits. -/
def readNatural : TypedReader Nat := fun rest => do
  let (number, rest) ← match skip rest with
    | '-' :: rest => textual (readNumber .keep true rest)
    | c :: rest =>
      if c.isDigit then textual (readNumber .keep false (c :: rest)) else outOfPlace (c :: rest)
    | [] => outOfPlace []
  match number with
  | .natural n => return (n, rest)
  | _ => throw .mismatch

/-- A string. -/
def readText : TypedReader String := fun rest =>
  match skip rest with
  | '"' :: rest => textual (readString .keep rest)
  | rest => outOfPlace rest

/-- A value that may be `null`. -/
def readOptional {α : Type} (read : TypedReader α) : TypedReader (Option α) := fun rest =>
  match skip rest with
  | 'n' :: rest => do return (none, ← textual (readLetters "ull".toList rest))
  | rest => do
    let (value, rest) ← read rest
    return (some value, rest)

/-- The items of an array of one type from here on. -/
def readListFrom {α : Type} (read : TypedReader α) :
    (fuel : Nat) → (first : Bool) → TypedReader (List α)
  | 0, _, _ => .error (.text .malformed)
  | fuel + 1, first, rest => do
    match ← textual (readSeparator ']' first rest) with
    | (none, rest) => return ([], rest)
    | (some rest, _) =>
      let (item, rest) ← read rest
      let (items, rest) ← readListFrom read fuel false rest
      return (item :: items, rest)

/-- An array of values of one type. -/
def readList {α : Type} (read : TypedReader α) : TypedReader (List α) := fun rest =>
  match skip rest with
  | '[' :: rest => readListFrom read (rest.length + 1) true rest
  | rest => outOfPlace rest

/-- Passes over a value of any type. -/
def passOver (rest : Rest) : Except TypedFault Rest := do
  let (_, rest) ← textual (readValue .pass (fuelFor rest) 0 rest)
  return rest

end PrivacyAudit.Json
