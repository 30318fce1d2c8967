import PrivacyAudit.Json.Value

/-!
# Reading JSON

The reader goes through a text once, from left to right, and reports the first fault: the text ends
too early (`unfinished`) or cannot go on as it does (`malformed`). A value that is read keeps to the
limits on nesting, numbers and surrogates; a value that is only passed over need not.
-/

namespace PrivacyAudit.Json

/-- Why a text is no JSON. -/
inductive Fault
  /-- The text ends inside a value. -/
  | unfinished
  /-- A character stands where none like it may stand. -/
  | malformed
  deriving DecidableEq, Repr

/-- The text that a reader has left. -/
abbrev Rest := List Char

/-- The deepest nesting of arrays and objects in a value that is read. -/
def nestingLimit : Nat := 127

/-- Whether a value is to be kept or only passed over. -/
inductive Purpose
  | keep
  | pass
  deriving DecidableEq, Repr

/-! ## 1. White space, names and strings -/

/-- Whether a character separates the parts of a JSON text. -/
def isBlank (c : Char) : Bool := c == ' ' || c == '\n' || c == '\t' || c == '\r'

/-- What is left behind white space. -/
def skip (rest : Rest) : Rest := rest.dropWhile isBlank

/-- The letters of a name that must follow. -/
def readLetters : List Char → Rest → Except Fault Rest
  | [], rest => .ok rest
  | _ :: _, [] => .error .unfinished
  | letter :: letters, c :: rest => if c = letter then readLetters letters rest
      else .error .malformed

/-- The value of a hexadecimal digit. -/
def hexDigit? (c : Char) : Option Nat :=
  if c.isDigit then some (c.toNat - '0'.toNat)
  else if 'a' ≤ c ∧ c ≤ 'f' then some (c.toNat - 'a'.toNat + 10)
  else if 'A' ≤ c ∧ c ≤ 'F' then some (c.toNat - 'A'.toNat + 10)
  else none

/-- Whether a text holds at least `n` bytes. -/
def hasBytes : Rest → (n : Nat) → Bool
  | [], n => n == 0
  | c :: rest, n => n ≤ c.utf8Size || hasBytes rest (n - c.utf8Size)

/-- Four hexadecimal digits. A text with fewer than four bytes left is unfinished whatever they
are. -/
def readHex4 (rest : Rest) : Except Fault (Nat × Rest) :=
  if !hasBytes rest 4 then .error .unfinished
  else match rest with
    | a :: b :: c :: d :: rest =>
      match hexDigit? a, hexDigit? b, hexDigit? c, hexDigit? d with
      | some a, some b, some c, some d => .ok (((a * 16 + b) * 16 + c) * 16 + d, rest)
      | _, _, _, _ => .error .malformed
    | _ => .error .malformed

/-- The second half of a character written as two surrogates. -/
def readLowSurrogate (high : Nat) : Rest → Except Fault (Char × Rest)
  | [] => .error .unfinished
  | '\\' :: [] => .error .unfinished
  | '\\' :: 'u' :: rest => do
    let (low, rest) ← readHex4 rest
    if 0xDC00 ≤ low ∧ low ≤ 0xDFFF then
      return (Char.ofNat (0x10000 + (high - 0xD800) * 0x400 + (low - 0xDC00)), rest)
    throw .malformed
  | _ => .error .malformed

/-- A character by its number in UTF-16; the letter of the escape has just been read. -/
def readUnit (purpose : Purpose) (rest : Rest) : Except Fault (Char × Rest) := do
  let (unit, rest) ← readHex4 rest
  if purpose = .pass ∨ unit < 0xD800 ∨ 0xDFFF < unit then return (Char.ofNat unit, rest)
  if 0xDC00 ≤ unit then throw .malformed
  readLowSurrogate unit rest

/-- An escape; its backslash has just been read. -/
def readEscape (purpose : Purpose) : Rest → Except Fault (Char × Rest)
  | [] => .error .unfinished
  | '"' :: rest => .ok ('"', rest)
  | '\\' :: rest => .ok ('\\', rest)
  | '/' :: rest => .ok ('/', rest)
  | 'b' :: rest => .ok ('\x08', rest)
  | 'f' :: rest => .ok ('\x0C', rest)
  | 'n' :: rest => .ok ('\n', rest)
  | 'r' :: rest => .ok ('\r', rest)
  | 't' :: rest => .ok ('\t', rest)
  | 'u' :: rest => readUnit purpose rest
  | _ => .error .malformed

/-- A string up to its closing quote; `read` holds what was read of it, backwards. -/
def readStringFrom (purpose : Purpose) : (fuel : Nat) → (read : List Char) → Rest →
    Except Fault (String × Rest)
  | 0, _, _ => .error .unfinished
  | _ + 1, _, [] => .error .unfinished
  | fuel + 1, read, c :: rest =>
    if c = '"' then .ok (String.ofList read.reverse, rest)
    else if c = '\\' then
      match readEscape purpose rest with
      | .error fault => .error fault
      | .ok (c, rest) => readStringFrom purpose fuel (c :: read) rest
    else if c.toNat < 0x20 then .error .malformed
    else readStringFrom purpose fuel (c :: read) rest

/-- A string; its opening quote has just been read. -/
def readString (purpose : Purpose) (rest : Rest) : Except Fault (String × Rest) :=
  readStringFrom purpose (rest.length + 1) [] rest

/-! ## 2. Numbers -/

/-- The value of a decimal digit. -/
def digit? (c : Char) : Option Nat := if c.isDigit then some (c.toNat - '0'.toNat) else none

/-- The decimal digits in front: their number, the value of `value` with them behind it, and what is
left. -/
def readDigits : (count value : Nat) → Rest → Nat × Nat × Rest
  | count, value, [] => (count, value, [])
  | count, value, c :: rest =>
    match digit? c with
    | some d => readDigits (count + 1) (value * 10 + d) rest
    | none => (count, value, c :: rest)

/-- At least one digit. -/
def readSomeDigits (value : Nat) (rest : Rest) : Except Fault (Nat × Nat × Rest) :=
  match readDigits 0 value rest with
  | (0, _, []) => .error .unfinished
  | (0, _, _ :: _) => .error .malformed
  | result => .ok result

/-- The sign of an exponent. -/
def readSign : Rest → Bool × Rest
  | '-' :: rest => (true, rest)
  | '+' :: rest => (false, rest)
  | rest => (false, rest)

/-- An exponent, if there is one; `none` if the number has none. -/
def readExponent : Rest → Except Fault (Option Int × Rest)
  | c :: rest =>
    if c = 'e' ∨ c = 'E' then do
      let (minus, rest) := readSign rest
      let (_, value, rest) ← readSomeDigits 0 rest
      return (some (if minus then -(value : Int) else value), rest)
    else .ok (none, c :: rest)
  | [] => .ok (none, [])

/-- Digits behind a point, if there is one: their number and the value with them behind it. -/
def readFraction (value : Nat) : Rest → Except Fault (Option Nat × Nat × Rest)
  | '.' :: rest => do
    let (count, value, rest) ← readSomeDigits value rest
    return (some count, value, rest)
  | rest => .ok (none, value, rest)

/-- The digits in front of a point: a zero stands alone. -/
def readWhole : Rest → Except Fault (Nat × Rest)
  | [] => .error .unfinished
  | '0' :: rest =>
    if rest.head?.any Char.isDigit then .error .malformed else .ok (0, rest)
  | c :: rest =>
    match digit? c with
    | none => .error .malformed
    | some _ =>
      let (_, value, rest) := readDigits 0 0 (c :: rest)
      .ok (value, rest)

/-- The largest natural number that is kept as one. -/
def largestNatural : Nat := 0xFFFFFFFFFFFFFFFF

/-- The size of the smallest integer that is kept as one. -/
def largestNegative : Nat := 0x8000000000000000

/-- Numbers of this size and above are out of range. -/
def rangeLimit : Nat := Nat.pow 2 1024 - Nat.pow 2 970

/-- Whether `mantissa` times a power of ten is out of range. The product is exact here. A reader
that rounds the mantissa to a double before it multiplies also refuses a few numbers right below the
limit, among them 1.7976931348623158e308. -/
def outOfRange (mantissa : Nat) (exponent : Int) : Bool :=
  if mantissa = 0 then false
  else if exponent > 400 then true
  else if exponent ≥ 0 then mantissa * Nat.pow 10 exponent.toNat ≥ rangeLimit
  else
    -- a mantissa of fewer digits than the exponent takes away is below one
    if (-exponent).toNat > mantissa.log2 + 1 then false
    else mantissa ≥ rangeLimit * Nat.pow 10 (-exponent).toNat

/-- A number; a minus sign in front has just been read if `minus`. -/
def readNumber (purpose : Purpose) (minus : Bool) (rest : Rest) : Except Fault (Number × Rest) := do
  let (whole, rest) ← readWhole rest
  let (places, mantissa, rest) ← readFraction whole rest
  let (exponent, rest) ← readExponent rest
  match places, exponent with
  | none, none =>
    if !minus && whole ≤ largestNatural then return (.natural whole, rest)
    if minus && 0 < whole && whole ≤ largestNegative then return (.negative whole, rest)
    if purpose = .keep ∧ outOfRange whole 0 then throw .malformed
    return (.decimal (if minus then -(whole : Int) else whole) 0, rest)
  | places, exponent =>
    let exponent := exponent.getD 0 - (places.getD 0 : Nat)
    if purpose = .keep ∧ outOfRange mantissa exponent then throw .malformed
    return (.decimal (if minus then -(mantissa : Int) else mantissa) exponent, rest)

/-! ## 3. Values -/

/-- The colon between the name and the value of a member. -/
def readColon (rest : Rest) : Except Fault Rest :=
  match skip rest with
  | [] => .error .unfinished
  | ':' :: rest => .ok rest
  | _ => .error .malformed

/-- Where the items of an array or the members of an object go on: at the end (`none`), or at the
next one behind its comma. -/
def readSeparator (closing : Char) (first : Bool) (rest : Rest) :
    Except Fault (Option Rest × Rest) :=
  match skip rest with
  | [] => .error .unfinished
  | c :: rest =>
    if c = closing then .ok (none, rest)
    else if first then .ok (some (c :: rest), rest)
    else if c = ',' then
      match skip rest with
      | [] => .error .unfinished
      | d :: rest => if d = closing then .error .malformed else .ok (some (d :: rest), rest)
    else .error .malformed

mutual

/-- A value inside `depth` arrays and objects. -/
def readValue (purpose : Purpose) : (fuel depth : Nat) → Rest → Except Fault (Value × Rest)
  | 0, _, _ => .error .malformed
  | fuel + 1, depth, rest =>
    match skip rest with
    | [] => .error .unfinished
    | 'n' :: rest => do return (.null, ← readLetters "ull".toList rest)
    | 't' :: rest => do return (.bool true, ← readLetters "rue".toList rest)
    | 'f' :: rest => do return (.bool false, ← readLetters "alse".toList rest)
    | '"' :: rest => do
      let (s, rest) ← readString purpose rest
      return (.string s, rest)
    | '[' :: rest =>
      if purpose = .keep ∧ depth ≥ nestingLimit then .error .malformed
      else do
        let (items, rest) ← readItems purpose fuel (depth + 1) true rest
        return (.array items, rest)
    | '{' :: rest =>
      if purpose = .keep ∧ depth ≥ nestingLimit then .error .malformed
      else do
        let (members, rest) ← readMembers purpose fuel (depth + 1) true rest
        return (.object members, rest)
    | '-' :: rest => do
      let (n, rest) ← readNumber purpose true rest
      return (.number n, rest)
    | c :: rest =>
      if c.isDigit then do
        let (n, rest) ← readNumber purpose false (c :: rest)
        return (.number n, rest)
      else .error .malformed

/-- The items of an array from here on. -/
def readItems (purpose : Purpose) : (fuel depth : Nat) → (first : Bool) → Rest →
    Except Fault (List Value × Rest)
  | 0, _, _, _ => .error .malformed
  | fuel + 1, depth, first, rest => do
    match ← readSeparator ']' first rest with
    | (none, rest) => return ([], rest)
    | (some rest, _) =>
      let (item, rest) ← readValue purpose fuel depth rest
      let (items, rest) ← readItems purpose fuel depth false rest
      return (item :: items, rest)

/-- The members of an object from here on. -/
def readMembers (purpose : Purpose) : (fuel depth : Nat) → (first : Bool) → Rest →
    Except Fault (List (String × Value) × Rest)
  | 0, _, _, _ => .error .malformed
  | fuel + 1, depth, first, rest => do
    match ← readSeparator '}' first rest with
    | (none, rest) => return ([], rest)
    | (some ('"' :: rest), _) =>
      let (name, rest) ← readString purpose rest
      let rest ← readColon rest
      let (value, rest) ← readValue purpose fuel depth rest
      let (members, rest) ← readMembers purpose fuel depth false rest
      return ((name, value) :: members, rest)
    | (some _, _) => throw .malformed

end

/-- The fuel that reads any text: each step reads a character or is followed by one that does. -/
def fuelFor (rest : Rest) : Nat := 2 * rest.length + 2

/-- Nothing but white space may be left. -/
def readEnd (rest : Rest) : Except Fault Unit :=
  if (skip rest).isEmpty then .ok () else .error .malformed

/-- The value that a text stands for. -/
def Value.read (text : List Char) : Except Fault Value := do
  let (v, rest) ← readValue .keep (fuelFor text) 0 text
  readEnd rest
  return v

end PrivacyAudit.Json
