import PrivacyAudit.Toml.Growth

/-!
# Reading TOML

The reader goes through a text line by line: a line opens a table, adds a member or holds nothing
but a comment. Values are strings of four kinds, numbers, truth values, dates, arrays and tables
between braces. Whatever is wrong with a text, the answer is only that it is no TOML.
-/

namespace PrivacyAudit.Toml

/-- The text that a reader has left. -/
abbrev Rest := List Char

/-- Arrays and braces nested this deeply, and keys of this many parts, are refused. -/
def depthLimit : Nat := 80

/-! ## 1. Blanks, comments and line ends -/

/-- Whether a character is a blank inside a line. -/
def isBlank (c : Char) : Bool := c == ' ' || c == '\t'

/-- What is left behind blanks. -/
def skipBlanks (rest : Rest) : Rest := rest.dropWhile isBlank

/-- Whether a character may stand in a comment or a string on one line: control characters may not,
but tabs may. -/
def isPlain (c : Char) : Bool := c == '\t' || (0x20 ≤ c.toNat && c.toNat != 0x7F)

/-- What is left behind a comment, if there is one. -/
def skipComment : Rest → Rest
  | '#' :: rest => rest.dropWhile isPlain
  | rest => rest

/-- What is left behind a line break. -/
def lineBreak? : Rest → Option Rest
  | '\n' :: rest => some rest
  | '\r' :: '\n' :: rest => some rest
  | _ => none

/-- What is left behind the end of a line: blanks, perhaps a comment, and a line break or the
end. -/
def endLine (rest : Rest) : Option Rest :=
  match skipComment (skipBlanks rest) with
  | [] => some []
  | rest => lineBreak? rest

/-- What is left behind blanks and line breaks. -/
def skipWhite : (fuel : Nat) → Rest → Rest
  | 0, rest => rest
  | fuel + 1, rest =>
    let rest := skipBlanks rest
    match lineBreak? rest with
    | some rest => skipWhite fuel rest
    | none => rest

/-- What is left behind blanks, line breaks and comments that end with one. -/
def skipLayout : (fuel : Nat) → Rest → Option Rest
  | 0, _ => none
  | fuel + 1, rest =>
    let rest := skipBlanks rest
    match rest with
    | '#' :: _ => (lineBreak? (skipComment rest)).bind (skipLayout fuel)
    | _ =>
      match lineBreak? rest with
      | some rest => skipLayout fuel rest
      | none => some rest

/-! ## 2. Strings -/


/-- The value of a hexadecimal digit. -/
def hexDigit? (c : Char) : Option Nat :=
  if c.isDigit then some (c.toNat - '0'.toNat)
  else if 'a' ≤ c ∧ c ≤ 'f' then some (c.toNat - 'a'.toNat + 10)
  else if 'A' ≤ c ∧ c ≤ 'F' then some (c.toNat - 'A'.toNat + 10)
  else none

/-- A character by its number in so many hexadecimal digits. -/
def readScalar (digits : Nat) (rest : Rest) : Option (Char × Rest) := do
  let ds ← (rest.take digits).mapM hexDigit?
  let n := ds.foldl (fun n d => n * 16 + d) 0
  if ds.length = digits ∧ n.isValidChar then return (Char.ofNat n, rest.drop digits)
  none

/-- An escape; its backslash has just been read. -/
def readEscape : Rest → Option (Char × Rest)
  | 'b' :: rest => some ('\x08', rest)
  | 't' :: rest => some ('\t', rest)
  | 'n' :: rest => some ('\n', rest)
  | 'f' :: rest => some ('\x0C', rest)
  | 'r' :: rest => some ('\r', rest)
  | '"' :: rest => some ('"', rest)
  | '\\' :: rest => some ('\\', rest)
  | 'u' :: rest => readScalar 4 rest
  | 'U' :: rest => readScalar 8 rest
  | _ => none

/-- A string on one line with escapes; `read` holds what was read of it, backwards. -/
def readBasic : (fuel : Nat) → (read : List Char) → Rest → Option (String × Rest)
  | 0, _, _ => none
  | _ + 1, _, [] => none
  | fuel + 1, read, c :: rest =>
    if c = '"' then some (String.ofList read.reverse, rest)
    else if c = '\\' then do
      let (c, rest) ← readEscape rest
      readBasic fuel (c :: read) rest
    else if isPlain c then readBasic fuel (c :: read) rest
    else none

/-- A string on one line without escapes. -/
def readLiteral (read : List Char) : Rest → Option (String × Rest)
  | [] => none
  | c :: rest =>
    if c = '\'' then some (String.ofList read.reverse, rest)
    else if isPlain c then readLiteral (c :: read) rest
    else none

/-- What is left behind a line break right after an opening delimiter. -/
def skipFirstBreak (rest : Rest) : Rest := (lineBreak? rest).getD rest

/-- What quotes in a string over many lines mean: three of them close it, and up to two more in
front of those belong to it. The answer is how many belong to it, and how many are passed if it is
closed. -/
def closing (quotes : Nat) : Nat × Option Nat :=
  if quotes < 3 then (quotes, none) else (min (quotes - 3) 2, some (min quotes 5))

/-- A string over many lines. Line breaks count as `\n`; with escapes, a backslash in front of a
line break takes away all white space that follows. -/
def readLines (quote : Char) (escapes : Bool) : (fuel : Nat) → (read : List Char) → Rest →
    Option (String × Rest)
  | 0, _, _ => none
  | _ + 1, _, [] => none
  | fuel + 1, read, c :: rest =>
    if c = quote then
      let quotes := (rest.takeWhile (· == quote)).length + 1
      match closing quotes with
      | (inside, some passed) =>
        some (String.ofList (List.replicate inside quote ++ read).reverse, (c :: rest).drop passed)
      | (inside, none) =>
        readLines quote escapes fuel (List.replicate inside quote ++ read) ((c :: rest).drop inside)
    else if escapes && c == '\\' then
      match lineBreak? (skipBlanks rest) with
      | some rest => readLines quote escapes fuel read (skipWhite fuel rest)
      | none => do
        let (c, rest) ← readEscape rest
        readLines quote escapes fuel (c :: read) rest
    else
      match lineBreak? (c :: rest) with
      | some rest => readLines quote escapes fuel ('\n' :: read) rest
      | none => if isPlain c then readLines quote escapes fuel (c :: read) rest else none

/-- A string. -/
def readString (fuel : Nat) : Rest → Option (String × Rest)
  | '"' :: '"' :: '"' :: rest => readLines '"' true fuel [] (skipFirstBreak rest)
  | '\'' :: '\'' :: '\'' :: rest => readLines '\'' false fuel [] (skipFirstBreak rest)
  | '"' :: rest => readBasic fuel [] rest
  | '\'' :: rest => readLiteral [] rest
  | _ => none

/-! ## 3. Keys -/

/-- Whether a character may stand in a key without quotes. -/
def isKeyChar (c : Char) : Bool := c.isAlphanum || c == '-' || c == '_'

/-- One part of a key. -/
def readKeyPart (fuel : Nat) : Rest → Option (String × Rest)
  | '"' :: rest => readBasic fuel [] rest
  | '\'' :: rest => readLiteral [] rest
  | rest =>
    match rest.takeWhile isKeyChar with
    | [] => none
    | part => some (String.ofList part, rest.dropWhile isKeyChar)

/-- A key of at most so many parts with dots between them. -/
def readKeyParts (fuel : Nat) : (parts : Nat) → Rest → Option (List String × Rest)
  | 0, _ => none
  | parts + 1, rest => do
    let (part, rest) ← readKeyPart fuel (skipBlanks rest)
    match skipBlanks rest with
    | '.' :: rest =>
      let (others, rest) ← readKeyParts fuel parts rest
      return (part :: others, rest)
    | rest => return ([part], rest)

/-- A key. -/
def readKey (fuel : Nat) (rest : Rest) : Option (List String × Rest) :=
  readKeyParts fuel (depthLimit - 1) rest

/-! ## 4. Numbers and dates -/

/-- Digits that follow others; a single underscore may stand in front of each. -/
def moreDigits (digit? : Char → Option Nat) : Rest → List Nat × Rest
  | '_' :: c :: rest =>
    match digit? c with
    | some d =>
      let (ds, rest) := moreDigits digit? rest
      (d :: ds, rest)
    | none => ([], '_' :: c :: rest)
  | c :: rest =>
    match digit? c with
    | some d =>
      let (ds, rest) := moreDigits digit? rest
      (d :: ds, rest)
    | none => ([], c :: rest)
  | [] => ([], [])

/-- At least one digit. -/
def readDigits (digit? : Char → Option Nat) : Rest → Option (List Nat × Rest)
  | [] => none
  | c :: rest =>
    (digit? c).map fun d =>
      let (ds, rest) := moreDigits digit? rest
      (d :: ds, rest)

/-- The value of a decimal digit. -/
def digit? (c : Char) : Option Nat := if c.isDigit then some (c.toNat - '0'.toNat) else none

/-- The value of a digit in a base up to sixteen. -/
def digitIn? (base : Nat) (c : Char) : Option Nat := (hexDigit? c).filter (· < base)

/-- The number that digits stand for. -/
def valueOf (base : Nat) (ds : List Nat) : Nat := ds.foldl (fun n d => n * base + d) 0

/-- The size of the largest integers. -/
def largestInteger : Nat := 0x7FFFFFFFFFFFFFFF

/-- An integer with a base of its own; the mark of the base has just been read. -/
def readInteger (base : Nat) (rest : Rest) : Option (Value × Rest) := do
  let (ds, rest) ← readDigits (digitIn? base) rest
  let n := valueOf base ds
  if n ≤ largestInteger then return (.integer n, rest)
  none

/-- A sign, if there is one: whether it is a minus sign. -/
def readSign : Rest → Bool × Rest
  | '-' :: rest => (true, rest)
  | '+' :: rest => (false, rest)
  | rest => (false, rest)

/-- The digits of a whole number: a zero stands alone. -/
def readWhole : Rest → Option (List Nat × Rest)
  | '0' :: rest => some ([0], rest)
  | rest => readDigits digit? rest

/-- The power of ten behind a number; `none` if there is none. -/
def readExponent : Rest → Option (Option Int × Rest)
  | c :: rest =>
    if c = 'e' ∨ c = 'E' then do
      let (minus, rest) := readSign rest
      let (ds, rest) ← readDigits digit? rest
      let n := valueOf 10 ds
      return (some (if minus then -(n : Int) else n), rest)
    else some (none, c :: rest)
  | [] => some (none, [])

/-- A decimal number as a float; one that is too large for it is refused, but one too small is
not. -/
def floatOf (negative : Bool) (mantissa : Nat) (exponent : Int) : Option Value :=
  match Numeral.Double.ofDecimal negative mantissa exponent with
  | .infinite false => none
  | x => some (.float x)

/-- An integer or a float in decimal digits; the sign has just been read. -/
def readDecimal (negative : Bool) (rest : Rest) : Option (Value × Rest) := do
  let (whole, rest) ← readWhole rest
  let (fraction?, rest) ← match rest with
    | '.' :: rest => (readDigits digit? rest).map fun (ds, rest) => (some ds, rest)
    | rest => some (none, rest)
  let (exponent?, rest) ← readExponent rest
  if fraction?.isNone && exponent?.isNone then
    let n := valueOf 10 whole
    if n ≤ largestInteger then return (.integer (if negative then -(n : Int) else n), rest)
    if negative ∧ n = largestInteger + 1 then return (.integer (-(n : Int)), rest)
    none
  else
    let fraction := fraction?.getD []
    let v ← floatOf negative (valueOf 10 (whole ++ fraction)) (exponent?.getD 0 - fraction.length)
    return (v, rest)

/-- A number. -/
def readNumber : Rest → Option (Value × Rest)
  | '0' :: 'x' :: rest => readInteger 16 rest
  | '0' :: 'o' :: rest => readInteger 8 rest
  | '0' :: 'b' :: rest => readInteger 2 rest
  | rest =>
    match readSign rest with
    | (negative, 'i' :: 'n' :: 'f' :: rest) => some (.float (.infinite negative), rest)
    | (_, 'n' :: 'a' :: 'n' :: rest) => some (.float .notANumber, rest)
    | (negative, rest) => readDecimal negative rest

/-- A number of so many decimal digits between two bounds. -/
def readField (digits least greatest : Nat) (rest : Rest) : Option (Nat × Rest) := do
  let ds ← (rest.take digits).mapM digit?
  let n := valueOf 10 ds
  if ds.length = digits ∧ least ≤ n ∧ n ≤ greatest then return (n, rest.drop digits)
  none

/-- A character that must follow. -/
def readChar (expected : Char) : Rest → Option Rest
  | c :: rest => if c = expected then some rest else none
  | [] => none

/-- The number of days of a month. -/
def daysOf (year month : Nat) : Nat :=
  if month = 2 then
    if year % 4 = 0 ∧ (year % 100 ≠ 0 ∨ year % 400 = 0) then 29 else 28
  else if month = 4 ∨ month = 6 ∨ month = 9 ∨ month = 11 then 30
  else 31

/-- A day. -/
def readDay (rest : Rest) : Option Rest := do
  let (year, rest) ← readField 4 0 9999 rest
  let (month, rest) ← readField 2 1 12 (← readChar '-' rest)
  let (_, rest) ← readField 2 1 (daysOf year month) (← readChar '-' rest)
  return rest

/-- A time of day; a leap second counts. -/
def readTime (rest : Rest) : Option Rest := do
  let (_, rest) ← readField 2 0 23 rest
  let (_, rest) ← readField 2 0 59 (← readChar ':' rest)
  let (_, rest) ← readField 2 0 60 (← readChar ':' rest)
  match rest with
  | '.' :: c :: rest => if c.isDigit then return rest.dropWhile Char.isDigit else none
  | rest => return rest

/-- The distance of a time from Greenwich, if it follows. -/
def skipOffset : Rest → Rest
  | [] => []
  | c :: rest =>
    if c = 'Z' ∨ c = 'z' then rest
    else if c = '+' ∨ c = '-' then
      let offset := do
        let (_, rest) ← readField 2 0 23 rest
        let (_, rest) ← readField 2 0 59 (← readChar ':' rest)
        return rest
      offset.getD (c :: rest)
    else c :: rest

/-- A day, and perhaps a time behind it. -/
def readDate (rest : Rest) : Option Rest := do
  let rest ← readDay rest
  match rest with
  | c :: behind =>
    if c = 'T' ∨ c = 't' ∨ c = ' ' then return ((readTime behind).map skipOffset).getD rest
    return rest
  | [] => return rest

/-- Whether a text begins as a day does. -/
def beginsDay : Rest → Bool
  | a :: b :: c :: d :: '-' :: _ => [a, b, c, d].all Char.isDigit
  | _ => false

/-- Whether a text begins as a time of day does. -/
def beginsTime : Rest → Bool
  | a :: b :: ':' :: _ => [a, b].all Char.isDigit
  | _ => false

/-- A date, a time or a number. -/
def readDateOrNumber (rest : Rest) : Option (Value × Rest) :=
  if beginsDay rest then (readDate rest).map (.date, ·)
  else if beginsTime rest then (readTime rest).map (.date, ·)
  else readNumber rest

/-! ## 5. Values -/

/-- The letters of a name that must follow. -/
def readLetters : List Char → Rest → Option Rest
  | [], rest => some rest
  | letter :: letters, rest => (readChar letter rest).bind (readLetters letters)

mutual

/-- A value inside `depth` arrays and braces. -/
def readValue : (fuel depth : Nat) → Rest → Option (Value × Rest)
  | 0, _, _ => none
  | fuel + 1, depth, rest =>
    match rest with
    | '"' :: _ | '\'' :: _ => (readString fuel rest).map fun (s, rest) => (.string s, rest)
    | '[' :: rest =>
      if depth + 1 ≥ depthLimit then none
      else (readItems fuel (depth + 1) rest).map fun (items, rest) => (.array items, rest)
    | '\x7b' :: rest =>
      if depth + 1 ≥ depthLimit then none
      else do
        let (pairs, rest) ← readPairs fuel (depth + 1) true rest
        return (.table .braces (← Members.ofPairs pairs), rest)
    | 't' :: rest => (readLetters "rue".toList rest).map (.boolean true, ·)
    | 'f' :: rest => (readLetters "alse".toList rest).map (.boolean false, ·)
    | rest => readDateOrNumber rest

/-- The items of an array from here on, up to its end. -/
def readItems : (fuel depth : Nat) → Rest → Option (List Value × Rest)
  | 0, _, _ => none
  | fuel + 1, depth, rest => do
    match ← skipLayout fuel rest with
    | ']' :: rest => return ([], rest)
    | rest =>
      let (item, rest) ← readValue fuel depth rest
      match ← skipLayout fuel rest with
      | ']' :: rest => return ([item], rest)
      | ',' :: rest =>
        let (items, rest) ← readItems fuel depth rest
        return (item :: items, rest)
      | _ => none

/-- The keys and values between braces from here on, up to the closing one. No comma stands in front
of it. -/
def readPairs : (fuel depth : Nat) → (first : Bool) → Rest →
    Option (List (List String × Value) × Rest)
  | 0, _, _, _ => none
  | fuel + 1, depth, first, rest => do
    match skipBlanks rest with
    | '\x7d' :: rest => if first then return ([], rest) else none
    | rest =>
      let (key, rest) ← readKey fuel rest
      let (v, rest) ← readValue fuel depth (skipBlanks (← readChar '=' rest))
      match skipBlanks rest with
      | '\x7d' :: rest => return ([(key, v)], rest)
      | ',' :: rest =>
        let (pairs, rest) ← readPairs fuel depth false rest
        return ((key, v) :: pairs, rest)
      | _ => none

end

/-! ## 6. Documents -/

/-- The fuel that reads any text: each step reads a character or is followed by one that does. -/
def fuelFor (rest : Rest) : Nat := 2 * rest.length + 2

/-- One line of a document. -/
def readLine (fuel : Nat) (d : Draft) (rest : Rest) : Option (Draft × Rest) :=
  match rest with
  | '[' :: '[' :: rest => do
    let (way, rest) ← readKey fuel rest
    let rest ← endLine (← readChar ']' (← readChar ']' rest))
    return (← d.openElement way, rest)
  | '[' :: rest => do
    let (way, rest) ← readKey fuel rest
    let rest ← endLine (← readChar ']' rest)
    return (← d.openTable way, rest)
  | '#' :: _ | '\n' :: _ | '\r' :: _ => (endLine rest).map (d, ·)
  | rest => do
    let (key, rest) ← readKey fuel rest
    let (v, rest) ← readValue fuel 0 (skipBlanks (← readChar '=' rest))
    return (← d.add key v, ← endLine rest)

/-- All lines of a document from here on. -/
def readDocument : (fuel : Nat) → Draft → Rest → Option Draft
  | 0, _, _ => none
  | fuel + 1, d, rest =>
    match skipBlanks rest with
    | [] => some d
    | rest => do
      let (d, rest) ← readLine fuel d rest
      readDocument fuel d rest

/-- A text without the mark of its byte order. -/
def withoutMark : List Char → List Char
  | '\uFEFF' :: rest => rest
  | rest => rest

/-- The table that a text stands for. -/
def read? (text : List Char) : Option Members :=
  let rest := withoutMark text
  (readDocument (fuelFor rest) .empty rest).map (·.root)

end PrivacyAudit.Toml
