import PrivacyAudit.Json.Value
import PrivacyAudit.Numeral.Positional

/-!
# Writing JSON

The compact form has no white space at all. In the indented form every item and member stands on a
line of its own, two blanks deeper than what holds it, and a colon is followed by a blank; what
holds nothing stays on its line. In strings the quote, the backslash and the control characters are
escaped, all else is written as it is. An object may also be written only as far as to one of its
values.
-/

namespace PrivacyAudit.Json

/-- A hexadecimal digit in small letters. -/
def hexChar (n : Nat) : Char := if n < 10 then Char.ofNat (0x30 + n) else Char.ofNat (0x57 + n)

/-- A character as it is written inside a string. -/
def escapeChar (c : Char) : List Char :=
  if c = '"' then ['\\', '"']
  else if c = '\\' then ['\\', '\\']
  else if c.toNat = 8 then ['\\', 'b']
  else if c.toNat = 12 then ['\\', 'f']
  else if c = '\n' then ['\\', 'n']
  else if c = '\r' then ['\\', 'r']
  else if c = '\t' then ['\\', 't']
  else if c.toNat < 0x20 then ['\\', 'u', '0', '0', hexChar (c.toNat / 16), hexChar (c.toNat % 16)]
  else [c]

/-- A string between quotes. -/
def quote (s : String) : String := String.ofList ('"' :: s.toList.flatMap escapeChar ++ ['"'])

/-- A number. -/
def Number.write : Number → String
  | .natural n => toString n
  | .negative n => "-" ++ toString n
  | .decimal mantissa exponent =>
    (if mantissa < 0 then "-" else "") ++ Numeral.positional mantissa.natAbs exponent

/-- The compact form. -/
def Value.compact : Value → String
  | .null => "null"
  | .bool b => if b then "true" else "false"
  | .number n => n.write
  | .string s => quote s
  | .array items => "[" ++ ",".intercalate (compactItems items) ++ "]"
  | .object members => "\x7b" ++ ",".intercalate (compactMembers members) ++ "\x7d"
where
  /-- The items of an array. -/
  compactItems : List Value → List String
    | [] => []
    | item :: items => item.compact :: compactItems items
  /-- The members of an object. -/
  compactMembers : List (String × Value) → List String
    | [] => []
    | (name, value) :: members => (quote name ++ ":" ++ value.compact) :: compactMembers members

/-- A line break and the indentation of a level. -/
def newLine (level : Nat) : String := "\n" ++ String.ofList (List.replicate (2 * level) ' ')

/-- Lines between brackets, one level deeper. -/
def block (opening closing : String) (level : Nat) (lines : List String) : String :=
  if lines.isEmpty then opening ++ closing
  else opening ++ newLine (level + 1) ++ ("," ++ newLine (level + 1)).intercalate lines ++
    newLine level ++ closing

/-- The indented form at a level. -/
def Value.indented (level : Nat) : Value → String
  | .array items => block "[" "]" level (indentedItems (level + 1) items)
  | .object members => block "\x7b" "\x7d" level (indentedMembers (level + 1) members)
  | v => v.compact
where
  /-- The items of an array. -/
  indentedItems (level : Nat) : List Value → List String
    | [] => []
    | item :: items => item.indented level :: indentedItems level items
  /-- The members of an object. -/
  indentedMembers (level : Nat) : List (String × Value) → List String
    | [] => []
    | (name, value) :: members =>
      (quote name ++ ": " ++ value.indented level) :: indentedMembers level members

/-- The indented form. -/
def Value.pretty (v : Value) : String := v.indented 0

/-- The indented form of an object as far as to the value of a member: the members in front of it
and its name. -/
def prettyUpTo (before : List (String × Value)) (name : String) : String :=
  "\x7b" ++ newLine 1 ++
    ("," ++ newLine 1).intercalate (Value.indented.indentedMembers 1 before ++ [quote name ++ ": "])

end PrivacyAudit.Json
