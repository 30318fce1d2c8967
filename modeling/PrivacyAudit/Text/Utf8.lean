/-!
# UTF-8

Texts are kept as strings and byte sequences as lists of bytes. `decode?` reads a sequence that is
UTF-8 from end to end. `decodeLossy` reads any sequence: each maximal start of a character that is
not continued, and each byte that starts none, becomes one replacement character.
-/

namespace PrivacyAudit.Text

/-- The bytes of a text. -/
def encode (s : String) : List UInt8 := s.toUTF8.data.toList

/-- The text that a byte sequence encodes, `none` where it is not UTF-8. -/
def decode? (bytes : List UInt8) : Option String := String.fromUTF8? ⟨bytes.toArray⟩

/-- The character that stands for bytes that are no character. -/
def replacementChar : Char := Char.ofNat 0xFFFD

/-- Where a decoder stands between two bytes. -/
inductive DecoderState
  /-- Between two characters. -/
  | boundary
  /-- Inside a character: the bits read so far, the number of bytes still owed, and the least and
  the greatest value that the next of them may have. -/
  | inside (bits owed least greatest : Nat)
  deriving Repr, DecidableEq

/-- The first byte of a character: the characters that it completes and the state after it. -/
def DecoderState.begin (b : Nat) : List Char × DecoderState :=
  if b < 0x80 then ([Char.ofNat b], .boundary)
  else if b < 0xC2 then ([replacementChar], .boundary)
  else if b < 0xE0 then ([], .inside (b - 0xC0) 1 0x80 0xBF)
  else if b = 0xE0 then ([], .inside 0 2 0xA0 0xBF)
  else if b = 0xED then ([], .inside 0xD 2 0x80 0x9F)
  else if b < 0xF0 then ([], .inside (b - 0xE0) 2 0x80 0xBF)
  else if b = 0xF0 then ([], .inside 0 3 0x90 0xBF)
  else if b < 0xF4 then ([], .inside (b - 0xF0) 3 0x80 0xBF)
  else if b = 0xF4 then ([], .inside 4 3 0x80 0x8F)
  else ([replacementChar], .boundary)

/-- One byte: the characters that it completes and the state after it. A byte that cannot continue
the character begun gives it up and is read as a first byte. -/
def DecoderState.step (b : Nat) : DecoderState → List Char × DecoderState
  | .boundary => begin b
  | .inside bits owed least greatest =>
    if least ≤ b ∧ b ≤ greatest then
      let bits := bits * 64 + (b - 0x80)
      if owed ≤ 1 then ([Char.ofNat bits], .boundary) else ([], .inside bits (owed - 1) 0x80 0xBF)
    else
      let (cs, next) := begin b
      (replacementChar :: cs, next)

/-- The characters of the remaining bytes. -/
def decodeFrom : DecoderState → List UInt8 → List Char
  | .boundary, [] => []
  | .inside .., [] => [replacementChar]
  | state, b :: rest =>
    let (cs, next) := state.step b.toNat
    cs ++ decodeFrom next rest

/-- The text of any byte sequence, with replacement characters where it is not UTF-8. -/
def decodeLossy (bytes : List UInt8) : String := String.ofList (decodeFrom .boundary bytes)

end PrivacyAudit.Text
