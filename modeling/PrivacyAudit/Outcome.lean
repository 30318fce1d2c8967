import PrivacyAudit.Detector.Basic
import PrivacyAudit.Failure
import PrivacyAudit.Walk

/-!
# Outcomes

What comes of looking at one file of a project: the findings in its text, or the reason why it is
left out. A file is left out if it is larger than allowed, if it looks like no text, or if it is no
UTF-8, in this order. Whether it looks like text is judged by its first bytes only.
-/

namespace PrivacyAudit

/-- What comes of looking at a file. -/
abbrev Outcome := Except FileFault (List Finding)

/-- The number of bytes by which a file is judged. -/
def sampleSize : Nat := 8192

/-- Whether a byte occurs in texts: no control character other than tab and line breaks. -/
def isTextByte (b : UInt8) : Bool := b == 0x09 || b == 0x0A || b == 0x0D || (0x20 ≤ b && b != 0x7F)

/-- A part of a whole, as a quotient in single precision. -/
def shareOf (part whole : Nat) : Float32 := part.toUInt64.toFloat32 / whole.toUInt64.toFloat32

/-- Whether the first bytes of a file look like no text: there is a zero byte, or fewer than a
quarter of them occur in texts. A file without bytes does not. -/
def looksBinary (data : Bytes) : Bool :=
  let sample := data.take sampleSize
  if sample.isEmpty then false
  else sample.contains 0 || shareOf (sample.countP isTextByte) sample.length < 0.25

/-- The findings in the text of a file. -/
def inspect (ds : List Detector) (sizeLimit? : Option Nat) (f : SourceFile) : Outcome :=
  match sizeLimit?.filter (· < f.data.length) with
  | some limit => .error (.tooLarge f.path f.data.length limit)
  | none =>
    if looksBinary f.data then .error (.undecodable f.path)
    else
      match Text.decode? f.data with
      | none => .error (.undecodable f.path)
      | some content => .ok (scanContent ds content f.path)

/-- The warning about a file that was left out. -/
def warning (f : SourceFile) (fault : FileFault) : String := f.relativePath ++ ": " ++ fault.message

end PrivacyAudit
