import PrivacyAudit.Disk.Path
import PrivacyAudit.Numeral.Base36
import PrivacyAudit.Options
import PrivacyAudit.Text.Utf16

/-!
# Fingerprints

A scan is known by a short text, the fingerprint of the project's path and of what is asked. The
path's text, a colon and the compact JSON of the normalized options are hashed over their UTF-16
code units: the hash is multiplied by 31 and the next unit added, in 32-bit integers that wrap
around. The absolute value is written in base 36.
-/

namespace PrivacyAudit

/-- The hash of code units. -/
def rollingHash (units : List UInt16) : Int32 :=
  units.foldl (fun h u => h * 31 + Int32.ofNat u.toNat) 0

/-- The numeral of the absolute value of a text's hash. -/
def hashNumeral (s : String) : String := Numeral.base36 (rollingHash (Text.units16 s)).toInt.natAbs

/-- The text that tells one request from another. -/
def fingerprintText (project : Path) (options : ScanOptions) : String :=
  project.text ++ ":" ++ options.normalized.toJson.compact

/-- The fingerprint of a request. -/
def scanId (project : Path) (options : ScanOptions) : String :=
  "scan_" ++ hashNumeral (fingerprintText project options)

end PrivacyAudit
