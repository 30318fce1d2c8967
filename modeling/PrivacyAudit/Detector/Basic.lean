import PrivacyAudit.Finding
import PrivacyAudit.Text.Ascii
import PrivacyAudit.Text.Lower

/-!
# Detectors

A detector looks at the text of a file and answers what it found. It says by the name of a file
whether it is meant for it. A detector may fail on a text; then it has no answer, and no harm is
done to others.
-/

namespace PrivacyAudit

/-- The part of a text behind its last dot, if there is a dot. -/
def behindLastDot : List Char → Option (List Char)
  | [] => none
  | c :: rest =>
    match behindLastDot rest with
    | some found => some found
    | none => if c = '.' then some rest else none

/-- The extension of a file name in lower case: what stands behind its last dot. -/
def fileExtension (fileName : String) : String :=
  String.ofList ((behindLastDot (Text.lower fileName).toList).getD [])

/-- Whether a file name has one of the extensions, which are in lower case. -/
def hasExtension (extensions : List String) (fileName : String) : Bool :=
  extensions.contains (fileExtension fileName)

/-- A detector. -/
structure Detector where
  name : String
  /-- Whether it is meant for files of a name. -/
  supports : String → Bool
  /-- What it finds in a text at a path, `none` where it fails. -/
  scan : String → Path → Option Finding

namespace Detector

/-- What the detector adds to the findings of a file: nothing where it fails or finds nothing. -/
def contribution (d : Detector) (content : String) (path : Path) : Option Finding :=
  (d.scan content path).filter Finding.hasSignal

/-- A detector that adds one tag to a category if a text contains `needle`, and fails if the text
contains `trap?`. -/
def ofNeedle (name : String) (extensions : List String) (needle : String) (category : Category)
    (tag : String) (trap? : Option String) : Detector where
  name
  supports := hasExtension extensions
  scan content path :=
    if trap?.any (Text.contains content) then none
    else
      let f := Finding.empty name path
      some (if Text.contains content needle then f.push category tag else f)

end Detector

/-- The detectors among `ds` that are meant for files of this name. -/
def supporting (ds : List Detector) (fileName : String) : List Detector :=
  ds.filter (·.supports fileName)

/-- What the detectors find in a text at a path, detector by detector. -/
def scanContent (ds : List Detector) (content : String) (path : Path) : List Finding :=
  (supporting ds path.fileNameText).filterMap (·.contribution content path)

end PrivacyAudit
