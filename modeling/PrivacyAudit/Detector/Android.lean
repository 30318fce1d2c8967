import PrivacyAudit.Catalog.Basic
import PrivacyAudit.Detector.Basic
import PrivacyAudit.Detector.Quoted
import PrivacyAudit.Pattern.Search
import PrivacyAudit.Text.Blank

/-!
# Android projects

Sources and manifests are searched by a catalog. In a build script, which is any file whose path has
`.gradle` in it, the dependencies are listed as well: `implementation` or `api`, perhaps a bracket,
and coordinates between quotes. Coordinates of at least three parts end with a version.
-/

namespace PrivacyAudit

/-- White space. -/
def blanks : CharSet := ⟨Text.blankRanges⟩

/-- A declaration of a dependency in a build script. -/
def gradleDeclaration : Pattern := .sequence <|
  [.look (.boundary .unicode),
    .alt (.sequence ("implementation".toList.map .char)) (.sequence ("api".toList.map .char)),
    .many (.set blanks), .optional (.char '('), .many (.set blanks)] ++ quotedGroup 1

/-- The parts of a text in front of and behind its last colon. -/
def splitAtLastColon : List Char → Option (List Char × List Char)
  | [] => none
  | c :: rest =>
    match splitAtLastColon rest with
    | some (before, behind) => some (c :: before, behind)
    | none => if c = ':' then some ([], rest) else none

/-- The dependency that coordinates name. -/
def Dependency.ofCoordinates (coordinates : List Char) : Dependency :=
  match splitAtLastColon coordinates with
  | some (name, version) =>
    if name.contains ':' then ⟨String.ofList name, some (String.ofList version)⟩
    else ⟨String.ofList coordinates, none⟩
  | none => ⟨String.ofList coordinates, none⟩

/-- The dependencies that a build script declares. -/
def gradleDependencies (text : List Char) : List Dependency :=
  (gradleDeclaration.findAll text).filterMap fun found =>
    (found.group? text 1).map Dependency.ofCoordinates

/-- Whether a path belongs to a build script. -/
def isGradlePath (path : Path) : Bool := Text.contains path.text ".gradle"

/-- The detector for Android projects. -/
def Detector.android (c : Catalog) : Detector where
  name := c.name
  supports := hasExtension c.extensions
  scan content path :=
    let text := content.toList
    let f := c.apply text path (.empty c.name path)
    some (if isGradlePath path then { f with dependencies := gradleDependencies text } else f)

end PrivacyAudit
