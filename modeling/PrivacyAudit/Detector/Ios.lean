import PrivacyAudit.Detector.Android
import PrivacyAudit.Pattern.Search

/-!
# iOS projects

Sources and property lists are searched by a catalog. A Podfile lists dependencies: a line with
`pod`, a name between quotes, and perhaps a comma and a version between quotes.
-/

namespace PrivacyAudit

/-- The name of the file that lists pods. -/
def podfileName : String := "Podfile"

/-- A declaration of a pod. -/
def podDeclaration : Pattern := .sequence <|
  [.look .lineStart, .many (.set blanks)] ++ "pod".toList.map .char ++ [.many1 (.set blanks)] ++
    quotedGroup 1 ++
    [.optional (.sequence
      ([.many (.set blanks), .char ',', .many (.set blanks)] ++ quotedGroup 2))]

/-- The dependencies that a Podfile declares. -/
def podDependencies (text : List Char) : List Dependency :=
  (podDeclaration.findAll text).filterMap fun found =>
    (found.group? text 1).map fun name =>
      ⟨String.ofList name, (found.group? text 2).map String.ofList⟩

/-- The detector for iOS projects. -/
def Detector.ios (c : Catalog) : Detector where
  name := c.name
  supports fileName := fileName == podfileName || hasExtension c.extensions fileName
  scan content path :=
    let text := content.toList
    let f := c.apply text path (.empty c.name path)
    some (if path.fileNameText = podfileName
      then { f with dependencies := podDependencies text }
      else f)

end PrivacyAudit
