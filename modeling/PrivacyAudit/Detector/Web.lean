import PrivacyAudit.Catalog.Basic
import PrivacyAudit.Detector.Basic
import PrivacyAudit.Detector.PackageJson
import PrivacyAudit.Detector.Quoted
import PrivacyAudit.Pattern.Search

/-!
# Web projects

Sources are searched by a catalog. What the catalog finds entails more: analytics that track also
are a third-party service, and the use of a camera or of the position needs a permission. Pages of
markup are searched for scripts and frames from elsewhere and for meta elements; a package
description lists dependencies.
-/

namespace PrivacyAudit

/-- The tag of the analytics that are a service as well. -/
def analyticsTag : String := "GOOGLE_ANALYTICS"

/-- The extensions of pages of markup. -/
def pageExtensions : List String := ["html", "htm", "xhtml"]

/-- The name of a package description. -/
def packageJsonName : String := "package.json"

/-! ## 1. Pages -/

/-- A text in whatever case. -/
def anyCase (s : String) : List Pattern := s.toList.map fun c => .set (.caseVariants c)

/-- Any characters inside a tag. -/
def insideTag : Pattern := .many (.set (CharSet.single '>').complement)

/-- The start of an element, and its source between quotes as group 1. -/
def sourceOf (element : String) : Pattern := .sequence <|
  anyCase ("<" ++ element) ++ [insideTag] ++ anyCase "src=" ++ quotedGroup 1

/-- A script with a source. -/
def scriptSource : Pattern := sourceOf "script"

/-- A frame with a source. -/
def iframeSource : Pattern := sourceOf "iframe"

/-- A meta element. -/
def metaElement : Pattern := .sequence (anyCase "<meta" ++ [insideTag] ++ anyCase ">")

/-- The texts of group 1 of all spans of a pattern. -/
def groupTexts (p : Pattern) (text : List Char) : List String :=
  (p.findAll text).filterMap fun found => (found.group? text 1).map String.ofList

/-- What a page brings along. -/
def HtmlAnalysis.ofPage (text : List Char) : HtmlAnalysis where
  externalScripts := groupTexts scriptSource text
  metaTags := (metaElement.findAll text).map fun found => String.ofList (found.text text)
  iframes := groupTexts iframeSource text

/-! ## 2. What tags entail -/

/-- The finding with the analytics as the first service, if they track and are not a service yet. -/
def addAnalyticsService (f : Finding) : Finding :=
  if f.tracking.contains analyticsTag && !f.thirdPartyServices.contains analyticsTag then
    { f with thirdPartyServices := analyticsTag :: f.thirdPartyServices }
  else f

/-- The finding with the permissions that the interfaces of the browser ask for. -/
def addPermissions (f : Finding) : Finding :=
  let f := if f.webApis.contains "CAMERA" then f.push .permissions "CAMERA" else f
  if f.webApis.any (Text.contains · "GEOLOCATION") then f.push .permissions "LOCATION" else f

/-! ## 3. The detector -/

/-- The finding with what only files of certain names hold. -/
def addFileContents (fileName : String) (text : List Char) (f : Finding) : Finding :=
  let f := if pageExtensions.contains (fileExtension fileName) then
    { f with html? := some (.ofPage text) } else f
  if fileName = packageJsonName then { f with dependencies := packageJsonDependencies text } else f

/-- The detector for web projects. -/
def Detector.web (c : Catalog) : Detector where
  name := c.name
  supports := hasExtension c.extensions
  scan content path :=
    let text := content.toList
    let f := addAnalyticsService (c.apply text path (.empty c.name path))
    some (addPermissions (addFileContents path.fileNameText text f))

end PrivacyAudit
