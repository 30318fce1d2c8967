import PrivacyAudit.Json.Writer
import PrivacyAudit.Risk

/-!
# Reports

The report on a project: what was asked, what the findings make together, which files were left out
and why, and the summary. As JSON the members stand in a fixed order, those of the merged findings
between the times and the warnings.

The path of the project stands in the JSON as a text. One that is not UTF-8 is shown with
replacement characters there (`Report.toJson`), but it cannot be written: then the text of the
report ends in front of it (`Report.beginning`).
-/

namespace PrivacyAudit

/-- The report on a project. Times are in milliseconds. -/
structure Report where
  scanId : String
  projectPath : Path
  startedAt : Nat
  totalFiles : Nat
  /-- The number of files in which something was found. -/
  filesScanned : Nat
  durationMs : Nat
  merged : Merged
  warnings : List String
  summary : Summary
  deriving DecidableEq, Repr

/-! ## JSON -/

/-- A dependency; the version stands only where there is one. -/
def Dependency.toJson (d : Dependency) : Json.Value :=
  .object (("name", .string d.name) :: (d.version?.map fun v => ("version", .string v)).toList)

/-- What pages bring along. -/
def HtmlAssets.toJson (a : HtmlAssets) : Json.Value := .object
  [("externalScripts", .strings a.externalScripts.toList), ("metaTags", .strings a.metaTags.toList),
    ("iframes", .strings a.iframes.toList)]

/-- The members that merged findings have in a report. -/
def Merged.members (m : Merged) : List (String × Json.Value) :=
  [("scanners", .strings m.detectors), ("permissions", .strings m.permissions.toList),
    ("apis", .strings m.apis.toList), ("thirdPartyServices", .strings m.thirdPartyServices.toList),
    ("dataCollection", .strings m.dataCollection.toList), ("storage", .strings m.storage.toList),
    ("tracking", .strings m.tracking.toList), ("webApis", .strings m.webApis.toList),
    ("dependencies", .array (m.dependencies.map Dependency.toJson)),
    ("htmlAssets", m.assets.toJson)]

/-- A score, which is a multiple of one half, with one decimal place. -/
def scoreToJson (score : Rat) : Json.Value := .number (.decimal (score * 10).floor (-1))

/-- Where data goes. -/
def DataFlow.toJson (f : DataFlow) : Json.Value := .object
  [("collectsPersonalData", .bool f.collectsPersonalData),
    ("sharesWithThirdParties", .bool f.sharesWithThirdParties),
    ("usesTracking", .bool f.usesTracking), ("storesLocally", .bool f.storesLocally)]

/-- A project in a few words. -/
def Summary.toJson (s : Summary) : Json.Value := .object
  [("privacyRiskLevel", .string s.level.name), ("riskScore", scoreToJson s.score),
    ("mainFeatures", .strings s.mainFeatures), ("complianceHints", .strings s.complianceHints),
    ("dataFlow", s.dataFlow.toJson)]

/-- A report. -/
def Report.toJson (r : Report) : Json.Value := .object <|
  [("scanId", .string r.scanId), ("projectPath", .string r.projectPath.text),
    ("startedAt", .natural r.startedAt), ("totalFiles", .natural r.totalFiles),
    ("filesScanned", .natural r.filesScanned), ("durationMs", .natural r.durationMs)] ++
  r.merged.members ++ [("warnings", .strings r.warnings), ("summary", r.summary.toJson)]

/-- The text of a report as far as to the path of the project. -/
def Report.beginning (r : Report) : String :=
  Json.prettyUpTo [("scanId", .string r.scanId)] "projectPath"

end PrivacyAudit
