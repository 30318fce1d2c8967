import PrivacyAudit.Catalog.Android
import PrivacyAudit.Catalog.Ios
import PrivacyAudit.Catalog.Web
import PrivacyAudit.Detector.Android
import PrivacyAudit.Detector.Ios
import PrivacyAudit.Detector.Web
import PrivacyAudit.Fingerprint
import PrivacyAudit.Loading
import PrivacyAudit.Outcome
import PrivacyAudit.Report
import PrivacyAudit.Schedule
import PrivacyAudit.Store

/-!
# Auditors

An auditor has settings, detectors and a store of reports. Asked for a report it answers a stored
one if there is one that is young enough and the request does not insist; otherwise it walks through
the project, looks at every file, and stores the report that it makes. A request whose patterns are
refused leaves it as it is.

Not here: the log of what is done, and a machine that has no threads to give for looking at files
side by side; there are as many as the settings ask for.
-/

namespace PrivacyAudit

/-- An auditor. -/
structure Auditor where
  settings : Settings
  detectors : List Detector
  store : Store Report

/-- The moments of a scan. -/
structure Timing where
  /-- When stored reports are looked up. -/
  lookedUp : Moment
  /-- When the report is stored. -/
  stored : Moment
  /-- When the scan begins, in milliseconds of the calendar. -/
  startedAt : Nat
  durationMs : Nat
  deriving DecidableEq, Repr

/-- What an auditor tells about itself. -/
structure Statistics where
  detectorNames : List String
  storedReports : Nat
  parallel : Bool
  batchSize : Nat
  deriving DecidableEq, Repr

/-- The number of nanoseconds in a millisecond. -/
def nanosPerMilli : Nat := 1000000

/-! ## 1. Making a report -/

/-- What comes of looking at every file, each with the number of the file. -/
def outcomes (s : Settings) (ds : List Detector) (schedule : Schedule) (files : List SourceFile) :
    List (Nat × Outcome) :=
  let work := inspect ds s.sizeLimit?
  if s.parallel && files.length > 1 then schedule.run s.batchSize work files
    else runInOrder work files

/-- The findings of an outcome. -/
def Outcome.findings : Outcome → List Finding
  | .ok fs => fs
  | .error _ => []

/-- The warnings about the files that were left out. -/
def warningsAbout (files : List SourceFile) (results : List (Nat × Outcome)) : List String :=
  results.filterMap fun (number, outcome) =>
    match files[number]?, outcome with
    | some f, .error fault => some (warning f fault)
    | _, _ => none

/-- The report that outcomes make. -/
def Report.ofOutcomes (scanId : String) (project : Path) (t : Timing) (files : List SourceFile)
    (results : List (Nat × Outcome)) : Report :=
  let merged := Merged.ofFindings (results.flatMap fun (_, outcome) => outcome.findings)
  { scanId
    projectPath := project
    startedAt := t.startedAt
    totalFiles := files.length
    filesScanned := results.countP fun (_, outcome) => !outcome.findings.isEmpty
    durationMs := t.durationMs
    merged
    warnings := warningsAbout files results
    summary := merged.summary }

/-- The files that a request asks to look at, or the reason why its patterns are refused. -/
def requestedFiles (d : Disk) (project : Path) (o : ScanOptions) :
    Except Failure (List SourceFile) := do
  let wanted := o.normalized
  let walk ← (WalkOptions.ofTexts? wanted.includes wanted.excludes wanted.maxFiles).mapError .glob
  return walk.collect d project

/-- The report on a project as it is on the disk. -/
def freshReport (s : Settings) (ds : List Detector) (d : Disk) (schedule : Schedule) (t : Timing)
    (project : Path) (o : ScanOptions) : Except Failure Report := do
  let files ← requestedFiles d project o
  return .ofOutcomes (scanId project o) project t files (outcomes s ds schedule files)

/-! ## 2. The auditor -/

namespace Auditor

/-- The file that takes the place of the catalog for Android projects. -/
def androidFileName : String := "android.toml"

/-- The file that takes the place of the catalog for iOS projects. -/
def iosFileName : String := "ios.toml"

/-- The file that takes the place of the catalog for web projects. -/
def webFileName : String := "web.toml"

/-- The built-in detectors with their catalogs, some of which may lie in a directory. -/
def builtInDetectors (d : Disk) (rulesDirectory? : Option Path) :
    Except Failure (List Detector) := do
  let android ← Catalog.loadOr Catalog.androidText d rulesDirectory? androidFileName
  let ios ← Catalog.loadOr Catalog.iosText d rulesDirectory? iosFileName
  let web ← Catalog.loadOr Catalog.webText d rulesDirectory? webFileName
  return [.android android, .ios ios, .web web]

/-- An auditor with the built-in detectors and nothing stored. -/
def new (d : Disk) (s : Settings) : Except Failure Auditor := do
  let s ← s.check.mapError .settings
  let detectors ← builtInDetectors d s.rulesDirectory?
  return ⟨s, detectors, .empty (s.lifetime * nanosPerMilli) s.capacity⟩

/-- The auditor with one detector more, the last one. -/
def addDetector (a : Auditor) (d : Detector) : Auditor := { a with detectors := a.detectors ++ [d] }

/-- What the detectors find in a text at a path. -/
def scanContent (a : Auditor) (content : String) (path : Path) : List Finding :=
  PrivacyAudit.scanContent a.detectors content path

/-- The stored report of a fingerprint, if it is young enough. -/
def storedReport (a : Auditor) (now : Moment) (scanId : String) : Option Report :=
  a.store.get? now scanId

/-- The stored report that answers a request. -/
def answerInStore? (a : Auditor) (now : Moment) (project : Path) (o : ScanOptions) :
    Option Report :=
  if o.force then none else a.storedReport now (scanId project o)

/-- The report on a project, and the auditor that has stored it. -/
def scanProject (a : Auditor) (d : Disk) (schedule : Schedule) (t : Timing) (project : Path)
    (o : ScanOptions) : Except Failure Report × Auditor :=
  match a.answerInStore? t.lookedUp project o with
  | some r => (.ok r, a)
  | none =>
    match freshReport a.settings a.detectors d schedule t project o with
    | .error failure => (.error failure, a)
    | .ok r => (.ok r, { a with store := a.store.insert t.stored r.scanId r })

/-- The auditor with nothing stored. -/
def clear (a : Auditor) : Auditor := { a with store := a.store.clear }

/-- What the auditor tells about itself. -/
def statistics (a : Auditor) : Statistics where
  detectorNames := a.detectors.map (·.name)
  storedReports := a.store.size
  parallel := a.settings.parallel
  batchSize := a.settings.batchSize

end Auditor

end PrivacyAudit
