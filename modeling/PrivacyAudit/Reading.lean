import PrivacyAudit.Auditor

/-!
# Files that change during a scan

The walk says which files a scan looks at, and each of them is read later, when its turn comes. By
then it may be another file or none at all, or there may be no leave to read it: then it is left out
with a warning. Its size is asked for first, but only if there is a limit.

`Auditor.scanProjectReading` is a scan where the answers to these questions are given. Where every
file is as the walk found it, this is the scan of a disk that stays as it is, `Auditor.scanProject`.
-/

namespace PrivacyAudit

/-- What is answered about a file when its turn comes: its size and its contents, or the reasons why
not. -/
structure Reading where
  size : Except String Nat
  data : Except String Bytes

/-- The answers about a file that is as the walk found it. -/
def SourceFile.asFound (f : SourceFile) : Reading := ⟨.ok f.data.length, .ok f.data⟩

/-- Why a file is left out before its contents are read. -/
def Reading.sizeFault? (reading : Reading) (sizeLimit? : Option Nat) (path : Path) :
    Option FileFault :=
  match sizeLimit?, reading.size with
  | none, _ => none
  | some _, .error reason => some (.unreadable path reason)
  | some limit, .ok size => if limit < size then some (.tooLarge path size limit) else none

/-- What comes of looking at a file with these answers. -/
def inspectReading (ds : List Detector) (sizeLimit? : Option Nat) (reading : Reading)
    (f : SourceFile) : Outcome :=
  match reading.sizeFault? sizeLimit? f.path, reading.data with
  | some fault, _ => .error fault
  | none, .error reason => .error (.unreadable f.path reason)
  | none, .ok data => inspect ds none { f with data }

/-- What comes of looking at every file with these answers, each with the number of the file. -/
def outcomesReading (read : SourceFile → Reading) (s : Settings) (ds : List Detector)
    (schedule : Schedule) (files : List SourceFile) : List (Nat × Outcome) :=
  let work := fun f => inspectReading ds s.sizeLimit? (read f) f
  if s.parallel && files.length > 1 then schedule.run s.batchSize work files
    else runInOrder work files

/-- The report on a project with these answers. -/
def freshReportReading (read : SourceFile → Reading) (s : Settings) (ds : List Detector) (d : Disk)
    (schedule : Schedule) (t : Timing) (project : Path) (o : ScanOptions) :
    Except Failure Report := do
  let files ← requestedFiles d project o
  return .ofOutcomes (scanId project o) project t files (outcomesReading read s ds schedule files)

/-- The report on a project with these answers, and the auditor that has stored it. -/
def Auditor.scanProjectReading (a : Auditor) (read : SourceFile → Reading) (d : Disk)
    (schedule : Schedule) (t : Timing) (project : Path) (o : ScanOptions) :
    Except Failure Report × Auditor :=
  match a.answerInStore? t.lookedUp project o with
  | some r => (.ok r, a)
  | none =>
    match freshReportReading read a.settings a.detectors d schedule t project o with
    | .error failure => (.error failure, a)
    | .ok r => (.ok r, { a with store := a.store.insert t.stored r.scanId r })

end PrivacyAudit
