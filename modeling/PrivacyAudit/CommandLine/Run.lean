import PrivacyAudit.CommandLine.Arguments
import PrivacyAudit.Reading

/-!
# Runs

A run takes the disk as it is, makes the report that the words of the command line ask for, and
writes it to the standard output or to a file. What keeps a report from being made shows before
anything is written, and so does what keeps its file from being made. Only a path that is not UTF-8
is seen while the report is being written: the report ends in front of it, what has been written
stays, and the run fails.

Not here: the log that is kept beside the report, and what may go wrong when a disk fills up or a
reader goes away.
-/

namespace PrivacyAudit.CommandLine

/-! ## 1. Settings -/

/-- How many files are to be looked at at a time. -/
inductive Concurrency
  /-- As many as there are processors. -/
  | processors
  | count (n : Nat)
  deriving DecidableEq, Repr

/-- How many files are to be looked at at a time, if the text is one that can be followed. -/
def Concurrency.read (s : String) : Option Concurrency :=
  if Text.equalIgnoringAsciiCase s "auto" then some .processors
  else ((Numeral.readCount s).filter (0 < ·)).map .count

/-- The number of processors of a machine. -/
abbrev Processors := { n : Nat // 0 < n }

/-- The number of files that are looked at at a time. -/
def Concurrency.value (processors : Processors) : Concurrency → Nat
  | .processors => processors
  | .count n => n

/-- Settings with what the command line says. A text that cannot be followed changes nothing. -/
def adjust (processors : Processors) (concurrency? : Option String) (sequential : Bool)
    (s : Settings) : Settings :=
  let s := match concurrency?.bind Concurrency.read with
    | some c => { s with batchSize := c.value processors }
    | none => s
  if sequential then { s with parallel := false } else s

/-- Why a run fails. -/
inductive RunFault
  | noDirectory (input : Path)
  | settings (config : Path) (cause : Failure)
  | auditor (cause : Failure)
  | scan (cause : Failure)
  | output (cause : DiskFault)
  /-- The path of the project is not UTF-8. -/
  | path
  deriving Repr

/-- The fault in words. -/
def RunFault.message : RunFault → String
  | .noDirectory input => "input " ++ input.text ++ " is not a directory"
  | .settings config _ => "load config " ++ config.text
  | .auditor _ => "build scanner manager"
  | .scan _ => "scan project failed"
  | .output _ => "create output file"
  | .path => "write report"

/-- What lies behind a fault. -/
def RunFault.cause? : RunFault → Option String
  | .noDirectory _ => none
  | .settings _ cause | .auditor cause | .scan cause => some cause.message
  | .output cause => some cause.message
  | .path => some "path contains invalid UTF-8 characters"

/-- The settings of a run: those of a file or the defaults, with what the command line says. -/
def settingsOf (d : Disk) (processors : Processors) (config? : Option Path)
    (concurrency? : Option String) (sequential : Bool) : Except RunFault Settings :=
  let loaded : Except RunFault Settings := match config? with
    | none => .ok .default
    | some config => (Settings.load d config).mapError (.settings config)
  loaded.map (adjust processors concurrency? sequential)

/-! ## 2. Runs -/

/-- What is asked of the scan. -/
def Arguments.options (a : Arguments) : ScanOptions where
  force := a.force
  include? := if a.includes.isEmpty then none else some a.includes
  exclude? := if a.excludes.isEmpty then none else some a.excludes
  maxFiles? := a.maxFiles?

/-- The world around a run. -/
structure Surroundings where
  disk : Disk
  processors : Processors
  schedule : Schedule
  timing : Timing

/-- The auditor of a run. -/
def auditorOf (w : Surroundings) (a : Arguments) : Except RunFault Auditor := do
  if !w.disk.isDirectory a.input then throw (.noDirectory a.input)
  let settings ← settingsOf w.disk w.processors a.config? a.concurrency? a.sequential
  (Auditor.new w.disk settings).mapError .auditor

/-- The report that is asked for, with these answers when files are read. -/
def reportReading (read : SourceFile → Reading) (w : Surroundings) (a : Arguments) :
    Except RunFault Report := do
  let auditor ← auditorOf w a
  (auditor.scanProjectReading read w.disk w.schedule w.timing a.input a.options).1.mapError .scan

/-- The report that is asked for, where every file is read as it was found. -/
def report (w : Surroundings) (a : Arguments) : Except RunFault Report :=
  reportReading SourceFile.asFound w a

/-- The text of a report: indented JSON and a line break. -/
def reportText (r : Report) : String := r.toJson.pretty ++ "\n"

/-- What a run leaves. -/
structure Result where
  exitCode : Nat
  standardOutput : String
  standardError : String
  disk : Disk

/-- The name and the version of the program. -/
def versionText : String := "privscan 0.1.0\n"

/-- How the program is used. -/
def usageText : String :=
  "Usage: privscan scan --input <INPUT> [--output <OUTPUT>] [--force] [--include <INCLUDE>]\n" ++
  "         [--exclude <EXCLUDE>] [--max-files <MAX_FILES>] [--concurrency <CONCURRENCY>]\n" ++
  "         [--sequential] [--config <CONFIG>]\n"

/-- The text of a fault: the fault, and what lies behind it. -/
def faultText (fault : RunFault) : String :=
  "Error: " ++ fault.message ++ "\n" ++
    match fault.cause? with
    | some cause => "\nCaused by:\n    " ++ cause ++ "\n"
    | none => ""

/-- What is written of a report, and the fault at which it breaks off. -/
def writing (r : Report) : String × Option RunFault :=
  match Text.decode? r.projectPath.bytes with
  | some _ => (reportText r, none)
  | none => (r.beginning, some .path)

/-- Delivers a text: what is on the standard output, and the disk. -/
def deliver (d : Disk) (output? : Option Path) (text : String) : Except RunFault (String × Disk) :=
  match output? with
  | none => .ok (text, d)
  | some output =>
    ((d.writeFile output (Text.encode text)).mapError .output).map fun written => ("", written)

/-- What a run without a scan leaves. -/
def Result.ofStop (d : Disk) : Stop → Result
  | .versionAsked => ⟨0, versionText, "", d⟩
  | .helpAsked => ⟨0, usageText, "", d⟩
  | _ => ⟨2, "", usageText, d⟩

/-- What a scan leaves that comes to nothing. -/
def Result.ofFault (d : Disk) (fault : RunFault) : Result := ⟨1, "", faultText fault, d⟩

/-- What a scan leaves once its report is made or has failed. -/
def Result.ofReport (d : Disk) (output? : Option Path) (made : Except RunFault Report) : Result :=
  match made with
  | .error fault => .ofFault d fault
  | .ok r =>
    let (text, broken?) := writing r
    match deliver d output? text with
    | .error fault => .ofFault d fault
    | .ok (shown, written) =>
      match broken? with
      | none => ⟨0, shown, "", written⟩
      | some fault => ⟨1, shown, faultText fault, written⟩

/-- Runs a scan. -/
def scan (w : Surroundings) (a : Arguments) : Result := .ofReport w.disk a.output? (report w a)

/-- Runs the program with words behind its name. -/
def run (w : Surroundings) (words : List String) : Result :=
  match Arguments.read words with
  | .error stop => .ofStop w.disk stop
  | .ok a => scan w a

end PrivacyAudit.CommandLine
