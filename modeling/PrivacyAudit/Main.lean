import PrivacyAudit.CommandLine.Run
import PrivacyAudit.Disk.Build
import Std.Time.DateTime.Timestamp

/-!
# The program

A run is a function of the disk and of what is answered when files are read. So the program first
copies what a run can look at from the machine's disk, then makes the report, and last writes what
the run leaves. Nothing is decided here.

Directories that no walk enters are not copied, and one that cannot be listed is copied without what
is in it. A file that cannot be read is copied as an empty one, with the reason, which is answered
when its turn comes. A link on the way to a path that the command line names is followed while
copying; other links stay links. Words that are not UTF-8 come with replacement characters.
-/

namespace PrivacyAudit.Program

open CommandLine

/-! ## 1. Copying the disk -/

/-- The contents of a file of the machine's disk. -/
def readBytes (name : String) : IO Bytes := do return (← IO.FS.readBinFile name).toList

/-- What stands at a path of the machine's disk, behind links; nothing if there is nothing. -/
def kindOf? (name : String) : IO (Option IO.FS.FileType) := do
  let here ← IO.currentDir
  try return some (← (here / name).metadata).type
  catch _ => return none

/-- The target of a link as a path without links; empty if it leads nowhere. -/
def targetOf (link : IO.FS.DirEntry) : IO Path := do
  try return .ofText (← IO.FS.realPath link.path).toString
  catch _ => return .ofText ""

/-- A file below the project that cannot be read, and what is answered about it. -/
structure Unreadable where
  names : List Name
  answers : Reading

/-- The words of the machine for what went wrong. -/
def reasonOf : IO.Error → String
  | .permissionDenied _ code details | .noFileOrDirectory _ code details
  | .resourceExhausted _ code details | .hardwareFault code details | .otherError code details =>
    details ++ " (os error " ++ toString code ++ ")"
  | fault => toString fault

/-- A copy of the members of a directory that names lead to, and the files among them that cannot be
read. -/
partial def copyMembers (above : List Name) (members : Array IO.FS.DirEntry) :
    StateT (List Unreadable) IO (List (Name × Entry)) := do
  let mut copies := []
  for member in members do
    let name := Text.encode member.fileName
    try
      let about ← member.path.symlinkMetadata
      match about.type with
      | .dir =>
        let below ←
          if isSkippedDirectory member.fileName then pure #[]
          else try member.path.readDir catch _ => pure #[]
        copies := (name, .directory (← copyMembers (above ++ [name]) below)) :: copies
      | .file =>
        let data ← try Except.ok <$> IO.FS.readBinFile member.path catch fault =>
            pure (.error fault)
        match data with
        | .ok data => copies := (name, .file data.toList) :: copies
        | .error fault =>
          let answers : Reading := ⟨.ok about.byteSize.toNat, .error (reasonOf fault)⟩
          modify (⟨above ++ [name], answers⟩ :: ·)
          copies := (name, .file []) :: copies
      | .symlink => copies := (name, .link (← targetOf member)) :: copies
      | .other => pure ()
    catch _ => pure ()
  return copies

/-- The disk with a copy of a directory and all that is below it, and the files below that cannot be
read. -/
def copyTree (d : Disk) (p : Path) : IO (Disk × List Unreadable) := do
  if (← kindOf? p.text) matches some .dir then
    let here ← IO.currentDir
    let members ← (here / p.text).readDir
    let (copies, unreadable) ← (copyMembers [] members).run []
    return (d.addEntry p (.directory copies), unreadable)
  else return (d, [])

/-- The disk with a copy of the file at a path, or with an empty directory where there is a
directory. -/
def copyFile (d : Disk) (p : Path) : IO Disk := do
  match ← kindOf? p.text with
  | some .file => return d.addFile p (← readBytes p.text)
  | some .dir => return d.addDirectory p
  | _ => return d

/-- The disk with a directory where the file at a path may be written. -/
def copyParent (d : Disk) (p : Path) : IO Disk := do
  match p.fileName? with
  | none => return d
  | some name =>
    let above : Path := ⟨p.bytes.take (p.bytes.length - name.length)⟩
    if above.bytes = [] then return d
    if (← kindOf? above.text) matches some .dir then return d.addDirectory above else return d

/-- The number of processors of the machine, as far as it tells. -/
def countProcessors : IO Processors := do
  try
    let lines := (← IO.FS.lines "/proc/cpuinfo").toList
    let n := lines.countP (·.startsWith "processor")
    if h : 0 < n then return ⟨n, h⟩ else return ⟨1, Nat.one_pos⟩
  catch _ => return ⟨1, Nat.one_pos⟩

/-- What is answered about a file of a project when it is read. -/
def answering (project : Path) (unreadable : List Unreadable) (f : SourceFile) : Reading :=
  match unreadable.find? fun u => project.joinAll u.names = f.path with
  | some u => u.answers
  | none => f.asFound

/-- The part of the machine's disk that a scan can look at, and what is answered when files are
read. -/
def copyDisk (processors : Processors) (a : Arguments) : IO (Disk × (SourceFile → Reading)) := do
  let here := (← IO.currentDir).toString
  let empty := Disk.fresh ((Path.split (Text.encode here)).filter (· ≠ []))
  let (tree, unreadable) ← copyTree empty a.input
  let read := answering (a.input.absolute empty.workingDirectory) unreadable
  let mut d := tree
  for config in a.config? do
    d ← copyFile d config
  for output in a.output? do
    d ← copyFile (← copyParent d output) output
  match settingsOf d processors a.config? a.concurrency? a.sequential with
  | .error _ => return (d, read)
  | .ok s =>
    for directory in s.rulesDirectory? do
      for name in [Auditor.androidFileName, Auditor.iosFileName, Auditor.webFileName] do
        d ← copyFile d (directory.join (Text.encode name))
    return (d, read)

/-! ## 2. Running -/

/-- The milliseconds of the calendar. -/
def calendar : IO Nat := do return (← Std.Time.Timestamp.now).toMillisecondsSinceUnixEpoch.val.toNat

/-- Writes what a run leaves, where the file for the report is no longer as it was, and answers the
exit code. -/
def leave (before : Disk) (output? : Option Path) (r : Result) : IO UInt32 := do
  for output in output? do
    for data in (r.disk.contents output).toOption do
      if (before.contents output).toOption ≠ some data then
        IO.FS.writeBinFile output.text ⟨data.toArray⟩
  IO.print r.standardOutput
  IO.eprint r.standardError
  return r.exitCode.toUInt32

/-- Makes the report that is asked for, and leaves it. -/
def scan (a : Arguments) : IO UInt32 := do
  let startedAt ← calendar
  let began ← IO.monoNanosNow
  let processors ← countProcessors
  let (disk, read) ← copyDisk processors a
  let w : Surroundings := ⟨disk, processors, .inOrder, ⟨began, began, startedAt, 0⟩⟩
  match reportReading read w a with
  | .error fault => leave disk a.output? (.ofReport disk a.output? (.error fault))
  | .ok r =>
    let durationMs := ((← IO.monoNanosNow) - began) / nanosPerMilli
    leave disk a.output? (.ofReport disk a.output? (.ok { r with durationMs }))

end PrivacyAudit.Program

/-- Runs the program. -/
def main (words : List String) : IO UInt32 :=
  match PrivacyAudit.CommandLine.Arguments.read words with
  | .error stop => PrivacyAudit.Program.leave (.fresh []) none (.ofStop (.fresh []) stop)
  | .ok a => PrivacyAudit.Program.scan a
