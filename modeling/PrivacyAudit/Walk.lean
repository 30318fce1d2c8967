import PrivacyAudit.Disk.Basic
import PrivacyAudit.Glob.Basic
import PrivacyAudit.Text.Lower

/-!
# Walking through a project

The files of a project are collected directory by directory, the entries of each in the byte order
of their names. Some directories are not entered: those on a fixed list, hidden ones, and those that
an exclude pattern describes with or without a slash behind them. A file counts if no exclude
pattern and some include pattern describes its path below the project; links do not count and are
not followed. The walk ends when enough files have been collected.

A directory that may not be listed stands on the disk as one with nothing in it: the walk passes
over it without a word.
-/

namespace PrivacyAudit

/-- A file of a project. -/
structure SourceFile where
  path : Path
  name : String
  relativePath : String
  data : Bytes
  deriving DecidableEq, Repr

/-- Which files to collect, and how many at most. -/
structure WalkOptions where
  includes : List Glob
  excludes : List Glob
  maxFiles : Nat
  deriving DecidableEq, Repr

/-- The directories that are never entered, in small letters. -/
def skippedDirectories : List String :=
  ["node_modules", ".git", ".vscode", ".idea", "dist", "build", "out", "coverage", ".nyc_output",
    "bower_components", "jspm_packages", "tmp", "temp"]

/-- Whether a directory of this name is never entered: it is on the list, whatever the case of its
letters, or hidden. -/
def isSkippedDirectory (name : String) : Bool :=
  let name := Text.lower name
  name.toList.head? == some '.' || skippedDirectories.contains name

/-- The text of a path of names. -/
def relativeText (names : List Name) : String := "/".intercalate (names.map Text.decodeLossy)

namespace WalkOptions

/-- The options with the patterns that texts spell out, or the first refusal: the include patterns
come before the exclude patterns. -/
def ofTexts? (includes excludes : List String) (maxFiles : Nat) :
    Except Glob.Refusal WalkOptions := do
  let includes ← Glob.ofTexts? includes
  let excludes ← Glob.ofTexts? excludes
  return ⟨includes, excludes, maxFiles⟩

/-- Whether an exclude pattern describes a directory, with or without a slash behind it. -/
def excludesDirectory (o : WalkOptions) (relative : String) : Bool :=
  Glob.anyAccepts o.excludes relative || Glob.anyAccepts o.excludes (relative ++ "/")

/-- Whether the directory that names lead to is not entered. -/
def prunes (o : WalkOptions) (names : List Name) : Bool :=
  names.getLast?.any (isSkippedDirectory ∘ Text.decodeLossy) ||
  o.excludesDirectory (relativeText names)

/-- Whether a file counts by its path below the project. -/
def accepts (o : WalkOptions) (relative : String) : Bool :=
  !Glob.anyAccepts o.excludes relative && Glob.anyAccepts o.includes relative

end WalkOptions

/-- A file below a directory: the names that lead to it, and its contents. -/
abbrev FileBelow := List Name × Bytes

/-- Puts a named part of a walk in its place by the byte order of names. -/
def placeByName {α : Type} (part : Name × α) : List (Name × α) → List (Name × α)
  | [] => [part]
  | first :: rest => if part.1 < first.1 then part :: first :: rest
      else first :: placeByName part rest

/-- The named parts of a walk in the byte order of names. -/
def sortByName {α : Type} (parts : List (Name × α)) : List (Name × α) :=
  parts.foldr placeByName []

/-- The files in an entry that `above` leads to, in the order of the walk; a directory below it for
which `prune` holds is not entered. -/
def Entry.files (prune : List Name → Bool) (above : List Name) : Entry → List FileBelow
  | .file data => [(above, data)]
  | .link _ => []
  | .directory entries => (sortByName (filesOfEntries above entries)).flatMap (·.2)
where
  /-- The files of each entry of a directory. -/
  filesOfEntries (above : List Name) : List (Name × Entry) → List (Name × List FileBelow)
    | [] => []
    | (n, e) :: rest =>
      (n, if e.isDirectory && prune (above ++ [n]) then [] else e.files prune (above ++ [n])) ::
        filesOfEntries above rest

/-- The files of the walk through a project; only a directory has any. -/
def WalkOptions.walked (o : WalkOptions) : (project : Entry) → List FileBelow
  | .directory entries => (Entry.directory entries).files o.prunes []
  | _ => []

/-- The files that count among those of a walk, until `room` of them are found. -/
def WalkOptions.gather (o : WalkOptions) : (room : Nat) → List FileBelow → List FileBelow
  | 0, _ => []
  | _, [] => []
  | room + 1, f :: rest =>
    if o.accepts (relativeText f.1) then f :: o.gather room rest else o.gather (room + 1) rest

/-- A file as it is known once its project's path is. -/
def SourceFile.ofBelow (project : Path) (f : FileBelow) : SourceFile where
  path := project.joinAll f.1
  name := Text.decodeLossy (f.1.getLast?.getD [])
  relativePath := relativeText f.1
  data := f.2

/-- The files of the project at a path. A path that leads to no directory has none. -/
def WalkOptions.collect (o : WalkOptions) (d : Disk) (project : Path) : List SourceFile :=
  let project := project.absolute d.workingDirectory
  match d.lookup project with
  | .ok e => (o.gather o.maxFiles (o.walked e)).map (.ofBelow project)
  | .error _ => []

end PrivacyAudit
