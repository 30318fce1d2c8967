import PrivacyAudit.Disk.Entry

/-!
# Disks

A disk is a tree of directories, files and symbolic links, with a working directory at which
relative paths start. A path is followed component by component from there; a link on the way is
replaced by what it points to, and at most forty links are followed. `Disk.lookup` answers the entry
that a path leads to or the reason why it leads nowhere.
-/

namespace PrivacyAudit

/-- A disk. -/
structure Disk where
  root : Entry
  workingDirectory : Path
  sound : root.isSound
  deriving Repr

/-- Why a path cannot be used. -/
inductive DiskFault
  | notFound
  | notDirectory
  | isDirectory
  | tooManyLinks
  | notText
  deriving DecidableEq, Repr

/-- The reason in words. -/
def DiskFault.message : DiskFault → String
  | .notFound => "No such file or directory (os error 2)"
  | .notDirectory => "Not a directory (os error 20)"
  | .isDirectory => "Is a directory (os error 21)"
  | .tooManyLinks => "Too many levels of symbolic links (os error 40)"
  | .notText => "stream did not contain valid UTF-8"

namespace Disk

/-- A step of a way through a disk. -/
inductive Step
  | here
  | up
  | down (n : Name)
  deriving DecidableEq, Repr

/-- The steps of a path; a trailing slash asks for a directory. -/
def steps (p : Path) : List Step :=
  let parts := (Path.split p.bytes).filter (· ≠ [])
  (parts.map fun part =>
    if part = [Path.dot] then Step.here
    else if part = [Path.dot, Path.dot] then Step.up
    else Step.down part) ++
  (if p.endsWithSlash then [.here] else [])

/-- Follows steps from a place on. `mayCreate` allows the last name to be new; `onLink` goes on
where a link points to. -/
def walk (root : Entry) (mayCreate : Bool)
    (onLink : (place : List Name) → List Step → Except DiskFault (List Name)) :
    (place : List Name) → List Step → Except DiskFault (List Name)
  | place, [] => .ok place
  | place, step :: rest =>
    match root.below? place with
    | none => .error .notFound
    | some (.file _) => .error .notDirectory
    | some (.link _) => .error .notDirectory
    | some (.directory entries) =>
      match step with
      | .here => walk root mayCreate onLink place rest
      | .up => walk root mayCreate onLink place.dropLast rest
      | .down n =>
        match Entry.find? entries n with
        | none => if mayCreate && rest.isEmpty then .ok (place ++ [n]) else .error .notFound
        | some (.link target) =>
          if target.bytes = [] then .error .notFound
          else onLink (if target.isAbsolute then [] else place) (steps target ++ rest)
        | some _ => walk root mayCreate onLink (place ++ [n]) rest

/-- Follows steps and at most `links` links. -/
def follow (root : Entry) (mayCreate : Bool) :
    (links : Nat) → (place : List Name) → List Step → Except DiskFault (List Name)
  | 0 => walk root mayCreate fun _ _ => .error .tooManyLinks
  | links + 1 => walk root mayCreate (follow root mayCreate links)

/-- The number of links that are followed on one way. -/
def linkLimit : Nat := 40

/-- The place that a path leads to. -/
def locate (d : Disk) (mayCreate : Bool) (p : Path) : Except DiskFault (List Name) :=
  if p.bytes = [] then .error .notFound
  else
    let start := if p.isAbsolute then [] else steps d.workingDirectory
    follow d.root mayCreate linkLimit [] (start ++ steps p)

/-- The entry that a path leads to. -/
def lookup (d : Disk) (p : Path) : Except DiskFault Entry := do
  let place ← d.locate false p
  match d.root.below? place with
  | some e => return e
  | none => throw .notFound

/-- The disk with an entry put where names lead to; nothing changes if no file system could have it
there. -/
def put (d : Disk) (e : Entry) (place : List Name) : Disk :=
  if h : e.isSound ∧ place.all Path.isName then
    { d with root := d.root.putBelow e place, sound := Entry.isSound_putBelow d.sound h.1 h.2 }
  else d

/-- Whether a path leads anywhere. -/
def exists? (d : Disk) (p : Path) : Bool := (d.lookup p).toOption.isSome

/-- Whether a path leads to a file. -/
def isFile (d : Disk) (p : Path) : Bool := (d.lookup p).toOption.any Entry.isFile

/-- Whether a path leads to a directory. -/
def isDirectory (d : Disk) (p : Path) : Bool := (d.lookup p).toOption.any Entry.isDirectory

/-- The contents of the file that a path leads to. -/
def contents (d : Disk) (p : Path) : Except DiskFault Bytes := do
  match ← d.lookup p with
  | .file data => return data
  | .directory _ => throw .isDirectory
  | .link _ => throw .notFound

/-- The contents of a file as a text. -/
def readText (d : Disk) (p : Path) : Except DiskFault String := do
  match Text.decode? (← d.contents p) with
  | some s => return s
  | none => throw .notText

/-- The disk with a file written: a new one, or one whose contents are replaced. -/
def writeFile (d : Disk) (p : Path) (data : Bytes) : Except DiskFault Disk := do
  let place ← d.locate true p
  match d.root.below? place with
  | some (.directory _) => throw .isDirectory
  | _ => return d.put (.file data) place

end Disk

end PrivacyAudit
