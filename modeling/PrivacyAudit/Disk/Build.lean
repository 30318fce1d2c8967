import PrivacyAudit.Disk.Basic

/-!
# Building disks

A disk is built entry by entry: the directories on the way to a new entry are made where they are
missing.
-/

namespace PrivacyAudit.Disk

/-- A disk with nothing but its working directory. -/
def fresh (workingDirectory : List Name) : Disk :=
  let empty : Disk := ⟨.directory [], (Path.mk [Path.slash]).joinAll workingDirectory, rfl⟩
  empty.put (workingDirectory.foldr (fun n e => .directory [(n, e)]) (.directory [])) []

/-- The disk with the directories that steps lead through. Steps that lead nowhere change
nothing. -/
def makeDirectories (d : Disk) (above : List Step) : List Step → Disk
  | [] => d
  | step :: rest =>
    let way := above ++ [step]
    match follow d.root false linkLimit [] way with
    | .ok _ => makeDirectories d way rest
    | .error _ =>
      match follow d.root true linkLimit [] way with
      | .ok place =>
        makeDirectories (d.put (.directory []) place) way rest
      | .error _ => d

/-- The steps that lead to a path from the root. -/
def stepsFromRoot (d : Disk) (p : Path) : List Step :=
  (if p.isAbsolute then [] else steps d.workingDirectory) ++ steps p

/-- The disk with a directory at a path. -/
def addDirectory (d : Disk) (p : Path) : Disk := d.makeDirectories [] (d.stepsFromRoot p)

/-- The disk with the directories above a path. -/
def addParents (d : Disk) (p : Path) : Disk := d.makeDirectories [] (d.stepsFromRoot p).dropLast

/-- The disk with a file at a path. -/
def addFile (d : Disk) (p : Path) (data : Bytes) : Disk :=
  let d := d.addParents p
  (d.writeFile p data).toOption.getD d

/-- The disk with an entry at a path, whatever stood there. -/
def addEntry (d : Disk) (p : Path) (e : Entry) : Disk :=
  let d := d.addParents p
  match d.locate true p with
  | .ok place => d.put e place
  | .error _ => d

/-- The place of an entry that is not followed if it is a link. -/
def placeOfEntry (d : Disk) (p : Path) : Option (List Name) :=
  match (d.stepsFromRoot p).getLast? with
  | some (.down n) =>
    (follow d.root false linkLimit [] (d.stepsFromRoot p).dropLast).toOption.map (· ++ [n])
  | _ => none

/-- The disk with a link at a path, unless something stands there. -/
def addLink (d : Disk) (p : Path) (target : Path) : Disk :=
  let d := d.addParents p
  match d.placeOfEntry p with
  | some place =>
    if (d.root.below? place).isSome then d
    else d.put (.link target) place
  | none => d

/-- The disk without the entry at a path. -/
def remove (d : Disk) (p : Path) : Disk :=
  match d.placeOfEntry p with
  | some place =>
    { d with root := d.root.removeBelow place, sound := Entry.isSound_removeBelow d.sound }
  | none => d

end PrivacyAudit.Disk
