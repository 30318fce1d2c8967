import PrivacyAudit.Text.Utf8

/-!
# Paths

A path is a sequence of bytes, most often UTF-8 but not always; its text shows replacement
characters where it is not. Slashes divide it into components. Empty components and single dots
other than a leading one are not seen, so a path may have many spellings.
-/

namespace PrivacyAudit

/-- The name of an entry of a directory. -/
abbrev Name := List UInt8

/-- A path as it is spelt. -/
structure Path where
  bytes : List UInt8
  deriving DecidableEq, Repr, Inhabited

namespace Path

/-- The byte between components. -/
def slash : UInt8 := 0x2F

/-- The byte of a dot. -/
def dot : UInt8 := 0x2E

/-- A path spelt by a text. -/
def ofText (s : String) : Path := ⟨Text.encode s⟩

/-- The path as a text. -/
def text (p : Path) : String := Text.decodeLossy p.bytes

/-- The parts of a byte sequence between slashes. -/
def split : List UInt8 → List (List UInt8)
  | [] => [[]]
  | b :: rest =>
    match split rest with
    | [] => [[b]]
    | part :: parts => if b = slash then [] :: part :: parts else (b :: part) :: parts

/-- Whether an entry of a directory can have the name: it stands for itself between two slashes. -/
def isName (n : Name) : Bool := n ≠ [] && !n.contains slash && n ≠ [dot] && n ≠ [dot, dot]

/-- Whether the path begins at the root of the disk. -/
def isAbsolute (p : Path) : Bool := p.bytes.head? == some slash

/-- Whether the path ends with a slash. -/
def endsWithSlash (p : Path) : Bool := p.bytes.getLast? == some slash

/-- A component of a path. -/
inductive Component
  | root
  | current
  | parent
  | name (n : Name)
  deriving DecidableEq, Repr

/-- The component that a part between slashes stands for; single dots are not seen. -/
def component? (part : List UInt8) : Option Component :=
  if part = [] ∨ part = [dot] then none
  else if part = [dot, dot] then some .parent
  else some (.name part)

/-- The components of a path. -/
def components (p : Path) : List Component :=
  let parts := split p.bytes
  let lead := if p.isAbsolute then [Component.root]
    else if parts.head? == some [dot] then [.current] else []
  lead ++ parts.filterMap component?

/-- The name that a path ends with, if it ends with one. -/
def fileName? (p : Path) : Option Name :=
  match p.components.getLast? with
  | some (.name n) => some n
  | _ => none

/-- The name that a path ends with as a text; empty if there is none or it is not UTF-8. -/
def fileNameText (p : Path) : String := (p.fileName?.bind Text.decode?).getD ""

/-- The path of an entry below a directory. An absolute path replaces the directory. -/
def join (p : Path) (below : List UInt8) : Path :=
  if below.head? == some slash ∨ p.bytes = [] ∨ p.endsWithSlash then
    ⟨if below.head? == some slash then below else p.bytes ++ below⟩
  else ⟨p.bytes ++ slash :: below⟩

/-- The path of an entry below a path of names. -/
def joinAll (p : Path) (names : List Name) : Path := names.foldl join p

/-- The spelling of components behind a path. -/
def extend (p : Path) : List Component → Path
  | [] => p
  | .root :: rest => extend ⟨[slash]⟩ rest
  | .current :: rest => extend (p.join [dot]) rest
  | .parent :: rest => extend (p.join [dot, dot]) rest
  | .name n :: rest => extend (p.join n) rest

/-- The path from the root on, where `workingDirectory` is the place that a relative path starts at.
The empty path stays empty; two leading slashes, a trailing slash and the components that lead
upwards stay. -/
def absolute (p workingDirectory : Path) : Path :=
  if p.bytes = [] then p
  else
    let seen := p.components.filter (· ≠ .current)
    let base : Path × List Component :=
      if p.isAbsolute then
        if p.bytes.take 2 = [slash, slash] ∧ p.bytes.take 3 ≠ [slash, slash, slash] then
          (⟨[slash, slash]⟩, seen.drop 1)
        else (⟨[]⟩, seen)
      else (workingDirectory, seen)
    let spelt := base.1.extend base.2
    if p.endsWithSlash then spelt.join [] else spelt

end Path

end PrivacyAudit
