import PrivacyAudit.Finding
import PrivacyAudit.Json.Reader
import PrivacyAudit.Text.Order

/-!
# package.json

The file lists dependencies in two sections, each an object of names and versions. A name that both
sections hold keeps its place and takes the version of the second; a version that is no text counts
as none. Names follow in byte order within a section. A text that is no JSON declares nothing.
-/

namespace PrivacyAudit

/-- A member put in its place among members in ascending order of names; of two with one name the
later counts. -/
def putMember (name : String) (v : Json.Value) :
    List (String × Json.Value) → List (String × Json.Value)
  | [] => [(name, v)]
  | (n, w) :: rest =>
    if name = n then (name, v) :: rest
    else if Text.Before name n then (name, v) :: (n, w) :: rest
    else (n, w) :: putMember name v rest

/-- The members of an object in ascending order of names, each name once. -/
def sortedMembers (members : List (String × Json.Value)) : List (String × Json.Value) :=
  members.foldl (fun sorted (name, v) => putMember name v sorted) []

/-- The dependencies with one more, or with another version of one that is there. -/
def declare (name : String) (version? : Option String) : List Dependency → List Dependency
  | [] => [⟨name, version?⟩]
  | d :: ds => if d.name = name then ⟨name, version?⟩ :: ds else d :: declare name version? ds

/-- The members of a section; none if there is no such object. -/
def section? (v : Json.Value) (name : String) : List (String × Json.Value) :=
  ((v.get? name).bind Json.Value.members?).getD []

/-- The names of the two sections, in the order in which they are read. -/
def dependencySections : List String := ["dependencies", "devDependencies"]

/-- The dependencies that a package description declares. -/
def packageDependencies (v : Json.Value) : List Dependency :=
  (dependencySections.flatMap fun name => sortedMembers (section? v name)).foldl
    (fun ds (name, version) => declare name version.string? ds) []

/-- The dependencies that a text declares as a package description. -/
def packageJsonDependencies (text : List Char) : List Dependency :=
  match Json.Value.read text with
  | .ok v => packageDependencies v
  | .error _ => []

end PrivacyAudit
