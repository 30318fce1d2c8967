import PrivacyAudit.Json.Typed
import PrivacyAudit.Json.Writer

/-!
# Scan options

What may be asked of a scan: which files to look at, how many at most, and whether a stored report
will do. What is left out has a default. `ScanOptions.normalized` fills the defaults in and forgets
whether a stored report would do, so that requests which ask for the same scan become equal.
-/

namespace PrivacyAudit

/-- What is asked of a scan. -/
structure ScanOptions where
  force : Bool
  include? : Option (List String)
  exclude? : Option (List String)
  maxFiles? : Option Nat
  deriving DecidableEq, Repr

/-- The request with every choice made. -/
structure NormalizedOptions where
  includes : List String
  excludes : List String
  maxFiles : Nat
  deriving DecidableEq, Repr

namespace ScanOptions

/-- Nothing in particular. -/
def default : ScanOptions := ⟨false, none, none, none⟩

/-- The files that are looked at unless others are asked for. -/
def defaultIncludes : List String :=
  ["**/*.\x7bjs,mjs,ts,jsx,tsx,vue,svelte,html,htm,xhtml,css,scss,less,json,java,kt,kts,gradle,xml,swift,m,h,plist\x7d",
    "**/Podfile"]

/-- The files that are left out unless others are to be. -/
def defaultExcludes : List String :=
  ["**/node_modules/**", "**/dist/**", "**/build/**", "**/.git/**"]

/-- The number of files that are looked at unless another is asked for. -/
def defaultMaxFiles : Nat := 1000

/-- The request with the defaults filled in. -/
def normalized (o : ScanOptions) : NormalizedOptions where
  includes := o.include?.getD defaultIncludes
  excludes := o.exclude?.getD defaultExcludes
  maxFiles := o.maxFiles?.getD defaultMaxFiles

end ScanOptions

/-- The request as a JSON object. -/
def NormalizedOptions.toJson (o : NormalizedOptions) : Json.Value := .object
  [("include_patterns", .strings o.includes), ("exclude_patterns", .strings o.excludes),
    ("max_files", .natural o.maxFiles)]

/-! ## Reading a request -/

namespace ScanOptions

open Json

/-- The members that have been read so far. -/
structure Members where
  force? : Option Bool
  include? : Option (Option (List String))
  exclude? : Option (Option (List String))
  maxFiles? : Option (Option Nat)

/-- No members yet. -/
def Members.none : Members := ⟨.none, .none, .none, .none⟩

/-- The request that the members make. -/
def Members.options (m : Members) : ScanOptions where
  force := m.force?.getD false
  include? := m.include?.join
  exclude? := m.exclude?.join
  maxFiles? := m.maxFiles?.join

/-- A list of texts or `null`. -/
def readPatterns : TypedReader (Option (List String)) := readOptional (readList readText)

/-- The value of a member behind its name; a member that is not known is passed over, and one that
is known may stand only once. -/
def readMember (m : Members) (name : String) (rest : Rest) : Except TypedFault (Members × Rest) :=
  match name with
  | "forceRescan" => do
    if m.force?.isSome then throw .mismatch
    let (v, rest) ← readBool (← textual (readColon rest))
    return ({ m with force? := some v }, rest)
  | "includePatterns" => do
    if m.include?.isSome then throw .mismatch
    let (v, rest) ← readPatterns (← textual (readColon rest))
    return ({ m with include? := some v }, rest)
  | "excludePatterns" => do
    if m.exclude?.isSome then throw .mismatch
    let (v, rest) ← readPatterns (← textual (readColon rest))
    return ({ m with exclude? := some v }, rest)
  | "maxFiles" => do
    if m.maxFiles?.isSome then throw .mismatch
    let (v, rest) ← readOptional readNatural (← textual (readColon rest))
    return ({ m with maxFiles? := some v }, rest)
  | _ => do return (m, ← passOver (← textual (readColon rest)))

/-- The members of an object from here on. -/
def readMembersFrom : (fuel : Nat) → Members → (first : Bool) → TypedReader Members
  | 0, _, _ => fun _ => throw (.text .malformed)
  | fuel + 1, m, first => fun rest => do
    match ← textual (readSeparator '}' first rest) with
    | (none, rest) => return (m, rest)
    | (some ('"' :: rest), _) =>
      let (name, rest) ← textual (readString .keep rest)
      let (m, rest) ← readMember m name rest
      readMembersFrom fuel m false rest
    | (some _, _) => throw (.text .malformed)

/-- The next item of an array, if there is one. -/
def readItem {α : Type} (read : TypedReader α) (first : Bool) (rest : Rest) :
    Except TypedFault (Option α × Rest) := do
  match ← textual (readSeparator ']' first rest) with
  | (none, _) => return (none, rest)
  | (some rest, _) =>
    let (v, rest) ← read rest
    return (some v, rest)

/-- A request written as an array: the choices in their order, as many as there are. -/
def readItems : TypedReader Members := fun rest => do
  let (force?, rest) ← readItem readBool true rest
  if force?.isNone then return (.none, rest)
  let (include?, rest) ← readItem readPatterns false rest
  if include?.isNone then return ({ Members.none with force? }, rest)
  let (exclude?, rest) ← readItem readPatterns false rest
  if exclude?.isNone then return ({ Members.none with force?, include? }, rest)
  let (maxFiles?, rest) ← readItem (readOptional readNatural) false rest
  return (⟨force?, include?, exclude?, maxFiles?⟩, rest)

/-- The end of an array that may hold no more items. -/
def readArrayEnd (rest : Rest) : Except Fault Rest :=
  match skip rest with
  | [] => .error .unfinished
  | ']' :: rest => .ok rest
  | _ => .error .malformed

/-- A request as an object or as an array, and nothing behind it. -/
def read (text : List Char) : Except TypedFault ScanOptions := do
  let (m, rest) ← match skip text with
    | '{' :: rest => readMembersFrom (rest.length + 1) .none true rest
    | '[' :: rest => do
      let (m, rest) ← readItems rest
      pure (m, ← textual (readArrayEnd rest))
    | rest => outOfPlace rest
  textual (readEnd rest)
  return m.options

end ScanOptions

end PrivacyAudit
