import PrivacyAudit.Disk.Path
import PrivacyAudit.Json.Value
import PrivacyAudit.Toml.Typed

/-!
# Settings

How an auditor works: whether the files of a project are looked at side by side, how many at a time,
how long and how many reports are kept, which files are too large, and where catalogs of one's own
lie. What a settings file leaves out has a default. At least one file must be looked at at a time,
and at least one report be kept.
-/

namespace PrivacyAudit

/-- How an auditor works. -/
structure Settings where
  parallel : Bool
  /-- The number of files that are looked at at a time. -/
  batchSize : Nat
  /-- How long a report is kept, in milliseconds. -/
  lifetime : Nat
  /-- The number of reports that are kept. -/
  capacity : Nat
  /-- The number of bytes of the largest files that are looked at. -/
  sizeLimit? : Option Nat
  /-- The directory of catalogs of one's own. -/
  rulesDirectory? : Option Path
  deriving DecidableEq, Repr

/-- Why settings are refused. -/
inductive SettingsFault
  | noBatch
  | noCapacity
  deriving DecidableEq, Repr

/-- The fault in words. -/
def SettingsFault.message : SettingsFault → String
  | .noBatch => "invalid configuration: max_concurrent_scans must be at least 1"
  | .noCapacity => "invalid configuration: cache_capacity must be at least 1"

namespace Settings

/-- The settings unless others are asked for. -/
def default : Settings where
  parallel := true
  batchSize := 3
  lifetime := 300000
  capacity := 100
  sizeLimit? := none
  rulesDirectory? := none

/-- The settings themselves if they are acceptable, the first fault otherwise. -/
def check (s : Settings) : Except SettingsFault Settings :=
  if s.batchSize = 0 then .error .noBatch
  else if s.capacity = 0 then .error .noCapacity
  else .ok s

theorem check_eq_ok_iff {s t : Settings} :
    s.check = .ok t ↔ s = t ∧ 0 < s.batchSize ∧ 0 < s.capacity := by
  unfold check
  split
  · rename_i h
    simp [h]
  · split
    · rename_i h
      simp [h]
    · simp only [Except.ok.injEq]
      constructor
      · intro h
        exact ⟨h, by omega, by omega⟩
      · exact And.left

/-! ## TOML and JSON -/

open Toml in
/-- The settings with one member of a settings file. Members of other names are passed over. -/
def withMember (s : Settings) : String × Value → Except Misfit Settings
  | ("enable_parallel_scanning", v) => do return { s with parallel := ← takeBool v }
  | ("max_concurrent_scans", v) => do return { s with batchSize := ← takeNatural "usize" v }
  | ("cache_ttl_ms", v) => do return { s with lifetime := ← takeNatural "u64" v }
  | ("cache_capacity", v) => do return { s with capacity := ← takeNatural "usize" v }
  | ("max_file_size", v) => do return { s with sizeLimit? := some (← takeNatural "u64" v) }
  | ("rules_dir", v) => do
    return { s with rulesDirectory? := some (.ofText (← takeText "path string" v)) }
  | _ => .ok s

/-- The settings that a TOML text spells out. -/
def read (text : String) : Except Toml.Fault Settings :=
  Toml.readAs (·.foldlM withMember Settings.default) text

/-- The settings as a JSON object. -/
def toJson (s : Settings) : Json.Value := .object
  [("enable_parallel_scanning", .bool s.parallel), ("max_concurrent_scans", .natural s.batchSize),
    ("cache_ttl_ms", .natural s.lifetime), ("cache_capacity", .natural s.capacity),
    ("max_file_size", (s.sizeLimit?.map .natural).getD .null),
    ("rules_dir", (s.rulesDirectory?.map fun p => .string p.text).getD .null)]

end Settings

end PrivacyAudit
