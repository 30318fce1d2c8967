import PrivacyAudit.Catalog.Basic
import PrivacyAudit.Disk.Basic
import PrivacyAudit.Glob.Basic
import PrivacyAudit.Settings

/-!
# Failures

What can keep an auditor from its work. What is wrong with one file of a project is no failure of
the scan: such a file is left out with a warning.
-/

namespace PrivacyAudit

/-- Why there is no auditor or no report. -/
inductive Failure
  /-- A pattern for paths was refused. -/
  | glob (r : Glob.Refusal)
  /-- A rule of a catalog was refused. -/
  | rule (r : InvalidRule)
  /-- A text is no catalog. -/
  | catalog (origin : String) (fault : Toml.Fault)
  /-- A file holds no settings. -/
  | settingsText (path : Path) (fault : Toml.Fault)
  /-- The settings are not acceptable. -/
  | settings (fault : SettingsFault)
  /-- A file cannot be read. -/
  | unreadable (path : Path) (fault : DiskFault)
  deriving Repr

/-- The failure in words; what is wrong inside a text is said by `Failure.cause?`. -/
def Failure.message : Failure → String
  | .glob r => "invalid glob pattern `" ++ r.text ++ "`: " ++ r.reason.message
  | .rule r => r.message
  | .catalog origin _ => "failed to parse catalog " ++ origin
  | .settingsText path _ => "failed to parse config " ++ path.text
  | .settings fault => fault.message
  | .unreadable path fault => "failed to read " ++ path.text ++ ": " ++ fault.message

/-- What is wrong with a TOML text. -/
def Toml.Fault.message : Toml.Fault → String
  | .malformed => "syntax"
  | .misfit m => m.message

/-- What is wrong inside the text of a catalog, a rule or settings. -/
def Failure.cause? : Failure → Option String
  | .rule r => some r.fault.message
  | .catalog _ fault | .settingsText _ fault => some fault.message
  | _ => none

/-- Why a file is left out of a report. -/
inductive FileFault
  /-- The file cannot be read. -/
  | unreadable (path : Path) (reason : String)
  /-- The file holds more bytes than allowed. -/
  | tooLarge (path : Path) (size limit : Nat)
  /-- The file does not hold text. -/
  | undecodable (path : Path)
  deriving DecidableEq, Repr

/-- The reason in words. -/
def FileFault.message : FileFault → String
  | .unreadable path reason => "failed to read " ++ path.text ++ ": " ++ reason
  | .tooLarge path size limit =>
    path.text ++ " is " ++ toString size ++ " bytes, over the " ++ toString limit ++ " byte limit"
  | .undecodable path => path.text ++ " is not UTF-8 text"

/-! ## Answers that are no failure -/

section Answers

variable {ε α : Type} {x : Except ε α}

theorem eq_ok_of_toOption {a : α} (h : x.toOption = some a) : x = .ok a := by
  cases x with
  | error e => cases h
  | ok b => exact congrArg Except.ok (Option.some.inj h)

theorem exists_ok_of_isSome (h : x.toOption.isSome = true) : ∃ a, x = .ok a := by
  obtain ⟨a, ha⟩ := Option.isSome_iff_exists.mp h
  exact ⟨a, eq_ok_of_toOption ha⟩

end Answers

end PrivacyAudit
