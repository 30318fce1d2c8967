import PrivacyAudit.Merge
import PrivacyAudit.Text.Ascii

/-!
# Risk

The score of a project counts each sensitive permission twice, each third-party service once and
each tracking tag one and a half times. From 3 on the risk is medium, from 6 on it is high. A
summary adds what the project does in a few words, what the law asks for, and where data goes.
-/

namespace PrivacyAudit

/-- How grave the risk is. -/
inductive RiskLevel
  | low
  | medium
  | high
  deriving DecidableEq, Repr

/-- The rank of a level. -/
def RiskLevel.rank : RiskLevel → Nat
  | .low => 0
  | .medium => 1
  | .high => 2

/-- The name of a level. -/
def RiskLevel.name : RiskLevel → String
  | .low => "LOW"
  | .medium => "MEDIUM"
  | .high => "HIGH"

/-- The permissions that weigh most. -/
def sensitivePermissions : List String := ["CAMERA", "LOCATION_FINE", "MICROPHONE", "CONTACTS_READ"]

/-- Where data goes. -/
structure DataFlow where
  collectsPersonalData : Bool
  sharesWithThirdParties : Bool
  usesTracking : Bool
  storesLocally : Bool
  deriving DecidableEq, Repr

/-- A project in a few words. -/
structure Summary where
  level : RiskLevel
  score : Rat
  mainFeatures : List String
  complianceHints : List String
  dataFlow : DataFlow
  deriving DecidableEq, Repr

/-- The level of a score. -/
def RiskLevel.ofScore (score : Rat) : RiskLevel :=
  if 6 ≤ score then .high else if 3 ≤ score then .medium else .low

namespace Merged

/-- The number of sensitive permissions. -/
def sensitiveCount (m : Merged) : Nat := m.permissions.toList.countP sensitivePermissions.contains

/-- The score of a project. -/
def riskScore (m : Merged) : Rat :=
  2 * m.sensitiveCount + m.thirdPartyServices.size + (3 / 2) * m.tracking.size

/-- Whether the project asks where it is. -/
def usesLocation (m : Merged) : Bool := m.permissions.toList.any (Text.contains · "LOCATION")

/-- The lines of a list whose condition holds. -/
def linesThatHold (lines : List (Bool × String)) : List String :=
  lines.filterMap fun (holds, line) => if holds then some line else none

/-- What the project does in a few words. -/
def mainFeatures (m : Merged) : List String := linesThatHold
  [(m.usesLocation, "Location Services"),
    (m.permissions.toList.contains "CAMERA", "Camera/Photo"),
    (m.thirdPartyServices.toList.any (Text.contains · "ANALYTICS"), "Analytics"),
    (!m.tracking.isEmpty, "User Tracking")]

/-- What the law asks for. -/
def complianceHints (m : Merged) : List String := linesThatHold
  [(m.usesLocation,
      "Location data requires explicit user consent and clear purpose explanation"),
    (!m.thirdPartyServices.isEmpty,
      "Third-party services must be disclosed with their privacy policies"),
    (!m.tracking.isEmpty, "Tracking requires user consent and opt-out mechanisms")]

/-- Where the data of the project goes. -/
def dataFlow (m : Merged) : DataFlow where
  collectsPersonalData := !m.permissions.isEmpty || !m.dataCollection.isEmpty
  sharesWithThirdParties := !m.thirdPartyServices.isEmpty
  usesTracking := !m.tracking.isEmpty
  storesLocally := !m.storage.isEmpty

/-- The summary of a project. -/
def summary (m : Merged) : Summary where
  level := .ofScore m.riskScore
  score := m.riskScore
  mainFeatures := m.mainFeatures
  complianceHints := m.complianceHints
  dataFlow := m.dataFlow

end Merged

end PrivacyAudit
