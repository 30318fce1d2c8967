/-!
# Categories

The kinds of signals that the audit looks for. The libraries a program brings along are a category
of their own where they are found, and count among the third-party services in a report.
-/

namespace PrivacyAudit

/-- A kind of signal. -/
inductive Category
  | permissions
  | apis
  | thirdPartyServices
  | thirdPartyLibs
  | dataCollection
  | storage
  | tracking
  | webApis
  deriving DecidableEq, Repr

namespace Category

/-- All categories in their fixed order. -/
def all : List Category :=
  [.permissions, .apis, .thirdPartyServices, .thirdPartyLibs, .dataCollection, .storage, .tracking,
    .webApis]

/-- The name under which catalogs speak of a category. -/
def name : Category → String
  | .permissions => "permissions"
  | .apis => "apis"
  | .thirdPartyServices => "third_party_services"
  | .thirdPartyLibs => "third_party_libs"
  | .dataCollection => "data_collection"
  | .storage => "storage"
  | .tracking => "tracking"
  | .webApis => "web_apis"

/-- The category of a name. -/
def ofName? (s : String) : Option Category := all.find? (·.name == s)

theorem mem_all (c : Category) : c ∈ all := by cases c <;> decide

end Category

end PrivacyAudit
