import PrivacyAudit.Finding
import PrivacyAudit.TagSet

/-!
# Merging

The findings of a project are merged into one: the tags of a category become a set, libraries join
the third-party services, and what pages bring along is collected likewise. The names of the
detectors and the dependencies are only listed one after the other, so these two alone show how
often and in which order things were found.
-/

namespace PrivacyAudit

/-- What the pages of a project bring along. -/
structure HtmlAssets where
  externalScripts : TagSet
  metaTags : TagSet
  iframes : TagSet
  deriving DecidableEq, Repr

/-- The findings of a project taken together. -/
structure Merged where
  detectors : List String
  permissions : TagSet
  apis : TagSet
  thirdPartyServices : TagSet
  dataCollection : TagSet
  storage : TagSet
  tracking : TagSet
  webApis : TagSet
  dependencies : List Dependency
  assets : HtmlAssets
  deriving DecidableEq, Repr

namespace Merged

/-- What no findings make together. -/
def empty : Merged := ⟨[], ∅, ∅, ∅, ∅, ∅, ∅, ∅, [], ⟨∅, ∅, ∅⟩⟩

/-- One finding more. -/
def add (m : Merged) (f : Finding) : Merged where
  detectors := m.detectors ++ [f.detector]
  permissions := m.permissions.insertAll f.permissions
  apis := m.apis.insertAll f.apis
  thirdPartyServices :=
  (m.thirdPartyServices.insertAll f.thirdPartyServices).insertAll f.thirdPartyLibs
  dataCollection := m.dataCollection.insertAll f.dataCollection
  storage := m.storage.insertAll f.storage
  tracking := m.tracking.insertAll f.tracking
  webApis := m.webApis.insertAll f.webApis
  dependencies := m.dependencies ++ f.dependencies
  assets :=
    match f.html? with
    | none => m.assets
    | some h =>
      { externalScripts := m.assets.externalScripts.insertAll h.externalScripts
        metaTags := m.assets.metaTags.insertAll h.metaTags
        iframes := m.assets.iframes.insertAll h.iframes }

/-- All findings of a list taken together. -/
def ofFindings (fs : List Finding) : Merged := fs.foldl add empty

end Merged

end PrivacyAudit
