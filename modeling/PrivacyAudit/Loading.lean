import PrivacyAudit.Catalog.Reader
import PrivacyAudit.Failure

/-!
# Loading catalogs and settings

Catalogs and settings are read from files. A catalog of one's own takes the place of a built-in one
if a file of the right name lies in the directory for them; a settings file that is missing stands
for the defaults, but one that is there must be in order.
-/

namespace PrivacyAudit

/-- The catalog that a TOML text spells out; `origin` says where the text comes from. -/
def Catalog.ofToml (text origin : String) : Except Failure Catalog :=
  match CatalogText.read text with
  | .error fault => .error (.catalog origin fault)
  | .ok c => c.compile.mapError .rule

/-- The catalog in a file. -/
def Catalog.load (d : Disk) (path : Path) : Except Failure Catalog :=
  match d.readText path with
  | .error fault => .error (.unreadable path fault)
  | .ok text => Catalog.ofToml text path.text

/-- The catalog in a file of the directory, the built-in one if there is no directory or no such
file. -/
def Catalog.loadOr (builtIn : CatalogText) (d : Disk) (directory? : Option Path)
    (fileName : String) : Except Failure Catalog :=
  match directory? with
  | none => builtIn.compile.mapError .rule
  | some directory =>
    let path := directory.join (Text.encode fileName)
    if d.isFile path then Catalog.load d path else builtIn.compile.mapError .rule

/-- The settings in a file. -/
def Settings.load (d : Disk) (path : Path) : Except Failure Settings :=
  if d.exists? path then
    match d.readText path with
    | .error fault => .error (.unreadable path fault)
    | .ok text =>
      match Settings.read text with
      | .error fault => .error (.settingsText path fault)
      | .ok s => s.check.mapError .settings
  else .ok .default

end PrivacyAudit
