import SuppressionAudit.Allowlist
import SuppressionAudit.Discovery
import SuppressionAudit.Linter.Process
import SuppressionAudit.ScanError

/-!
# Configuration of a scan

The mode in which a project configures the linter is told from the names of the files at its root;
the flat mode wins. Whatever lies there counts, also a directory; a name that the system refuses to
look up is an error. A scan is further told which files to look at, which file the allowlist is, and which
executable runs the linter.
-/

namespace SuppressionAudit

structure ScanConfig where
  mode : ConfigMode
  extensions : List Text
  excludeGlobs : List Text
  allowlistName : Text
  executable : Text
deriving DecidableEq, Repr

namespace ConfigMode

def flatFiles : List Text :=
  ["eslint.config.js".toList, "eslint.config.mjs".toList, "eslint.config.cjs".toList,
    "eslint.config.ts".toList]

def legacyFiles : List Text :=
  [".eslintrc.js".toList, ".eslintrc.cjs".toList, ".eslintrc.json".toList, ".eslintrc.yaml".toList,
    ".eslintrc.yml".toList, ".eslintrc".toList]

/-- Whether a project has a file of one of some names; they are looked up until one is there. -/
def hasAny (project : Project) : List Text → Except ScanError Bool
  | [] => .ok false
  | name :: names =>
    match project.hasEntry [name] with
    | .error fault => .error (.pathRefused fault)
    | .ok true => .ok true
    | .ok false => hasAny project names

def detect (project : Project) : Except ScanError ConfigMode :=
  match hasAny project flatFiles, hasAny project legacyFiles with
  | .error e, _ => .error e
  | .ok true, _ => .ok .flat
  | .ok false, .error e => .error e
  | .ok false, .ok true => .ok .legacy
  | .ok false, .ok false => .error (.configNotFound (project.pathText []))

end ConfigMode

namespace ScanConfig

def defaultExecutable : Text := "node".toList

def default : ScanConfig :=
  { mode := .flat
    extensions := Discovery.sourceExtensions
    excludeGlobs := Discovery.defaultExcludeGlobs
    allowlistName := Allowlist.defaultName
    executable := defaultExecutable }

/-- Settings in the mode that is given, or else in the mode of the project. -/
def forProject (settings : ScanConfig) (project : Project) (flat : Option Bool) :
    Except ScanError ScanConfig :=
  match flat with
  | some true => .ok { settings with mode := .flat }
  | some false => .ok { settings with mode := .legacy }
  | none => (ConfigMode.detect project).map fun mode => { settings with mode := mode }

/-- The linter that settings ask for, given how its processes end. -/
def processLinter (settings : ScanConfig) (behaviour : ProcessBehaviour) : ProcessLinter :=
  ⟨settings.executable, settings.mode, behaviour⟩

/-- The walk that settings ask for. -/
def discoveryOptions (settings : ScanConfig) : DiscoveryOptions :=
  { Discovery.defaultOptions with
    extensions := settings.extensions
    excludeGlobs := settings.excludeGlobs }

end ScanConfig

end SuppressionAudit
