import SuppressionAudit.Glob.Pattern
import SuppressionAudit.Notice
import SuppressionAudit.StableSort
import SuppressionAudit.Tree.Project

/-!
# Discovery

The walk that finds the source files of a project. It skips hidden entries and links unless it is
told to take them, directories with a pruned name at any depth, and everything that the exclusion
patterns match; a directory is matched with a slash at its end, so a pattern for its contents leaves
it out as a whole. A directory that refuses to be listed costs its own contents and gives a warning;
so does one with an entry that cannot be looked up, for what is listed after it. Such an entry is met
first of all, before its name is looked at; the target of a link is looked up only when the link is
followed. The files are sorted by their names along the path.

The walk goes down as far as the tree does. How deep a stack the program has is left aside here, as it
is where patterns are matched.
-/

namespace SuppressionAudit

/-- What the walk takes and leaves out. -/
structure DiscoveryOptions where
  extensions : List Text
  excludeGlobs : List Text
  followLinks : Bool
  includeHidden : Bool
  prunedNames : List Text
  keep : List Text → Bool

namespace Discovery

/-! ### Defaults -/

def sourceExtensions : List Text :=
  [".js".toList, ".jsx".toList, ".ts".toList, ".tsx".toList]

/-- The patterns of what is left out: dependencies, build products, caches and settings. -/
def defaultExcludeGlobs : List Text :=
  ["node_modules/**".toList, ".next/**".toList, "out/**".toList, "dist/**".toList,
    "build/**".toList, "coverage/**".toList, "logs/**".toList, "tmp/**".toList, ".expo/**".toList,
    ".expo-shared/**".toList, ".turbo/**".toList, ".vercel/**".toList, ".firebase/**".toList,
    ".idea/**".toList, ".vscode/**".toList, ".husky/**".toList, "android/**".toList,
    "ios/**".toList, "public/**".toList, "static/**".toList, ".cache/**".toList,
    ".storybook/**".toList, ".git/**".toList, ".DS_Store".toList, "*.log".toList]

def defaultPrunedNames : List Text := ["node_modules".toList]

/-- The walk as it is made when nothing else is asked for. -/
def defaultOptions : DiscoveryOptions :=
  { extensions := sourceExtensions
    excludeGlobs := defaultExcludeGlobs
    followLinks := false
    includeHidden := false
    prunedNames := defaultPrunedNames
    keep := fun _ => true }

/-! ### Tests on names and paths -/

def hasExtension (extensions : List Text) (name : Text) : Bool :=
  extensions.contains (Path.suffixOf name)

def isHidden (name : Text) : Bool := Text.startsWith name ['.']

def isExcluded (globs : List Text) (path : Text) (isDirectory : Bool) : Bool :=
  Glob.anyAccepts globs (if isDirectory then path ++ ['/'] else path)

/-- Whether the walk skips an entry for its name alone. -/
def skipsName (o : DiscoveryOptions) (name : Text) : Bool := isHidden name && !o.includeHidden

def entersDirectory (o : DiscoveryOptions) (parts : List Text) (name : Text) : Bool :=
  !o.prunedNames.contains name && !isExcluded o.excludeGlobs (Path.joinParts parts) true

def takesFile (o : DiscoveryOptions) (parts : List Text) (name : Text) : Bool :=
  hasExtension o.extensions name && !isExcluded o.excludeGlobs (Path.joinParts parts) false
    && o.keep parts

/-! ### The walk -/

/-- What the walk meets: a file that it takes, or a directory that it cannot list, with the path that
was refused. -/
inductive WalkEvent where
  | found (parts : List Text)
  | refused (directory parts : List Text) (fault : Fault)
deriving DecidableEq

/-- Why an entry ends the listing that it stands in, if it does: it cannot be looked up, or the walk
follows it and cannot look up what it leads to. -/
def cuts? (o : DiscoveryOptions) (name : Text) : Node → Option Fault
  | .unreachable fault => some fault
  | .barredLink fault => if o.followLinks && !skipsName o name then some fault else none
  | _ => none

mutual

/-- What the walk meets at an entry that it does not skip and that does not end the listing. -/
def walkNode (o : DiscoveryOptions) (parts : List Text) (name : Text) : Node → List WalkEvent
  | .file => if takesFile o parts name then [.found parts] else []
  | .directory fault entries =>
    if entersDirectory o parts name then
      match fault with
      | some fault => [.refused parts parts fault]
      | none => walkEntries o parts entries
    else []
  | .link target => if o.followLinks then walkNode o parts name (target ()) else []
  | .deadLink => []
  | .barredLink _ => []
  | .unreachable _ => []

def walkEntries (o : DiscoveryOptions) (parts : List Text) : List (Text × Node) → List WalkEvent
  | [] => []
  | (name, node) :: entries =>
    match cuts? o name node with
    | some fault => [.refused parts (parts ++ [name]) fault]
    | none =>
      if skipsName o name then walkEntries o parts entries
      else walkNode o (parts ++ [name]) name node ++ walkEntries o parts entries

end

def walk (o : DiscoveryOptions) : Node → List WalkEvent
  | .directory (some fault) _ => [.refused [] [] fault]
  | .directory none entries => walkEntries o [] entries
  | _ => []

def foundIn (events : List WalkEvent) : List (List Text) :=
  events.filterMap fun
    | .found parts => some parts
    | .refused _ _ _ => none

def refusalsIn (project : Project) (events : List WalkEvent) : List Notice :=
  events.filterMap fun
    | .found _ => none
    | .refused directory parts fault =>
      some (.listingRefused (project.pathText directory) (project.pathText parts) fault)

end Discovery

/-- The source files of a project, as names below its root in order, and what the search for them
tells. -/
def discover (o : DiscoveryOptions) (project : Project) : List (List Text) × List Notice :=
  let root := project.pathText []
  let events := Discovery.walk o project.tree
  let files := stableSort Path.partsLe (Discovery.foundIn events)
  (files, [Notice.traversalStarted root] ++ Discovery.refusalsIn project events
    ++ [Notice.traversalFinished root files.length])

/-- The source files of a project, as names below its root in order. -/
def findSourceFiles (o : DiscoveryOptions) (project : Project) : List (List Text) :=
  (discover o project).1

end SuppressionAudit
