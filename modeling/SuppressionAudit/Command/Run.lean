import SuppressionAudit.Check
import SuppressionAudit.Command.Arguments

/-!
# Running the command

The command checks a directory and answers with an exit code: zero when the check passes, one when
it does not, two when the arguments cannot be used. The report goes to the output and the reason of
a failure to the error stream; when the report itself breaks off there is no reason but the fault of
the markup, and a failure of the linter that is not told as one is passed on without a word.
-/

namespace SuppressionAudit

/-- What a run of the command finds: a disk, the directory it is run in, how the linter's processes
end, the width of the console, and how deep an allowlist may be to be read. -/
structure Surroundings where
  disk : Disk
  directory : Path
  behaviour : ProcessBehaviour
  width : Nat
  nestingLimit : Nat := Json.nestingLimit

/-- A process of the linter: its executable, the mode it is told, and the paths it is asked for. -/
structure ProcessCall where
  executable : Text
  mode : ConfigMode
  paths : List Path
deriving DecidableEq, Repr

/-- What ends a run of the command without a word: a fault of the report, a directory whose path no
system call takes, a path that cannot be looked up, or a document that is too deep. -/
inductive CommandFault where
  | report (fault : ReportFault)
  | rootWithNul
  | pathRefused (fault : Fault)
  | documentTooDeep
deriving DecidableEq, Repr

/-- What a run of the command leaves behind; what is passed on is a failure of the linter that ends it
without a word. -/
structure CommandOutcome where
  exitCode : Nat
  output : List Text
  errors : List Text
  notices : List Notice
  calls : List ProcessCall
  fault : Option CommandFault
  passedOn : Option LinterFailure := none

namespace Command

def helpLines : List Text :=
  ["Usage: [OPTIONS] [ROOT]".toList, [],
    "Scan ROOT for eslint-disable comments and fail on unjustified error rules.".toList, [],
    "  --node TEXT      Node.js executable used to load the project's ESLint.".toList,
    "  --verbose, -v    Enable debug logging.".toList,
    "  --help           Show this message and exit.".toList]

def usageMessage : UsageError → Text
  | .unknownOption name => "No such option: ".toList ++ name
  | .valueMissing name => "Option ".toList ++ name ++ " requires an argument.".toList
  | .valueUnexpected name => "Option ".toList ++ name ++ " does not take a value.".toList
  | .extraArgument text => "Got unexpected extra argument ".toList ++ text
  | .rootNotFound root => "Directory ".toList ++ root ++ " does not exist.".toList
  | .rootNotDirectory root => "Directory ".toList ++ root ++ " is a file.".toList

def faultMessage : CommandFault → Text
  | .report fault => fault.message
  | .rootWithNul => ScanError.pathWithNul.message
  | .pathRefused fault => fault.description
  | .documentTooDeep => ScanError.documentTooDeep.message

/-- The outcome of a run without a check. -/
def withoutCheck (exitCode : Nat) (output errors : List Text) : CommandOutcome :=
  ⟨exitCode, output, errors, [], [], none, none⟩

def refused (e : UsageError) : CommandOutcome := withoutCheck 2 [] [usageMessage e]

def printFailure (width : Nat) (e : ScanError) : Report.Printed :=
  match e with
  | .configNotFound _ => Report.printMessage width "[cyan]".toList e.message ".[/cyan]".toList
  | _ => Report.printMessage width "[bold red]✖ ".toList e.message "[/bold red]".toList

def failed (width : Nat) (e : CheckError) (output : List Text) (notices : List Notice)
    (calls : List ProcessCall) : CommandOutcome :=
  match e with
  | .report fault => ⟨1, output, [], notices, calls, some (.report fault), none⟩
  | .scan (.pathRefused fault) => ⟨1, output, [], notices, calls, some (.pathRefused fault), none⟩
  | .scan .documentTooDeep | .scan (.linter .tooDeep) =>
    ⟨1, output, [], notices, calls, some .documentTooDeep, none⟩
  | .scan (.linter (.executableRefused name fault)) =>
    ⟨1, output, [], notices, calls, none, some (.executableRefused name fault)⟩
  | .scan (.linter (.outputNotText detail)) =>
    ⟨1, output, [], notices, calls, none, some (.outputNotText detail)⟩
  | .scan e =>
    let printed := printFailure width e
    ⟨1, output, printed.lines, notices, calls, printed.fault.map .report, none⟩

def check (s : Surroundings) (project : Project) (executable : Text) : CommandOutcome :=
  let settings := { ScanConfig.default with executable := executable }
  match settings.forProject project none with
  | .error e => failed s.width (.scan e) [] [] []
  | .ok config =>
    let linter := (config.processLinter s.behaviour).toLinter
    let outcome := checkProject project linter config s.width [] ProcessBooks.initial
      s.nestingLimit
    let calls := outcome.books.started.map fun paths => ⟨config.executable, config.mode, paths⟩
    match outcome.result with
    | .ok _ => ⟨0, outcome.lines, [], outcome.notices, calls, none, none⟩
    | .error e => failed s.width e outcome.lines outcome.notices calls

def run (s : Surroundings) (texts : List Text) : CommandOutcome :=
  match Arguments.read texts with
  | .error e => refused e
  | .ok arguments =>
    if arguments.help then withoutCheck 0 helpLines []
    else
      match Project.openAt s.disk (s.directory.join (Path.ofText arguments.root)).parts with
      | .error .nul => ⟨1, [], [], [], [], some .rootWithNul, none⟩
      | .error .notDirectory => refused (.rootNotDirectory arguments.root)
      | .error _ => refused (.rootNotFound arguments.root)
      | .ok project =>
        match arguments.extra? with
        | some text => refused (.extraArgument text)
        | none => check s project arguments.executable

end Command

end SuppressionAudit
