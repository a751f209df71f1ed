import SuppressionAudit.Console.Highlight
import SuppressionAudit.Report.Markup
import SuppressionAudit.Report.Table
import SuppressionAudit.ScanError
import SuppressionAudit.Verdict

/-!
# Reports

The report on a verdict: how many rules are disabled, then for each file a panel with its path and a
table of its findings, and a summary. The path goes through markup, so a bracket in it can be taken
for a tag and can even end the report; rule names and reasons are shown as they are. What was printed
before a fault stays printed.
-/

namespace SuppressionAudit

/-- What breaks a report off: a fault of its markup, or a text that cannot be cut to a width. -/
inductive ReportFault where
  | markup (e : MarkupError)
  | cut (e : Text.CutFault)
deriving DecidableEq, Repr

def ReportFault.message : ReportFault → Text
  | .markup e => e.message
  | .cut .noCells => "nothing to cut in a text without cells".toList
  | .cut .tooShort => "a text ends before the cell to cut it at".toList

namespace Report

/-! ### Styles -/

/-- The style of a severity, given by its word in any case. -/
def severityStyle (severity : Text) : Text :=
  let lower := Text.lowercase severity
  if lower = "error".toList then "bold red".toList
  else if lower = "warning".toList then "bold yellow".toList
  else "bold white".toList

/-- A text that is shown in one style. -/
structure Inscription where
  text : Text
  style : Text
deriving DecidableEq, Repr

def justificationCell (f : Finding) : Inscription :=
  if f.justificationMissing then
    ⟨"missing".toList, if f.level = .error then "bold red".toList else "dim".toList⟩
  else ⟨Text.dropControls (f.justification.getD []), "green".toList⟩

/-! ### Printing -/

/-- The lines that were printed, and the fault that ended the printing, if any. -/
structure Printed where
  lines : List Text
  fault : Option ReportFault

namespace Printed

def nothing : Printed := ⟨[], none⟩

/-- What is printed by one printing and, unless that is broken off, by another one after it. -/
def andThen (first second : Printed) : Printed :=
  match first.fault with
  | some _ => first
  | none => ⟨first.lines ++ second.lines, second.fault⟩

/-- What a console of some width prints of lines: each is cut to the width. -/
def ofLines (width : Nat) : List Line → Printed
  | [] => nothing
  | line :: lines =>
    match Line.crop width line with
    | .error e => ⟨[], some (.cut e)⟩
    | .ok line => andThen ⟨[line.text], none⟩ (ofLines width lines)

/-- What a console prints of lines that are laid out for its width; without a width nothing is laid
out, and nothing is printed. -/
def ofLayout (width : Nat) (layout : Except ReportFault (List Line)) : Printed :=
  if width = 0 then nothing
  else
    match layout with
    | .error e => ⟨[], some e⟩
    | .ok lines => ofLines width lines

end Printed

/-- The lines of a styled text whose styles can be shown. -/
def checkStyles (lines : Except Text.CutFault (List StyledText)) : Except ReportFault (List StyledText) :=
  match lines with
  | .error e => .error (.cut e)
  | .ok lines =>
    match Markup.styleError? lines with
    | some e => .error (.markup e)
    | none => .ok lines

/-- What a console prints of a styled text, with its highlights. -/
def printText (width : Nat) (t : StyledText) : Printed :=
  Printed.ofLayout width <|
    (checkStyles (t.highlighted.wrap .fold width .none)).map fun lines => lines.map StyledText.pieces

def printBlank (width : Nat) : Printed := Printed.ofLayout width (.ok [[]])

/-! ### Parts -/

def header (width : Nat) : Printed :=
  ((printBlank width).andThen
    (printText width (.plain "Running eslint-disable-scanner...".toList))).andThen (printBlank width)

def nothingFound (width : Nat) : Printed :=
  (printText width (.plain "✔ No disabled ESLint rules found.".toList)).andThen (printBlank width)

def countLine (v : Verdict) : Text :=
  "✖ Found ".toList ++ ScanError.plural v.errorCount "error rule".toList ++ " and ".toList
    ++ ScanError.plural v.warningCount "warning rule".toList ++ " disabled:".toList

def pathMarkup (path : Text) : Text := "[bold cyan]".toList ++ path ++ "[/bold cyan]".toList

def columns : List Column :=
  [⟨"Pos".toList, true, none⟩, ⟨"Severity".toList, false, some 8⟩, ⟨"Rule".toList, false, none⟩,
    ⟨"Justification".toList, false, none⟩]

def row (f : Finding) : List StyledText :=
  let reason := justificationCell f
  [.plain (Text.ofNat f.line ++ [':'] ++ Text.ofNat f.column),
    .inStyle (severityStyle f.level.name) f.level.name,
    .inStyle "bold".toList (Text.dropControls f.rule), .inStyle reason.style reason.text]

def summary (v : Verdict) : Text :=
  if v.shouldFail then
    ScanError.plural v.unjustifiedErrorCount "error rule".toList
      ++ " disabled without justification.".toList
  else if 0 < v.errorCount then
    "All disabled error rules carry a justification. Process will continue.".toList
  else "Only warning rules were disabled. Process will continue.".toList

/-- The lines inside a panel of a text; there are none where a panel has no room for them, and then
the text is not even read. -/
def panelLines (width : Nat) (t : Except MarkupError StyledText) : Except ReportFault (List Line) :=
  if Panel.hasRoom width then
    match t with
    | .error e => .error (.markup e)
    | .ok t =>
      match checkStyles (Panel.wrapped width t) with
      | .error e => .error e
      | .ok content => (Panel.inner width content).mapError .cut
  else .ok []

def printFile (width : Nat) (path : Text) (findings : List Finding) : Printed :=
  (Printed.ofLayout width
    ((panelLines width (Markup.render (pathMarkup path))).map (Panel.plain width))).andThen
    (Printed.ofLayout width ((Table.lines width columns (findings.map row)).mapError .cut))

def printFiles (width : Nat) : FindingGroups → Printed
  | [] => .nothing
  | (path, findings) :: groups => (printFile width path findings).andThen (printFiles width groups)

def printSummary (width : Nat) (v : Verdict) : Printed :=
  (printBlank width).andThen <| Printed.ofLayout width <|
    (panelLines width (.ok (.plain (summary v)))).map (Panel.boxed width "Summary".toList)

/-! ### Whole reports -/

def print (width : Nat) (v : Verdict) : Printed :=
  if v.findings.isEmpty then nothingFound width
  else
    ((printText width (.plain (countLine v))).andThen
      (printFiles width (groupByFile v.findings))).andThen (printSummary width v)

/-- What a console prints of a message that is shown as it is, between two pieces of markup. -/
def printMessage (width : Nat) (front message back : Text) : Printed :=
  match Markup.render (front ++ Markup.escape message ++ back) with
  | .error e => Printed.ofLayout width (.error (.markup e))
  | .ok shown => printText width shown

end Report

end SuppressionAudit
