import SuppressionAudit.Text.Blank

/-!
# Markers

What opens a directive: the start of a comment, perhaps blanks, the keyword, and for the forms that
concern one line a qualifier. A marker function returns the text that follows the marker.
-/

namespace SuppressionAudit

namespace Marker

def blockOpening : Text := ['/', '*']

def blockClosing : Text := ['*', '/']

def lineOpening : Text := ['/', '/']

/-- The word that makes a comment a directive. -/
def keyword : Text := "eslint-disable".toList

/-- The qualifier of a directive for the line after it. -/
def nextLine : Text := "-next-line".toList

/-- The qualifier of a directive for its own line. -/
def sameLine : Text := "-line".toList

/-- What follows a comment opening, blanks and the keyword. -/
def afterKeyword? (opening s : Text) : Option Text :=
  match Text.dropLiteral? opening s with
  | some s => Text.dropLiteral? keyword (Text.trimStart s)
  | none => none

/-- What follows one of the two qualifiers. -/
def afterQualifier? (s : Text) : Option Text :=
  (Text.dropLiteral? nextLine s).or (Text.dropLiteral? sameLine s)

/-- What follows a run of at least one character of a class. -/
def afterRun? (inClass : Char → Bool) (s : Text) : Option Text :=
  match s with
  | c :: rest => if inClass c then some (rest.dropWhile inClass) else none
  | [] => none

/-- What follows the marker of a block directive without a qualifier. -/
def block? (s : Text) : Option Text :=
  match afterKeyword? blockOpening s with
  | some s => afterRun? isBlank s
  | none => none

/-- What follows the marker of a block directive with a qualifier. -/
def qualified? (s : Text) : Option Text :=
  match afterKeyword? blockOpening s with
  | some s =>
    match afterQualifier? s with
    | some s => afterRun? isBlank s
    | none => none
  | none => none

/-- Blanks that stay on the line. -/
def isLineBlank (c : Char) : Bool := c == ' ' || c == '\t'

/-- What follows the marker of a line comment directive, with or without a qualifier. -/
def lineComment? (s : Text) : Option Text :=
  match afterKeyword? lineOpening s with
  | some s => afterRun? isLineBlank ((afterQualifier? s).getD s)
  | none => none

end Marker

end SuppressionAudit
