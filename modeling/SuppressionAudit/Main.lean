import SuppressionAudit.Command.Recording

/-!
# The program

The program takes the command's arguments from its own ones, and reads from its input the recording of
what the command finds. It writes the report to its output and everything else to its error stream.
-/

namespace SuppressionAudit

def recordedRoot : Path := Path.ofText "/project".toList

def putLines (stream : IO.FS.Stream) (lines : List Text) : IO Unit :=
  lines.forM fun line => stream.putStrLn (String.ofList line)

def noticeLine (n : Notice) : Text := n.level.name ++ ": ".toList ++ n.message

/-- The notices that are shown: all of them when more words are asked for, or else from warnings on. -/
def shownNotices (verbose : Bool) (notices : List Notice) : List Notice :=
  if verbose then notices else notices.filter fun n => n.level != .info

end SuppressionAudit

section

open SuppressionAudit

def main (args : List String) : IO UInt32 := do
  let input ← (← IO.getStdin).getLine
  let texts := args.map String.toList
  let record := (Json.read? input.toList).getD .null
  let outcome := Command.run (Recording.surroundings recordedRoot record) texts
  let verbose := ((Arguments.read texts).map Arguments.verbose).toOption.getD false
  putLines (← IO.getStdout) outcome.output
  let errors ← IO.getStderr
  putLines errors ((shownNotices verbose outcome.notices).map noticeLine)
  putLines errors outcome.errors
  putLines errors (outcome.fault.toList.map Command.faultMessage)
  putLines errors (outcome.passedOn.toList.map LinterFailure.message)
  return UInt32.ofNat outcome.exitCode

end
