import SuppressionAudit.Text
import SuppressionAudit.Tree.Fault

/-!
# Notices

What an audit tells besides its findings: how far it came, and what it had to leave out. Each notice
is a cause with a level; the wording is in one place. The paths in notices are texts.
-/

namespace SuppressionAudit

inductive NoticeLevel where
  | info
  | warning
  | error
deriving DecidableEq, Repr

inductive Notice where
  | allowlistUnreadable (path : Text)
  | allowlistNotObject (path : Text)
  | allowlistInvalid (path : Text) (problems : Nat)
  | allowlistLoaded (path : Text) (rules patterns : Nat)
  | rootMissing (root : Text)
  | rootNotDirectory (root : Text)
  | traversalStarted (root : Text)
  | traversalFinished (root : Text) (files : Nat)
  | listingRefused (directory path : Text) (fault : Fault)
  | ignoredByLinter (ignored files : Nat)
  | scanned (files errors warnings : Nat)
deriving DecidableEq, Repr

namespace NoticeLevel

def name : NoticeLevel → Text
  | .info => "INFO".toList
  | .warning => "WARNING".toList
  | .error => "ERROR".toList

end NoticeLevel

namespace Notice

def level : Notice → NoticeLevel
  | .allowlistUnreadable _ | .allowlistNotObject _ | .allowlistInvalid _ _ => .warning
  | .listingRefused _ _ _ => .warning
  | .rootMissing _ | .rootNotDirectory _ => .error
  | _ => .info

def message : Notice → Text
  | .allowlistUnreadable path => "Ignoring allowlist ".toList ++ path ++ ": could not parse it".toList
  | .allowlistNotObject path =>
    "Ignoring allowlist ".toList ++ path ++ ": expected a JSON object".toList
  | .allowlistInvalid path problems =>
    "Ignoring allowlist ".toList ++ path ++ ": ".toList ++ Text.ofNat problems
      ++ " invalid field(s)".toList
  | .allowlistLoaded path rules patterns =>
    "Loaded allowlist ".toList ++ path ++ ": ".toList ++ Text.ofNat rules ++ " rule(s), ".toList
      ++ Text.ofNat patterns ++ " path pattern(s)".toList
  | .rootMissing root => "Root directory does not exist: ".toList ++ root
  | .rootNotDirectory root => "Root path is not a directory: ".toList ++ root
  | .traversalStarted root => "Starting traversal from: ".toList ++ root
  | .traversalFinished root files =>
    "Traversal complete: found ".toList ++ Text.ofNat files ++ " source file(s) in ".toList ++ root
  | .listingRefused directory path fault =>
    (match fault with
      | .permissionDenied => "Permission denied accessing directory ".toList
      | _ => "Error accessing directory ".toList)
      ++ directory ++ ": ".toList ++ fault.message path
  | .ignoredByLinter ignored files =>
    "ESLint ignores ".toList ++ Text.ofNat ignored ++ " of ".toList ++ Text.ofNat files
      ++ " file(s)".toList
  | .scanned files errors warnings =>
    "Scanned ".toList ++ Text.ofNat files ++ " file(s): ".toList ++ Text.ofNat errors
      ++ " error and ".toList ++ Text.ofNat warnings ++ " warning suppression(s)".toList

end Notice

end SuppressionAudit
