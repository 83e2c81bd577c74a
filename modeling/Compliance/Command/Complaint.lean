import Compliance.Diagnostic.Document
import Compliance.Failure
import Compliance.Json.Printing
import Compliance.Json.Reading
import Compliance.Settings

/-!
# Compliance.Command.Complaint

Why a command fails.

* `FileError`         — why a file cannot be read.
* `Complaint`         — why a command fails.
* `Complaint.message` — the wording.
* `Complaint.line`    — the wording as it is printed.
-/

namespace Compliance

/-- Why a file cannot be read. -/
inductive FileError where
  | missing
  | notADirectory
  | isADirectory
  | denied
  | notText
  | other (message : String)
  deriving DecidableEq, Repr

def FileError.message : FileError → String
  | .missing => "No such file or directory (os error 2)"
  | .notADirectory => "Not a directory (os error 20)"
  | .isADirectory => "Is a directory (os error 21)"
  | .denied => "Permission denied (os error 13)"
  | .notText => "stream did not contain valid UTF-8"
  | .other message => message

inductive Complaint where
  | unreadable (path : String) (error : FileError)
  | notJson (path : String) (error : Json.ReadError)
  /-- The file is no document, or not one of the expected shape; `text` is what it holds. -/
  | notToml (path text : String) (error : Toml.Error)
  | notARule (path : String) (diagnostic : Diagnostic)
  | notAContext (path : String) (failure : Failure)
  | notAnInstant (text : String)
  /-- Some entries of a rule set are no rules. -/
  | unparsedRules (count total : Nat)

namespace Complaint

def message : Complaint → String
  | .unreadable path e => "error reading '" ++ path ++ "': " ++ e.message
  | .notJson path e => "invalid JSON in '" ++ path ++ "': " ++ e.message
  | .notToml path text e => "invalid TOML in '" ++ path ++ "': " ++ e.report text.toList
  | .notARule path d => path ++ ": " ++ d.display
  | .notAContext path e => "invalid context in '" ++ path ++ "': " ++ e.message
  | .notAnInstant text =>
    "invalid instant '" ++ text ++ "': expected RFC 3339, e.g. 2024-06-01T12:00:00Z"
  | .unparsedRules count total =>
    String.ofList (Text.digits count) ++ " of " ++ String.ofList (Text.digits total) ++
      " rules failed to parse"

/-- The document of a complaint: that of a diagnostic with its file, else the wording. -/
def toJson : Complaint → Json
  | .notARule path d => d.toJsonWith [("file", .text path)]
  | c => .ofFields [("error", .text c.message)]

/-- A complaint as it is printed. -/
def line (format : Format) (c : Complaint) : String :=
  match format with
  | .text => "error: " ++ c.message ++ "\n"
  | .json => c.toJson.compact ++ "\n"

end Complaint

end Compliance
