import FileSearch.File.Result
import FileSearch.Settings
import FileSearch.Text.Sha256

/-!
# Diagnostics

Two events frame the scan of every file: one before it, one with its outcome. They are published
only if diagnostics are on and someone listens, and show of the path as much as the settings allow.
-/

namespace FileSearch

structure Diagnostics where
  enabled : Bool
  detail : PathDetail
  subscribed : Bool := true

/-- How the scan of a file ended. -/
inductive FileEnding where
  | scanned (matched : Bool)
  | failed (error : String)
  deriving DecidableEq, Repr

inductive DiagnosticsEvent where
  | start (path : Option String)
  | finish (path : Option String) (ending : FileEnding)
  deriving DecidableEq, Repr

/-- How many hexadecimal digits of its hash stand for a path. -/
def pathDigestLength : Nat := 16

def pathDigest (path : String) : String :=
  String.ofList ((Sha256.digest (utf8 path)).hex.take pathDigestLength)

/-- What an event shows of a path. -/
def PathDetail.show? (detail : PathDetail) (path : String) : Option String :=
  match detail with
  | hidden => none
  | digest => some (pathDigest path)
  | full => some path

namespace FileEnding

/-- A failed file shows its code, an error that is not about the file its message. -/
def of : Except Thrown FileResult → FileEnding
  | .ok (.scanned _ report) => scanned report.matched
  | .ok (.failed _ failure) => failed failure.code.name
  | .error thrown => failed thrown.message

end FileEnding

namespace Diagnostics

def publishes (d : Diagnostics) : Bool := d.enabled && d.subscribed

/-- Published before the file at a path is scanned. -/
def started (d : Diagnostics) (path : String) : List DiagnosticsEvent :=
  if d.publishes then [.start (d.detail.show? path)] else []

/-- Published after it; a result names its own path. -/
def finished (d : Diagnostics) (path : String) (outcome : Except Thrown FileResult) :
    List DiagnosticsEvent :=
  if d.publishes then
    let path := match outcome with
      | .ok result => result.path
      | .error _ => path
    [.finish (d.detail.show? path) (.of outcome)]
  else []

end Diagnostics

end FileSearch
