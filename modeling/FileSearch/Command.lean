import FileSearch.Arguments
import FileSearch.Scan.Run
import FileSearch.Settings

/-!
# Command

The command line as a function: from arguments, environment and standard input to an exit code, log
lines and output. Refused arguments and patterns end it before any path is read.
-/

namespace FileSearch

structure Invocation where
  arguments : List String
  environment : Environment
  /-- The number of processors of the machine. -/
  processors : Number

/-- What a command leaves behind. -/
structure CommandTrace where
  exitCode : ExitCode
  logLines : List String := []
  delivered : List Bytes := []

/-- A command that can begin: its job, and what was logged on the way to it. -/
structure Command where
  job : ScanJob
  logLines : List String

namespace Command

def fatalEntry (thrown : Thrown) : LogEntry where
  level := .critical
  message := (ErrorReport.ofThrown thrown).format
  source := "cli"

def usageEntry : LogEntry := { level := .error, message := usage, source := "cli" }

/-- Ends a command with an error. -/
def fatal (threshold : LogThreshold) (logLines : List String) (thrown : Thrown)
    (more : List LogEntry := []) : CommandTrace where
  exitCode := .ofThrown thrown
  logLines := logLines ++ threshold.lines (fatalEntry thrown :: more)

/-- Reads the settings and the arguments and compiles the pattern. Warnings about the settings are
written before the log level is set; refused arguments bring up the usage. -/
def ofInvocation (i : Invocation) : Except CommandTrace Command :=
  let (settings, warnings) := RuntimeSettings.load i.environment i.processors
  let logLines := LogThreshold.lines {} warnings
  let threshold : LogThreshold := { minimum := some settings.logLevel }
  match Config.ofArguments i.arguments settings.defaultConcurrency with
  | .error failure => .error (fatal threshold logLines (.failure failure) [usageEntry])
  | .ok config =>
    let diagnostics : Diagnostics :=
      { enabled := settings.diagnostics, detail := settings.diagnosticsDetail, subscribed := false }
    match ScanJob.ofConfig config settings.maxFileSize settings.fileErrorPolicy diagnostics
      { threshold } with
    | .error failure => .error (fatal threshold logLines (.failure failure))
    | .ok job => .ok { job, logLines }

/-- What a command comes to whose run has ended. -/
def conclude (c : Command) (t : ScanTrace) : CommandTrace :=
  let logLines := c.logLines ++ t.logLines
  match t.result with
  | .ok summary => { exitCode := summary.exitCode, logLines, delivered := t.delivered }
  | .error thrown =>
    { fatal c.job.log.threshold logLines thrown with delivered := t.delivered }

/-- Runs a command on an input that arrives in chunks. -/
def run (i : Invocation) (input : List Bytes) (files : String → Opening) (stream : OutputStream)
    (answer : Nat → StreamEvent) : CommandTrace :=
  match ofInvocation i with
  | .error trace => trace
  | .ok c =>
    c.conclude (Scan.run { c.job with files } stream { lines := readPathLines input, answer })

end Command

end FileSearch
