import FileSearch.File.Result
import FileSearch.File.SystemError
import FileSearch.Settings

/-!
# Scanning a file

An open file is described by what each further step with it gives: its size, its chunks, its whole
contents, and closing it. A scan takes one way of reading or the other, by its mode, and comes to a
result whatever goes wrong. What opening, reading and closing fail with are errors, which have a text;
`ScanOptions.attempt` is a scan step by step, in which closing may fail with anything.
-/

namespace FileSearch

/-- What is known of an open file before it is read. The size need not be that of the contents. -/
structure FileStat where
  size : Number
  isDirectory : Bool := false
  deriving DecidableEq

structure OpenFile where
  stat : Except Thrown FileStat
  chunks : List Bytes
  /-- What reading in chunks fails with after the last chunk. -/
  failure : Option Thrown := none
  contents : Except Thrown Bytes
  /-- What closing fails with for the scan. -/
  closing : Option Thrown := none

/-- What opening a path gives. -/
abbrev Opening := Except Thrown OpenFile

namespace OpenFile

/-- A directory can be opened, but not read. -/
def ofDirectory : OpenFile :=
  let refused : Thrown := .fault (SystemError.isDirectory.fault "read")
  { stat := .ok { size := .ofNat 0, isDirectory := true }
    chunks := []
    failure := some refused
    contents := .error refused }

/-- A file whose contents do not change while it is open. -/
def ofContents (contents : Bytes) : OpenFile where
  stat := .ok { size := .ofNat contents.length }
  chunks := chunksOf RuntimeSettings.streamChunkSize contents
  contents := .ok contents

end OpenFile


-- ---------------------------------------------------------------------------
-- Reading
-- ---------------------------------------------------------------------------

/-- The contents of a file, or why they were refused, and how often they were read. -/
structure LimitedRead where
  outcome : Except Thrown Bytes
  reads : Nat

namespace OpenFile

def notRegular (path : String) : Failure where
  code := .notFile
  message := "Not a regular file: " ++ path
  path := some path

def tooLarge (size maxSize : Number) (path : String) : Failure where
  code := .tooLarge
  message :=
    "File exceeds maximum size (" ++ size.text ++ " > " ++ maxSize.text ++ "): " ++ path
  path := some path
  details := some [("size", .number size), ("maxSize", .number maxSize)]

/-- The whole contents, unless they are larger than the limit. The size is looked at before
anything is read, and the contents are measured again, for they may be longer than reported. -/
def readLimited (file : OpenFile) (maxSize : Number) (path : String) : LimitedRead :=
  match file.stat with
  | .error thrown => { outcome := .error thrown, reads := 0 }
  | .ok stat =>
    if stat.isDirectory then { outcome := .error (.failure (notRegular path)), reads := 0 }
    else if maxSize.lt stat.size then
      { outcome := .error (.failure (tooLarge stat.size maxSize path)), reads := 0 }
    else match file.contents with
      | .error thrown => { outcome := .error thrown, reads := 1 }
      | .ok bytes =>
        let size := Number.ofNat bytes.length
        if maxSize.lt size then
          { outcome := .error (.failure (tooLarge size maxSize path)), reads := 1 }
        else { outcome := .ok bytes, reads := 1 }

def lines (file : OpenFile) : LineStream := readLines file.chunks file.failure

end OpenFile


-- ---------------------------------------------------------------------------
-- Scanning
-- ---------------------------------------------------------------------------

structure ScanOptions where
  matcher : Matcher
  mode : ScanMode
  maxFileSize : Number

/-- Who closes a file. -/
inductive Closer where
  /-- The stream that reads it in chunks, when it is destroyed. -/
  | stream
  /-- The scan, which has opened it. -/
  | scan
  deriving DecidableEq, Repr

/-- Who closes a file that is read in this mode, the first one first. -/
def ScanMode.closers (mode : ScanMode) : List Closer :=
  if mode.readsLines then [.stream, .scan] else [.scan]

/-- What closing fails with for each of them; the stream has nothing to report. -/
def OpenFile.closingFor (file : OpenFile) : Closer → Option Thrown
  | .stream => none
  | .scan => file.closing

/-- What a scan of a file came to, and for each time the file was closed who did and what closing
failed with. -/
structure FileScan where
  result : FileResult
  closings : List (Closer × Option Thrown)

namespace FileScan

def closeWarning (path : String) (thrown : Thrown) : LogEntry where
  level := .warning
  message := "Failed to close " ++ path ++ ": " ++ thrown.message
  source := "file-processor"

/-- What the scan has to warn of. -/
def closeFailure? : Closer × Option Thrown → Option Thrown
  | (.scan, failure) => failure
  | (.stream, _) => none

/-- The warnings about closing. -/
def warnings (s : FileScan) : List LogEntry :=
  (s.closings.filterMap closeFailure?).map (closeWarning s.result.path)

end FileScan

namespace ScanOptions

def report (o : ScanOptions) (path : String) (file : OpenFile) : Except Thrown Report :=
  if o.mode.readsLines then Report.ofLines o.mode.negated o.matcher path file.lines
  else match (file.readLimited o.maxFileSize path).outcome with
    | .error thrown => .error thrown
    | .ok content => .ok (Report.ofContent o.mode.negated o.matcher path content)

def result (o : ScanOptions) (path : String) (file : OpenFile) : FileResult :=
  match o.report path file with
  | .ok report => .scanned path report
  | .error thrown => .failed path (thrown.toFileFailure path)

/-- Scans the file at a path. A file that was opened is closed again whatever happened to it. -/
def scan (o : ScanOptions) (path : String) : Opening → FileScan
  | .error thrown => { result := .failed path (thrown.toFileFailure path), closings := [] }
  | .ok file =>
    { result := o.result path file
      closings := o.mode.closers.map fun closer => (closer, file.closingFor closer) }

end ScanOptions

end FileSearch
