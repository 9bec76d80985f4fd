import FileSearch.Failure
import FileSearch.Text.Quoted

/-!
# System errors

The errors a file system gives, and how their texts quote the path.
-/

namespace FileSearch

inductive SystemError where
  | notFound
  | notDirectory
  | linkLoop
  | nameTooLong
  | isDirectory
  | accessDenied
  | notPermitted
  | tooManyOpen
  deriving DecidableEq, Repr

namespace SystemError

def errno : SystemError → String
  | notFound => "ENOENT"
  | notDirectory => "ENOTDIR"
  | linkLoop => "ELOOP"
  | nameTooLong => "ENAMETOOLONG"
  | isDirectory => "EISDIR"
  | accessDenied => "EACCES"
  | notPermitted => "EPERM"
  | tooManyOpen => "EMFILE"

def text : SystemError → String
  | notFound => "no such file or directory"
  | notDirectory => "not a directory"
  | linkLoop => "too many symbolic links encountered"
  | nameTooLong => "name too long"
  | isDirectory => "illegal operation on a directory"
  | accessDenied => "permission denied"
  | notPermitted => "operation not permitted"
  | tooManyOpen => "too many open files"

/-- The number the system gives it. -/
def number : SystemError → Nat
  | notPermitted => 1
  | notFound => 2
  | accessDenied => 13
  | notDirectory => 20
  | isDirectory => 21
  | tooManyOpen => 24
  | nameTooLong => 36
  | linkLoop => 40

def all : List SystemError :=
  [notFound, notDirectory, linkLoop, nameTooLong, isDirectory, accessDenied, notPermitted,
    tooManyOpen]

def ofNumber? (n : Nat) : Option SystemError := all.find? (·.number = n)

/-- The error met in a step of working with a file, such as reading it. -/
def fault (e : SystemError) (step : String) : Fault where
  message := e.errno ++ ": " ++ e.text ++ ", " ++ step
  code := .text e.errno

/-- The error of opening a path. -/
def openFault (e : SystemError) (path : String) : Fault := e.fault ("open '" ++ path ++ "'")

end SystemError

/-- A path may not hold a null character; it is refused before the system sees it. -/
def nullPathFault (path : String) : Fault where
  kind := .argument
  message :=
    "The argument 'path' must be a string, Uint8Array, or URL without null bytes. Received "
      ++ String.ofList (Text.quoteShort path.toList)
  code := .text "ERR_INVALID_ARG_VALUE"

end FileSearch
