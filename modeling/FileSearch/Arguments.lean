import FileSearch.Config
import FileSearch.Text.Quoted

/-!
# Arguments

A run is configured by five positional arguments or by options and one pattern. Options are read
into tokens from left to right; the tokens are then checked in order, and the first bad one is
reported.
-/

namespace FileSearch

/-- The options there are. Only the concurrency takes a value. -/
inductive OptionName where
  | ignoreCase
  | multiline
  | negate
  | concurrency
  deriving DecidableEq, Repr

namespace OptionName

def long : OptionName → String
  | ignoreCase => "ignore-case"
  | multiline => "multiline"
  | negate => "negate"
  | concurrency => "concurrency"

def ofLong? : List Char → Option OptionName := fun name =>
  [ignoreCase, multiline, negate, concurrency].find? fun o => o.long.toList = name

def ofShort? : Char → Option OptionName
  | 'i' => some ignoreCase
  | 'j' => some concurrency
  | _ => none

def takesValue (o : OptionName) : Bool := o = concurrency

/-- The option as it is shown in messages. -/
def display : OptionName → String
  | ignoreCase => "-i, --ignore-case"
  | multiline => "--multiline"
  | negate => "--negate"
  | concurrency => "-j, --concurrency"

end OptionName

/-- An option as given. `raw` is how it was spelled, without its value. -/
structure OptionUse where
  option : Option OptionName
  raw : String
  value : Option String := none
  inlineValue : Bool := false
  deriving DecidableEq, Repr

inductive ArgumentToken where
  | option (use : OptionUse)
  | positional (text : String)
  deriving DecidableEq, Repr

/-- What the arguments so far make of the next one: it may be an option, it is the value of the
option before it, or all options are over. -/
inductive ReadingState where
  | open
  | awaiting (use : OptionUse)
  | ended
  deriving DecidableEq, Repr

namespace OptionUse

def short (letter : Char) : OptionUse :=
  { option := OptionName.ofShort? letter, raw := String.ofList ['-', letter] }

def long (name : List Char) : OptionUse :=
  { option := OptionName.ofLong? name, raw := String.ofList ('-' :: '-' :: name) }

def takesValue (u : OptionUse) : Bool := u.option.any OptionName.takesValue

/-- An option by itself: it is complete, or the next argument is its value. -/
def alone (u : OptionUse) : List ArgumentToken × ReadingState :=
  if u.takesValue then ([], .awaiting u) else ([.option u], .open)

def withInlineValue (u : OptionUse) (value : List Char) : OptionUse :=
  { u with value := some (String.ofList value), inlineValue := true }

end OptionUse

/-- The arguments a group of letters stands for: one for each letter, where a letter that takes a
value keeps what follows it. -/
def splitGroup : List Char → List (List Char)
  | [] => []
  | letter :: rest =>
    if (OptionUse.short letter).takesValue && !rest.isEmpty then ['-' :: letter :: rest]
    else ['-', letter] :: splitGroup rest

/-- Reads the letters after a single dash. A letter that takes a value has the rest for it, or the
next argument; a dash among the letters ends the options as `--` does. -/
def readLetters : List Char → List ArgumentToken × ReadingState
  | [] => ([], .open)
  | letter :: rest =>
    if letter = '-' then
      ((splitGroup rest).map fun a => .positional (String.ofList a), .ended)
    else
      let use := OptionUse.short letter
      if rest.isEmpty then use.alone
      else if use.takesValue then ([.option (use.withInlineValue rest)], .open)
      else
        let (tokens, state) := readLetters rest
        (.option use :: tokens, state)

/-- Reads what follows two dashes: a name and, if `=` stands anywhere after its first character, the
value behind the first `=`. -/
def readLong (name : List Char) : List ArgumentToken × ReadingState :=
  if (name.drop 1).contains '=' then
    let use := OptionUse.long (name.takeWhile (· != '='))
    ([.option (use.withInlineValue ((name.dropWhile (· != '=')).drop 1))], .open)
  else (OptionUse.long name).alone

/-- Reads one argument while options may still come. A single dash is an ordinary argument. -/
def readArgument (arg : List Char) : List ArgumentToken × ReadingState :=
  match arg with
  | ['-', '-'] => ([], .ended)
  | '-' :: '-' :: name => readLong name
  | '-' :: letter :: rest => readLetters (letter :: rest)
  | _ => ([.positional (String.ofList arg)], .open)

/-- Reads arguments into tokens. -/
def readArguments (state : ReadingState) : List (List Char) → List ArgumentToken
  | [] =>
    match state with
    | .awaiting use => [.option use]
    | _ => []
  | arg :: rest =>
    match state with
    | .ended => .positional (String.ofList arg) :: readArguments .ended rest
    | .awaiting use =>
      .option { use with value := some (String.ofList arg) } :: readArguments .open rest
    | .open =>
      let (tokens, state) := readArgument arg
      tokens ++ readArguments state rest


-- ---------------------------------------------------------------------------
-- Checking tokens
-- ---------------------------------------------------------------------------

inductive OptionError where
  | unknown (raw : String)
  | missingValue (option : OptionName)
  | unexpectedValue (option : OptionName)
  | ambiguousValue (raw : String)
  deriving DecidableEq, Repr

namespace OptionError

def message : OptionError → String
  | unknown raw =>
    "Unknown option '" ++ raw ++ "'. To specify a positional argument starting with a '-', place it"
      ++ " at the end of the command after '--', as in '-- " ++ Text.doubleQuote raw
  | missingValue option => "Option '" ++ option.display ++ " <value>' argument missing"
  | unexpectedValue option => "Option '" ++ option.display ++ "' does not take an argument"
  | ambiguousValue raw =>
    "Option '" ++ raw ++ "' argument is ambiguous.\nDid you forget to specify the option argument "
      ++ "for '" ++ raw ++ "'?\nTo specify an option argument starting with a dash use "
      ++ (if "--".isPrefixOf raw then "'" ++ raw ++ "=-XYZ'."
        else "'--concurrency=-XYZ' or '" ++ raw ++ "-XYZ'.")

def code : OptionError → String
  | unknown _ => "ERR_PARSE_ARGS_UNKNOWN_OPTION"
  | _ => "ERR_PARSE_ARGS_INVALID_OPTION_VALUE"

def fault (e : OptionError) : Fault :=
  { kind := .argument, message := e.message, code := .text e.code }

end OptionError

/-- Whether a value looks like an option of its own. -/
def looksLikeOption (value : String) : Bool :=
  match value.toList with
  | '-' :: _ :: _ => true
  | _ => false

/-- The options and positional arguments read so far. A repeated option has its last value. -/
structure OptionValues where
  ignoreCase : Bool := false
  multiline : Bool := false
  negate : Bool := false
  concurrency : Option String := none
  positionals : List String := []
  deriving DecidableEq, Repr

namespace OptionValues

def store (v : OptionValues) (value : Option String) : OptionName → OptionValues
  | .ignoreCase => { v with ignoreCase := true }
  | .multiline => { v with multiline := true }
  | .negate => { v with negate := true }
  | .concurrency => { v with concurrency := value }

/-- Checks one use of an option and stores it. -/
def use (v : OptionValues) (u : OptionUse) : Except OptionError OptionValues :=
  match u.option with
  | none => .error (.unknown u.raw)
  | some option =>
    if option.takesValue && u.value.isNone then .error (.missingValue option)
    else if !option.takesValue && u.value.isSome then .error (.unexpectedValue option)
    else if !u.inlineValue && u.value.any looksLikeOption then .error (.ambiguousValue u.raw)
    else .ok (v.store u.value option)

def ofTokens (v : OptionValues) : List ArgumentToken → Except OptionError OptionValues
  | [] => .ok v
  | .positional text :: rest => ofTokens { v with positionals := v.positionals ++ [text] } rest
  | .option u :: rest =>
    match v.use u with
    | .ok v => ofTokens v rest
    | .error e => .error e

/-- The values of all options of an argument list. -/
def ofArguments (args : List String) : Except OptionError OptionValues :=
  ofTokens {} (readArguments .open (args.map String.toList))

end OptionValues


-- ---------------------------------------------------------------------------
-- Configurations
-- ---------------------------------------------------------------------------

namespace Config

def invalidInput (message : String) (cause : Option Thrown := none) : Failure :=
  { code := .invalidInput, message, cause }

def invalidArguments (issues : List Issue) : Failure :=
  invalidInput ("Invalid arguments: " ++ Issue.describeAll issues)

/-- Five arguments of which the first four are no options. The pattern may begin with a dash. -/
def isPositional (args : List String) : Bool :=
  args.length = 5 && (args.take 4).all fun a => a.toList.head? != some '-'

def ofPositional (args : List String) : Except Failure Config :=
  match checkPositional (.list (args.map .text)) with
  | .ok c => .ok c
  | .error issues => .error (invalidArguments issues)

/-- The concurrency asked for, or the default if none was. -/
def chosenConcurrency (given : Option String) (default : Number) : Checked Number :=
  match given with
  | none => .ok default
  | some argument => Concurrency.checkDigits argument

/-- The configuration of options and one pattern. -/
def ofOptionValues (v : OptionValues) (defaultConcurrency : Number) : Except Failure Config :=
  match v.positionals with
  | [pattern] =>
    match chosenConcurrency v.concurrency defaultConcurrency with
    | .error issues => .error (invalidArguments issues)
    | .ok concurrency =>
      match combine (.ok v.ignoreCase) (.ok v.multiline) (.ok v.negate)
          (Checked.inside (.field "concurrency") (Concurrency.checkNumber concurrency))
          (.ok pattern) with
      | .ok c => .ok c
      | .error issues => .error (invalidArguments issues)
  | positionals =>
    .error (invalidInput
      ("Expected exactly one pattern argument, got " ++ toString positionals.length))

def ofOptions (args : List String) (defaultConcurrency : Number) : Except Failure Config :=
  match OptionValues.ofArguments args with
  | .ok v => ofOptionValues v defaultConcurrency
  | .error e =>
    .error (invalidInput ("Invalid arguments: " ++ e.message) (some (.fault e.fault)))

/-- The configuration of an argument list. Arguments in the positional form are read as such;
anything else is read as options and one pattern. -/
def ofArguments (args : List String) (defaultConcurrency : Number) : Except Failure Config :=
  if isPositional args then ofPositional args else ofOptions args defaultConcurrency

end Config

/-- What is shown after arguments that were refused. -/
def usage : String :=
  "\n".intercalate
    ["Usage:",
      "  pattern-scan <ignore_case 0|1> <multiline 0|1> <negate 0|1> <concurrency> <pattern>",
      "  pattern-scan [--ignore-case|-i] [--multiline] [--negate] [--concurrency N|-j N] <pattern>",
      "",
      "File paths are read from standard input, one per line."]

end FileSearch
