import FileSearch.Regex.Factor

/-!
# Reading a pattern

The tokens of a pattern are folded into an expression. The state of the fold holds the branches of
the innermost open group and, for each group around it, what to go back to. The first error from
left to right is reported; an unclosed group and a group name used twice are seen at the end.
-/

namespace FileSearch.Regex

/-- A group as far as it has been read: its finished branches and the items of the last one, both
in reverse, and the settings in force. The last item is kept apart, for a repetition applies to it
alone; literals before it run together. -/
structure OpenGroup where
  settings : Settings
  captures : Bool := false
  branches : List Expr := []
  items : List Expr := []
  /-- The letters of the literal before the last item, in reverse, and whether they are folded. -/
  run : List Nat := []
  runFolded : Bool := false
  last : Option Expr := none

namespace OpenGroup

/-- The items with the literal that runs before the last one. -/
def settledItems (g : OpenGroup) : List Expr :=
  match g.run with
  | [] => g.items
  | run => .literal run.reverse g.runFolded :: g.items

/-- Puts the last item with those before it. -/
def settle (g : OpenGroup) : OpenGroup :=
  match g.last with
  | none => g
  | some (.literal text folded) =>
    if g.runFolded = folded || g.run.isEmpty then
      { g with run := text.reverse ++ g.run, runFolded := folded, last := none }
    else
      { g with items := g.settledItems, run := text.reverse, runFolded := folded, last := none }
  | some e => { g with items := e :: g.settledItems, run := [], last := none }

def push (g : OpenGroup) (e : Expr) : OpenGroup := { g.settle with last := some e }

/-- Ends a branch. A character that is always matched takes the place of a single letter or set in
the branch before it, and of those in the branch after it. -/
def endBranch (g : OpenGroup) : OpenGroup :=
  let branch := Expr.sequence g.settle.settledItems.reverse
  let covers (e other : Expr) : Bool :=
    e.isAnyChar && (other.isAnyChar || other.letters?.isSome)
  let branches := match g.branches with
    | before :: rest =>
      if covers before branch then before :: rest
      else if covers branch before then branch :: rest
      else branch :: before :: rest
    | [] => [branch]
  { g with branches, items := [], run := [], last := none }

/-- What the whole group stands for. -/
def finish (g : OpenGroup) : Expr :=
  let body := Expr.alternatives g.endBranch.branches.reverse
  if g.captures then .group body else body

end OpenGroup

structure ParseState where
  group : OpenGroup
  outer : List OpenGroup := []
  names : List (List Char) := []
  /-- The repetition operators that directly precede, as written. -/
  lastRepeat : List Char := []

/-- The largest bound of a counted repetition, and the budget of nested ones. -/
def maxRepeat : Nat := 1000

namespace ParseState

def push (st : ParseState) (e : Expr) : ParseState :=
  { st with group := st.group.push e, lastRepeat := [] }

/-- Opens a group inside which `settings` hold. -/
def openGroup (st : ParseState) (settings : Settings) (captures : Bool) : ParseState :=
  { st with group := { settings, captures }, outer := st.group :: st.outer, lastRepeat := [] }

/-- Applies a repetition to the last item; `text` is the operator as written. -/
def applyRepeat (st : ParseState) (text : List Char) (lazy : Bool) (badSize : Bool)
    (whole : Settings → Expr → Expr) : Except PatternError ParseState :=
  if !st.lastRepeat.isEmpty then .error (.stackedRepeat (st.lastRepeat ++ text))
  else if badSize then .error (.badRepeatSize text)
  else match st.group.last with
    | none => .error (.nothingToRepeat text)
    | some body =>
      let s := st.group.settings
      let e := whole { s with lazy := lazy != s.lazy } body
      .ok { st with group := { st.group with last := some e }, lastRepeat := text }

def applyCounts (st : ParseState) (text : List Char) (min : Nat) (max : Option Nat)
    (lazy : Bool) : Except PatternError ParseState :=
  let badSize := maxRepeat < min || max.any fun m => m < min || maxRepeat < m
  match st.applyRepeat text lazy badSize (Expr.repeatOf min max) with
  | .error e => .error e
  | .ok st =>
    let unfolds := 2 ≤ min || max.any (2 ≤ ·)
    if unfolds && st.group.last.any (·.budgetLeft maxRepeat = 0) then .error (.badRepeatSize text)
    else .ok st

/-- Takes one token; `text` is the token as written, `whole` the pattern. -/
def step (whole text : List Char) (st : ParseState) : Token → Except PatternError ParseState
  | .openGroup name =>
    .ok { st.openGroup st.group.settings true with names := name.toList ++ st.names }
  | .settings changes opens =>
    let settings := changes.foldl Settings.set st.group.settings
    if opens then .ok (st.openGroup settings false)
    else .ok { st with group := { st.group with settings }, lastRepeat := [] }
  | .bar => .ok { st with group := st.group.endBranch, lastRepeat := [] }
  | .close =>
    match st.outer with
    | [] => .error (.unexpectedParen whole)
    | around :: outer =>
      .ok { st with group := around.push st.group.finish, outer, lastRepeat := [] }
  | .loop kind lazy => st.applyRepeat text lazy false (Expr.repetition kind)
  | .repeatOf min max lazy => st.applyCounts text min max lazy
  | .quoted cs =>
    .ok (cs.foldl (fun st c => st.push (st.group.settings.literal c.toNat))
      { st with lastRepeat := [] })
  | t =>
    match st.group.settings.atom? t with
    | some e => .ok (st.push e)
    | none => .ok st

def finish (whole : List Char) (st : ParseState) : Except PatternError Expr :=
  if !st.outer.isEmpty then .error (.missingParen whole)
  else if st.names.eraseDups.length < st.names.length then .error .duplicateGroupName
  else .ok st.group.finish

end ParseState

/-- Reads the rest of a pattern, of which the first `skip` characters belong to the last token. -/
def parseRest (whole : List Char) (skip : Nat) (st : ParseState) :
    List Char → Except PatternError Expr
  | [] => st.finish whole
  | c :: rest =>
    match skip with
    | skip + 1 => parseRest whole skip st rest
    | 0 =>
      match readToken (c :: rest) with
      | .error e => .error e
      | .ok (token, used) =>
        match st.step whole ((c :: rest).take used) token with
        | .error e => .error e
        | .ok st => parseRest whole (used - 1) st rest

/-- The expression a pattern denotes under the settings given at the start. -/
def parse (settings : Settings) (pattern : List Char) : Except PatternError Expr :=
  parseRest pattern 0 { group := { settings } } pattern

end FileSearch.Regex
