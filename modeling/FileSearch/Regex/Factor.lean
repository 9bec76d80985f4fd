import FileSearch.Regex.Expr

/-!
# Factoring alternatives

Neighbouring alternatives that begin alike are put behind their common beginning, and neighbouring
single letters and sets become one set. The order of preference stays: only neighbours are joined,
and of what they share nothing is decided twice.
-/

namespace FileSearch.Regex.Expr

/-- Cuts a list into runs. A run has a key, which says what its members share: `start` makes the key
of a first member, and `extend` that of the run with one more, if it belongs to it. -/
def runsFrom {κ : Type} (start : Expr → κ) (extend : κ → Expr → Option κ) (key : κ)
    (run : List Expr) : List Expr → List (κ × List Expr)
  | [] => [(key, run.reverse)]
  | e :: rest =>
    match extend key e with
    | some key => runsFrom start extend key (e :: run) rest
    | none => (key, run.reverse) :: runsFrom start extend (start e) [e] rest

def runs {κ : Type} (start : Expr → κ) (extend : κ → Expr → Option κ) :
    List Expr → List (κ × List Expr)
  | [] => []
  | e :: rest => runsFrom start extend (start e) [e] rest

/-- Joins every run of several members; the others stay as they are. -/
def joinRuns {κ : Type} (join : κ → List Expr → Expr) (rs : List (κ × List Expr)) : List Expr :=
  rs.flatMap fun r =>
    match r.2 with
    | _ :: _ :: _ => [join r.1 r.2]
    | run => run

/-- Alternatives that are factored already. -/
def choice : List Expr → Expr
  | [] => noMatch
  | [e] => e
  | es => alt es


-- ---------------------------------------------------------------------------
-- Common text
-- ---------------------------------------------------------------------------

/-- The literal text an expression begins with. -/
def leadingText? : Expr → Option (List Nat × Bool)
  | literal text folded => some (text, folded)
  | cat (literal text folded :: _) => some (text, folded)
  | _ => none

def commonPrefix : List Nat → List Nat → List Nat
  | a :: s, b :: t => if a = b then a :: commonPrefix s t else []
  | _, _ => []

/-- Takes letters off a literal. -/
def dropLetters (count : Nat) (text : List Nat) (folded : Bool) : Expr :=
  match text.drop count with
  | [] => empty
  | rest => literal rest folded

/-- Takes letters off the beginning of an expression. -/
def dropText (count : Nat) : Expr → Expr
  | literal text folded => dropLetters count text folded
  | cat (literal text folded :: rest) =>
    match dropLetters count text folded with
    | empty => sequel rest
    | e => cat (e :: rest)
  | e => e
where
  /-- A sequence of one item is that item. -/
  sequel : List Expr → Expr
    | [e] => e
    | es => cat es

def extendText (key : Option (List Nat × Bool)) (e : Expr) : Option (Option (List Nat × Bool)) :=
  match key, leadingText? e with
  | some (s, f), some (t, g) =>
    if f = g then
      match commonPrefix s t with
      | [] => none
      | shared => some (some (shared, f))
    else none
  | _, _ => none


-- ---------------------------------------------------------------------------
-- Common items
-- ---------------------------------------------------------------------------

/-- The item an expression begins with. -/
def leadingItem? : Expr → Option Expr
  | empty => none
  | cat (empty :: _ :: _) => none
  | cat (e :: _ :: _) => some e
  | e => some e

/-- Whether nothing in an item has to be decided, so that two may share it. -/
def isShareable : Expr → Bool
  | require _ | set _ | anyChar | anyByte => true
  | repeatOf min max _ body => max = some min && body.isSingle
  | _ => false

def dropItem : Expr → Expr
  | cat (_ :: rest) =>
    match rest with
    | [e] => e
    | es => cat es
  | _ => empty

def extendItem (key : Option Expr) (e : Expr) : Option (Option Expr) :=
  match key, leadingItem? e with
  | some first, some next => if first.isShareable && first.same next then some key else none
  | _, _ => none


-- ---------------------------------------------------------------------------
-- Letters and sets
-- ---------------------------------------------------------------------------

def extendLetters (key : Bool) (e : Expr) : Option Bool :=
  if key && e.letters?.isSome then some true else none

def joinLetters (run : List Expr) : Expr := set (.unions (run.filterMap letters?))


-- ---------------------------------------------------------------------------
-- All together
-- ---------------------------------------------------------------------------

/-- Factors alternatives: by common text, by common items, and then by letters. What is left of
alternatives without their common beginning is factored again, to at most the given depth. -/
def factorTo : (depth : Nat) → List Expr → List Expr
  | 0, es => es
  | depth + 1, es =>
    let byText := joinRuns (fun key run =>
        match key with
        | some (text, folded) =>
          cat [literal text folded, choice (factorTo depth (run.map (dropText text.length)))]
        | none => choice run)
      (runs leadingText? extendText es)
    let byItem := joinRuns (fun key run =>
        match key with
        | some item => cat [item, choice (factorTo depth (run.map dropItem))]
        | none => choice run)
      (runs leadingItem? extendItem byText)
    joinRuns (fun _ run => joinLetters run)
      (runs (fun e => e.letters?.isSome) extendLetters byItem)

/-- How many letters and items an expression begins with before anything is nested. -/
def beginnings : Expr → Nat
  | literal text _ => text.length
  | cat items => items.foldl (fun n e => n + match e with
      | literal text _ => text.length
      | _ => 1) 0
  | _ => 1

/-- Alternatives, the most preferred first. Every factoring takes a beginning off all alternatives
it goes on with. -/
def alternatives : List Expr → Expr
  | [] => noMatch
  | [e] => e
  | es =>
    let all := es.flatMap branches
    choice (factorTo (all.foldl (fun n e => n + e.beginnings) 1) all)

end FileSearch.Regex.Expr
