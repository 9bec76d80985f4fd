import FileSearch.Regex.Unfold

/-!
# Code

An expression is laid out as numbered instructions, each naming the one that follows it. What
follows is laid out first: an instruction names earlier ones, but for the decision of a loop, which
has its place before the body and goes back into it.
-/

namespace FileSearch.Regex

/-- `fork` prefers its first successor; `pass` marks the border of a group. -/
inductive Inst where
  | take (set : CharSet) (next : Nat)
  | takeByte (next : Nat)
  | require (a : Assertion) (next : Nat)
  | pass (next : Nat)
  | fork (first second : Nat)
  | accept
  | fail

/-- Instructions, and the one to begin with. -/
structure Code where
  insts : Array Inst
  entry : Nat

/-- What lays out a part of an expression before what follows it. -/
abbrev Layout := Code → Code

namespace Layout

/-- One instruction, made from the number of what follows. -/
def inst (make : Nat → Inst) : Layout
  | ⟨insts, next⟩ =>
    let place := insts.size
    ⟨insts.push (make next), place⟩

/-- Takes a character of a set; a haystack has none beyond U+00FF. -/
def take (set : CharSet) : Layout := inst (.take (set.between 0 0xFF))

/-- A decision between entering and leaving; a lazy one prefers to leave. -/
def decision (lazy : Bool) (enter leave : Nat) : Inst :=
  if lazy then .fork leave enter else .fork enter leave

/-- Goes through `body` or past it. -/
def option (lazy : Bool) (body : Layout) : Layout
  | ⟨insts, next⟩ =>
    let place := insts.size
    let inner := body ⟨insts.push .fail, next⟩
    ⟨inner.insts.setIfInBounds place (decision lazy inner.entry next), place⟩

/-- Goes through `body` and then decides whether to go through it again. -/
def plus (lazy : Bool) (body : Layout) : Layout
  | ⟨insts, next⟩ =>
    let place := insts.size
    let inner := body ⟨insts.push .fail, place⟩
    ⟨inner.insts.setIfInBounds place (decision lazy inner.entry next), inner.entry⟩

/-- Decides before every round of `body`. -/
def starFromOutside (lazy : Bool) (body : Layout) : Layout
  | ⟨insts, next⟩ =>
    let place := insts.size
    let inner := body ⟨insts.push .fail, place⟩
    ⟨inner.insts.setIfInBounds place (decision lazy inner.entry next), place⟩

/-- Any number of rounds of `body`. One that can match without taking a character is decided on
before its first round and after each, so that an empty round cannot come in front of the others. -/
def star (lazy nullable : Bool) (body : Layout) : Layout :=
  if nullable then option lazy (plus lazy body) else starFromOutside lazy body

def times (n : Nat) (body : Layout) : Layout := Nat.repeat body n

/-- `count` options, each inside the one before. -/
def options (lazy : Bool) (body : Layout) : (count : Nat) → Layout
  | 0 => id
  | count + 1 => option lazy fun code => body (options lazy body count code)

/-- Goes through `body` between two borders. -/
def group (body : Layout) : Layout
  | ⟨insts, next⟩ =>
    let close := insts.size
    let inner := body ⟨(insts.push (.pass next)).push .fail, close⟩
    ⟨inner.insts.setIfInBounds (close + 1) (.pass inner.entry), close + 1⟩

/-- Decides between the given entries, the first one preferred, with forks from `place` on. -/
def setForks (place : Nat) (insts : Array Inst) : List Nat → Array Inst
  | first :: second :: rest =>
    if rest.isEmpty then insts.setIfInBounds place (.fork first second)
    else setForks (place + 1) (insts.setIfInBounds place (.fork first (place + 1))) (second :: rest)
  | _ => insts

/-- Goes through one of the bodies, of which the most preferred comes last. -/
def alternatives (bodies : List Layout) : Layout
  | ⟨insts, next⟩ =>
    let place := insts.size
    let reserved := (List.range (bodies.length - 1)).foldl (fun insts _ => insts.push .fail) insts
    let (insts, entries) := bodies.foldl (fun (insts, entries) body =>
      let inner := body ⟨insts, next⟩
      (inner.insts, inner.entry :: entries)) (reserved, [])
    match entries with
    | [entry] => ⟨insts, entry⟩
    | entries => ⟨setForks place insts entries, place⟩

end Layout

namespace Expr

mutual

def layout : Expr → Layout
  | noMatch => .inst fun _ => .fail
  | empty => id
  | literal text folded => fun code =>
    text.reverse.foldl (fun code c => Layout.take (letterSet folded c) code) code
  | set s => .take s
  | anyChar => .take .full
  | anyByte => .inst .takeByte
  | require a => .inst (.require a)
  | cat items => fun code => (layoutAll [] items).foldl (fun code item => item code) code
  | alt branches => .alternatives (layoutAll [] branches)
  | group body => .group body.layout
  | loop .star s body => .star s.lazy body.nullable body.layout
  | loop .plus s body => .plus s.lazy body.layout
  | loop .option s body => .option s.lazy body.layout
  | repeatOf 0 none s body => .star s.lazy body.nullable body.layout
  | repeatOf (min + 1) none s body => fun code =>
    Layout.times min body.layout (Layout.plus s.lazy body.layout code)
  | repeatOf min (some max) s body => fun code =>
    Layout.times min body.layout (Layout.options s.lazy body.layout (max - min) code)

/-- The layouts of the expressions, the last first, in front of those of `done`. -/
def layoutAll (done : List Layout) : List Expr → List Layout
  | [] => done
  | e :: rest => layoutAll (e.layout :: done) rest

end

/-- The code of an expression, in front of a match. -/
def code (e : Expr) : Code := e.layout ⟨#[.accept], 0⟩

end Expr

end FileSearch.Regex
