import FileSearch.Regex.Expr

/-!
# Unfolding repetitions

Before an expression is laid out as a program, neighbouring repetitions of the same single item are
added up, and counted repetitions are written out as copies and loops.
-/

namespace FileSearch.Regex

/-- How often an item is repeated, at least and at most. -/
structure Counts where
  min : Nat
  max : Option Nat
  deriving DecidableEq, Repr

namespace Counts

def once (n : Nat) : Counts := ⟨n, some n⟩

/-- The counts of two repetitions of the same item, one after the other. -/
def add (a b : Counts) : Counts where
  min := a.min + b.min
  max := match a.max, b.max with
    | some m, some n => some (m + n)
    | _, _ => none

/-- The counts with both bounds at most one. -/
def atMostOnce (c : Counts) : Counts := ⟨Nat.min c.min 1, c.max.map (Nat.min · 1)⟩

end Counts

def LoopKind.counts : LoopKind → Counts
  | .star => ⟨0, none⟩
  | .plus => ⟨1, none⟩
  | .option => ⟨0, some 1⟩

namespace Expr


-- ---------------------------------------------------------------------------
-- Adding up
-- ---------------------------------------------------------------------------

/-- The counts, the settings and the body of a repetition. -/
def repetition? : Expr → Option (Counts × Settings × Expr)
  | loop kind s body => some (kind.counts, s, body)
  | repeatOf min max s body => some (⟨min, max⟩, s, body)
  | _ => none

/-- How often the second expression goes on with the repetition of `body`, and what is left of it:
the same repeated item, the item itself, or a literal that begins with it. -/
def continues? (s : Settings) (body : Expr) (e : Expr) : Option (Counts × Expr) :=
  match e.repetition? with
  | some (counts, t, other) =>
    if body.same other && s.lazy = t.lazy then some (counts, empty) else none
  | none =>
    if body.same e then some (.once 1, empty)
    else match body, e with
      | literal [c] f, literal (d :: text) g =>
        if c = d && f = g then
          let more := text.takeWhile (· = c)
          match text.dropWhile (· = c) with
          | [] => some (.once (more.length + 1), empty)
          | rest => some (.once (more.length + 1), literal rest g)
        else none
      | _, _ => none

/-- A repetition of a single item and what follows it, added up. What nothing is left of is
empty. -/
def addUp? (e next : Expr) : Option (Expr × Expr) :=
  match e.repetition? with
  | some (counts, s, body) =>
    if body.isSingle then
      match continues? s body next with
      | some (more, left) =>
        let sum := counts.add more
        let whole := repeatOf sum.min sum.max s body
        if left.isEmpty then some (empty, whole) else some (whole, left)
      | none => none
    else none
  | none => none

/-- Adds up along a sequence, from left to right. -/
def addUpFrom (e : Expr) : List Expr → List Expr
  | [] => [e]
  | next :: rest =>
    match addUp? e next with
    | some (e, next) => e :: addUpFrom next rest
    | none => e :: addUpFrom next rest

/-- Adds up in a sequence. If nothing can be added up, its empty items stay. -/
def addUpItems (es : List Expr) : List Expr :=
  if (es.zip es.tail).any fun p => (addUp? p.1 p.2).isSome then
    match es with
    | [] => []
    | e :: rest => (addUpFrom e rest).filter fun e => !e.isEmpty
  else es

mutual

/-- The expression with neighbouring repetitions added up everywhere. -/
def addUp : Expr → Expr
  | cat items => cat (addUpItems (addUpAll [] items))
  | alt branches => alt (addUpAll [] branches)
  | group body => group body.addUp
  | loop kind s body => loop kind s body.addUp
  | repeatOf min max s body => repeatOf min max s body.addUp
  | e => e

/-- The expressions, behind those of `done`, which come last first. -/
def addUpAll (done : List Expr) : List Expr → List Expr
  | [] => done.reverse
  | e :: rest => addUpAll (e.addUp :: done) rest

end


-- ---------------------------------------------------------------------------
-- Writing out
-- ---------------------------------------------------------------------------

/-- Whether the expression consists of assertions only. More than one round of it is no use. -/
def onlyAsserts : Expr → Bool
  | require _ => true
  | cat items | alt items => items.all isAssertion
  | _ => false

/-- `count` nested options, each inside the one before: `(x(x(x)?)?)?`. -/
def nestedOptions (s : Settings) (body : Expr) : (count : Nat) → Expr
  | 0 => empty
  | 1 => repetition .option s body
  | count + 2 => repetition .option s (cat [body, nestedOptions s body (count + 1)])

/-- The counts that make a difference. -/
def effectiveCounts (body : Expr) (c : Counts) : Counts :=
  if body.onlyAsserts then c.atMostOnce else c

/-- `count` copies, one after the other. -/
def copies (body : Expr) : (count : Nat) → Expr
  | 0 => empty
  | 1 => body
  | count => cat (List.replicate count body)

/-- Copies and loops in the place of a counted repetition. -/
def writeOut (s : Settings) (body : Expr) (c : Counts) : Expr :=
  match c.min, c.max with
  | 0, none => repetition .star s body
  | 1, none => repetition .plus s body
  | min, none => cat (List.replicate (min - 1) body ++ [repetition .plus s body])
  | 0, some max => nestedOptions s body max
  | min, some max =>
    if min < max then cat [copies body min, nestedOptions s body (max - min)] else copies body min

/-- What a loop becomes with its body written out. -/
def loopOf (kind : LoopKind) (s : Settings) (body : Expr) : Expr :=
  match body with
  | empty => empty
  | loop inner t e => if inner = kind && t = s then loop inner t e else loop kind s (loop inner t e)
  | noMatch => if kind = .option then empty else if kind = .plus then noMatch else loop kind s body
  | body => loop kind s body

def isNoMatch : Expr → Bool
  | noMatch => true
  | _ => false

/-- A sequence, which cannot match if an item cannot. -/
def catOf (items : List Expr) : Expr := if items.any isNoMatch then noMatch else cat items

/-- Alternatives without those that cannot match. -/
def altOf (branches : List Expr) : Expr :=
  match branches.filter (!·.isNoMatch) with
  | [] => noMatch
  | [e] => e
  | es => alt es

mutual

/-- The expression without counted repetitions, and without empty and full sets. -/
def unfold : Expr → Expr
  | set s => if s.isEmpty then noMatch else if s = .full then anyChar else set s
  | cat items => catOf (unfoldAll [] items)
  | alt branches => altOf (unfoldAll [] branches)
  | group body =>
    match body.unfold with
    | noMatch => noMatch
    | e => group e
  | loop kind s body => loopOf kind s body.unfold
  | repeatOf min max s body =>
    match body.unfold with
    | empty => empty
    | e => writeOut s e (effectiveCounts e ⟨min, max⟩)
  | e => e

/-- The expressions, behind those of `done`, which come last first. -/
def unfoldAll (done : List Expr) : List Expr → List Expr
  | [] => done.reverse
  | e :: rest => unfoldAll (e.unfold :: done) rest

end

end Expr

end FileSearch.Regex
