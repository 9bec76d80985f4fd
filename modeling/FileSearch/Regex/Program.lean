import FileSearch.Regex.Code
import Std.Data.HashSet

/-!
# Programs

For searching, code is cut into blocks. A block lists what can be done from its beginning without
taking a character, the most preferred first; forks are gone, and an instruction that more than one
block leads to is the beginning of a block of its own. During a search a block is entered once at a
place.
-/

namespace FileSearch.Regex

inductive Action where
  | take (set : CharSet) (next : Nat)
  | takeByte (next : Nat)
  | require (a : Assertion) (next : Nat)
  | goto (next : Nat)
  | accept

structure Program where
  blocks : Array (List Action)
  entry : Nat

namespace Inst

/-- The successor of an instruction that is no fork. -/
def next? : Inst → Option Nat
  | take _ next | takeByte next | require _ next | pass next => some next
  | fork _ _ | accept | fail => none

def action? : Inst → Option Action
  | take set next => some (.take set next)
  | takeByte next => some (.takeByte next)
  | require a next => some (.require a next)
  | pass next => some (.goto next)
  | accept => some .accept
  | fork _ _ | fail => none

end Inst

namespace Code


-- ---------------------------------------------------------------------------
-- Where blocks begin
-- ---------------------------------------------------------------------------

/-- The instructions come to from those of a worklist through forks alone, the last first and in
front of those of `found`. Instructions for which `stops` holds are come to but not gone through.
Every step but those for a fork shortens the worklist, so `fuel` need not exceed two steps for each
instruction and one for the first. -/
def reach (insts : Array Inst) (stops : Nat → Bool) (seen : Std.HashSet Nat) (found : List Nat) :
    (fuel : Nat) → (work : List Nat) → List Nat × Std.HashSet Nat
  | 0, _ | _, [] => (found, seen)
  | fuel + 1, i :: work =>
    if seen.contains i then reach insts stops seen found fuel work
    else
      match stops i, insts[i]? with
      | false, some (.fork a b) =>
        reach insts stops (seen.insert i) (i :: found) fuel (a :: b :: work)
      | _, _ => reach insts stops (seen.insert i) (i :: found) fuel work

/-- What is come to from the beginning of a block before that of another. -/
def region (c : Code) (starts : Std.HashSet Nat) (i : Nat) : List Nat × Std.HashSet Nat :=
  reach c.insts (fun j => j != i && starts.contains j) {} [] (2 * c.insts.size + 1) [i]

/-- The entry and all successors of instructions that are no forks. -/
def firstStarts (c : Code) : Std.HashSet Nat :=
  c.insts.foldl (fun starts i => match i.next? with
    | some next => starts.insert next
    | none => starts) {c.entry}

/-- The forks that lead to each instruction. -/
def forksTo (c : Code) : Array (List Nat) :=
  (List.range c.insts.size).foldl (fun (all : Array (List Nat)) i => match c.insts[i]? with
    | some (Inst.fork a b) => (all.modify a (i :: ·)).modify b (i :: ·)
    | _ => all) (Array.replicate c.insts.size [])

/-- Where blocks begin: also at every instruction in the region of one of the first beginnings that
a fork outside that region leads to. -/
def starts (c : Code) : Std.HashSet Nat :=
  let first := c.firstStarts
  let forks := c.forksTo
  (List.range c.insts.size).foldl (fun starts i =>
    if i = c.entry || !first.contains i then starts
    else
      let (found, seen) := c.region starts i
      found.foldl (fun starts j =>
        if !starts.contains j && (forks[j]?.getD []).any (!seen.contains ·) then starts.insert j
        else starts) starts) first


-- ---------------------------------------------------------------------------
-- Blocks
-- ---------------------------------------------------------------------------

/-- The block that begins at an instruction. -/
def block (c : Code) (starts : Std.HashSet Nat) (i : Nat) : List Action :=
  (c.region starts i).1.foldl (fun actions j =>
    if j != i && starts.contains j then .goto j :: actions
    else match c.insts[j]?.bind Inst.action? with
      | some action => action :: actions
      | none => actions) []

/-- The program of code: each block has the number of its first instruction, and there is no block
under the others. -/
def program (c : Code) : Program :=
  let starts := c.starts
  let blocks := (Array.range c.insts.size).map fun i =>
    if starts.contains i then c.block starts i else []
  ⟨blocks, c.entry⟩

end Code

end FileSearch.Regex
