import FileSearch.Regex.Token

/-!
# Regular expressions

The tree a pattern denotes. Of two ways to match, it prefers the earlier branch of an alternative
and, for a repetition, another round if it is greedy and none if it is lazy. Case folding is worked
into the sets; only the letters of a literal may still stand for both cases.
-/

namespace FileSearch.Regex

/-- What holds at a place in a pattern. -/
structure Settings where
  fold : Bool := false
  multiline : Bool := false
  dotAll : Bool := false
  lazy : Bool := false
  deriving DecidableEq, Repr

namespace Settings

def set (s : Settings) : Setting × Bool → Settings
  | (.fold, on) => { s with fold := on }
  | (.multiline, on) => { s with multiline := on }
  | (.dotAll, on) => { s with dotAll := on }
  | (.lazy, on) => { s with lazy := on }

end Settings

/-- `folded` holds for a literal whose ASCII letters, written in lower case, stand for both cases. A
repetition keeps the settings it was written under; `lazy` is its own. -/
inductive Expr where
  | noMatch
  | empty
  | literal (text : List Nat) (folded : Bool)
  | set (s : CharSet)
  | anyChar
  | anyByte
  | require (a : Assertion)
  | cat (items : List Expr)
  | alt (branches : List Expr)
  | group (body : Expr)
  | loop (kind : LoopKind) (settings : Settings) (body : Expr)
  | repeatOf (min : Nat) (max : Option Nat) (settings : Settings) (body : Expr)

namespace Expr

instance : Inhabited Expr := ⟨empty⟩

def isEmpty : Expr → Bool
  | empty => true
  | _ => false

def isAnyChar : Expr → Bool
  | anyChar => true
  | _ => false

/-- What a letter of a literal stands for. -/
def letterSet (folded : Bool) (c : Nat) : CharSet :=
  if folded && 0x61 ≤ c && c ≤ 0x7A then ⟨[(c - 0x20, c - 0x20), (c, c)]⟩ else .single c

/-- The set of an expression that is a letter or a set. -/
def letters? : Expr → Option CharSet
  | literal [c] folded => some (letterSet folded c)
  | set s => some s
  | _ => none

/-- Whether the expression takes exactly one character or byte. -/
def isSingle : Expr → Bool
  | literal [_] _ | set _ | anyChar | anyByte => true
  | _ => false

def isAssertion : Expr → Bool
  | require _ => true
  | _ => false

/-- Whether two single items or assertions are the same, or two repetitions of the same single item
to the same counts. -/
def same : Expr → Expr → Bool
  | literal s f, literal t g => s = t && f = g
  | set s, set t => s = t
  | anyChar, anyChar => true
  | anyByte, anyByte => true
  | require a, require b => a = b
  | repeatOf min max s (.literal x f), repeatOf min' max' t (.literal y g) =>
    min = min' && max = max' && s.lazy = t.lazy && x = y && f = g
  | repeatOf min max s (.set x), repeatOf min' max' t (.set y) =>
    min = min' && max = max' && s.lazy = t.lazy && x = y
  | repeatOf min max s .anyChar, repeatOf min' max' t .anyChar =>
    min = min' && max = max' && s.lazy = t.lazy
  | repeatOf min max s .anyByte, repeatOf min' max' t .anyByte =>
    min = min' && max = max' && s.lazy = t.lazy
  | _, _ => false

mutual

/-- Whether the expression can match without taking a character. -/
def nullable : Expr → Bool
  | noMatch | literal _ _ | set _ | anyChar | anyByte => false
  | empty | require _ => true
  | cat items => allNullable items
  | alt branches => anyNullable branches
  | group body => body.nullable
  | loop kind _ body => kind != .plus || body.nullable
  | repeatOf min _ _ body => min = 0 || body.nullable

def allNullable : List Expr → Bool
  | [] => true
  | e :: rest => if e.nullable then allNullable rest else false

def anyNullable : List Expr → Bool
  | [] => false
  | e :: rest => if e.nullable then true else anyNullable rest

end

mutual

def mentionsAnyByte : Expr → Bool
  | anyByte => true
  | cat items | alt items => anyMentionsAnyByte items
  | group body | loop _ _ body | repeatOf _ _ _ body => body.mentionsAnyByte
  | _ => false

def anyMentionsAnyByte : List Expr → Bool
  | [] => false
  | e :: rest => if e.mentionsAnyByte then true else anyMentionsAnyByte rest

end

mutual

/-- What nested counted repetitions leave of a budget: each divides it by its upper bound, or by
its lower bound where it has no upper one. Zero means that the repetitions unfold too far. -/
def budgetLeft (budget : Nat) : Expr → Nat
  | cat items | alt items => leastBudgetLeft budget budget items
  | group body | loop _ _ body => body.budgetLeft budget
  | repeatOf min max _ body =>
    let bound := max.getD min
    body.budgetLeft (if bound = 0 then budget else budget / bound)
  | _ => budget

def leastBudgetLeft (budget least : Nat) : List Expr → Nat
  | [] => least
  | e :: rest => leastBudgetLeft budget (Nat.min least (e.budgetLeft budget)) rest

end


-- ---------------------------------------------------------------------------
-- Putting expressions together
-- ---------------------------------------------------------------------------

/-- The items of a sequence, or the expression as the only one. -/
def items : Expr → List Expr
  | cat items => items
  | e => [e]

def branches : Expr → List Expr
  | alt branches => branches
  | e => [e]

/-- Expressions one after the other. -/
def sequence : List Expr → Expr
  | [] => empty
  | [e] => e
  | es => cat (es.flatMap items)

/-- A repetition of `body`. One of a repetition under the same settings is a single one. -/
def repetition (kind : LoopKind) (settings : Settings) : Expr → Expr
  | loop inner s body =>
    if s = settings then
      if inner = kind then loop inner s body else loop .star s body
    else loop kind settings (loop inner s body)
  | body => loop kind settings body

/-- A set as an expression. One of a single character, or of both cases of an ASCII letter, is a
literal. -/
def ofSet (fold : Bool) (s : CharSet) : Expr :=
  match s.ranges with
  | [(a, b)] => if a = b then literal [a] fold else set s
  | [(a, b), (c, d)] =>
    if a = b && c = d && 0x41 ≤ a && a ≤ 0x5A && c = a + 0x20 then literal [c] true else set s
  | _ => set s

end Expr


-- ---------------------------------------------------------------------------
-- Items of a pattern
-- ---------------------------------------------------------------------------

namespace Settings

/-- The set an item of a class denotes. A negated item leaves out the case partners of what it
excludes. -/
def itemSet (s : Settings) : ClassItem → CharSet
  | .range low high => (CharSet.range low high).foldIf s.fold
  | .named set negated => (set.foldIf s.fold).negateIf negated

def literal (s : Settings) (c : Nat) : Expr :=
  match orbit c with
  | _ :: _ :: _ => if s.fold then .ofSet true (.ofList (orbit c)) else .literal [c] false
  | _ => .literal [c] s.fold

/-- The expression of a token that stands for one place in the text. -/
def atom? (s : Settings) : Token → Option Expr
  | .literal c => some (s.literal c)
  | .item i => some (.ofSet s.fold (s.itemSet i))
  | .set negated items =>
    some (.ofSet s.fold ((CharSet.unions (items.map s.itemSet)).negateIf negated))
  | .dot => some (if s.dotAll then .anyChar else .set (CharSet.single 0x0A).compl)
  | .anyByte => some .anyByte
  | .caret => some (.require (if s.multiline then .lineStart else .textStart))
  | .dollar => some (.require (if s.multiline then .lineEnd else .dollar))
  | .assertion a => some (.require a)
  | _ => none

end Settings

end FileSearch.Regex
