import FileSearch.Regex.Bytewise
import FileSearch.Regex.Dialect
import FileSearch.Regex.Parse
import FileSearch.Regex.Size

/-!
# From patterns to programs

A pattern is respelled, parsed, simplified and laid out. What has to stand at the beginning of the
text is taken off first: it is not looked for at other places.
-/

namespace FileSearch.Regex

namespace Expr


-- ---------------------------------------------------------------------------
-- The beginning of the text
-- ---------------------------------------------------------------------------

/-- The literal an expression requires at the beginning of the text, and what follows it. -/
def requiredStart? : Expr → Option (List Nat × Bool × Expr)
  | cat (require .textStart :: rest) =>
    match rest.dropWhile isTextStart with
    | literal text folded :: rest => some (text, folded, sequence rest)
    | _ => none
  | _ => none
where
  isTextStart : Expr → Bool
    | require .textStart => true
    | _ => false

/-- Takes the assertion off that an expression begins with, if it stands at most `depth` sequences
and groups deep. -/
def dropTextStart? : (depth : Nat) → Expr → Option Expr
  | 0, _ => none
  | _ + 1, require .textStart => some empty
  | depth + 1, cat (first :: rest) =>
    (dropTextStart? depth first).map fun first => cat (first :: rest)
  | depth + 1, group body => (dropTextStart? depth body).map group
  | _ + 1, _ => none

end Expr


-- ---------------------------------------------------------------------------
-- Programs of expressions
-- ---------------------------------------------------------------------------

namespace Program

/-- Puts a block in front of the entry. -/
def prepend (action : Nat → Action) : Program → Program
  | ⟨blocks, next⟩ =>
    let place := blocks.size
    ⟨blocks.push [action next], place⟩

/-- The program after a literal at the beginning of the text. -/
def afterLiteral (text : List Nat) (folded : Bool) (p : Program) : Program :=
  (text.reverse.foldl (fun p c => p.prepend (.take (Expr.letterSet folded c))) p).prepend
    (.require .textStart)

end Program

namespace Expr

/-- How many sequences and groups an assertion at the beginning is looked for in. -/
def startDepth : Nat := 4

/-- The program of an expression, unless it would be too large. -/
def program (e : Expr) : Except PatternError Program :=
  let e := e.addUp
  if e.isTooLarge then .error .tooLarge
  else
    let plain := e.unfold
    match plain.dropTextStart? startDepth with
    | some rest => .ok (rest.code.program.prepend (.require .textStart))
    | none => .ok plain.code.program

/-- The program of an expression that may require a literal at the beginning of the text. Only what
follows that literal counts for the size. -/
def compile (e : Expr) : Except PatternError Program :=
  match e.requiredStart? with
  | some (text, folded, rest) => rest.program.map (·.afterLiteral text folded)
  | none => e.program

/-- The search for an expression in the characters of a haystack. -/
def searcher (e : Expr) : Except PatternError (Bytes → Option Span) :=
  e.compile.map fun p =>
    if e.mentionsAnyByte then p.encoded.searchBytewise else fun haystack => p.search haystack 0

end Expr

/-- The expression a pattern denotes under the given settings. -/
def Expr.ofPattern (pattern : List Char) (settings : Settings) (multiline : Bool) :
    Except PatternError Expr :=
  parse settings (Dialect.normalize multiline pattern)

end FileSearch.Regex
