import FileSearch.Number

/-!
# Values

Loosely typed data: what an argument object may hold before it is checked, the details attached to a
failure, and whatever a task may be made to throw.
-/

namespace FileSearch

inductive Value where
  | absent
  | null
  | bool (b : Bool)
  | number (n : Number)
  | text (s : String)
  | list (items : List Value)
  | record (fields : List (String × Value))
  deriving Inhabited

/-- Named values, in the order they were given. -/
abbrev Details := List (String × Value)

namespace Value

/-- Whether the value leaves an empty place in a list. -/
def isMissing : Value → Bool
  | absent | null => true
  | _ => false

mutual

/-- The value as text: a list is its items between commas, where a missing item is empty. A record
with a field in the place of the function that makes its text has none, and a list with such an item
has none either. -/
def text? : Value → Option String
  | absent => some "undefined"
  | null => some "null"
  | bool b => some (if b then "true" else "false")
  | number n => some n.text
  | text s => some s
  | list items => (itemTexts? items).map fun texts => ",".intercalate texts
  | record fields => if fields.any (·.1 = "toString") then none else some "[object Object]"

def itemTexts? : List Value → Option (List String)
  | [] => some []
  | v :: rest =>
    match (if v.isMissing then some "" else v.text?), itemTexts? rest with
    | some first, some texts => some (first :: texts)
    | _, _ => none

end

theorem hasText_absent : absent.text?.isSome := rfl

theorem hasText_text (s : String) : (text s).text?.isSome := rfl

/-- The field of a record, absent where there is none. -/
def field (v : Value) (name : String) : Value :=
  match v with
  | record fields => (fields.lookup name).getD absent
  | _ => absent

end Value

end FileSearch
