import FileSearch.Regex.CharSet
import FileSearch.Text.Hex

/-!
# Tables of code points

How a set is written in a table: ascending entries between blanks, each a code point, the first and
the last of a range with `-` between them, or of a row in which only every second code point is
meant, marked by `:2`.
-/

namespace FileSearch.Regex.Unicode

def everySecond (low high : Nat) : Ranges :=
  (List.range ((high - low) / 2 + 1)).map fun k => (low + 2 * k, low + 2 * k)

def readEntry (entry : List Char) : Ranges :=
  let low := Text.hexNumber (entry.takeWhile (· != '-'))
  match entry.dropWhile (· != '-') with
  | [] => [(low, low)]
  | rest =>
    let high := Text.hexNumber (rest.takeWhile (· != ':'))
    if rest.contains ':' then everySecond low high else [(low, high)]

def readTable (lines : List String) : CharSet :=
  ⟨lines.flatMap fun line => (line.toList.splitOn ' ').flatMap readEntry⟩

end FileSearch.Regex.Unicode
