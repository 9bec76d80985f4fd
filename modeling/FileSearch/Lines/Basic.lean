import FileSearch.Bytes

/-!
# Lines

The line structure of a run of bytes. Only a line feed ends a line; where a line is reported the
carriage returns and line feeds at its end are dropped.
-/

namespace FileSearch


-- ---------------------------------------------------------------------------
-- Line ends
-- ---------------------------------------------------------------------------

/-- The line without its last byte if that is a line feed. -/
def stripLineFeed (line : Bytes) : Bytes :=
  if line.getLast? = some lineFeed then line.dropLast else line

def isLineEnding (b : UInt8) : Bool := b = lineFeed || b = carriageReturn

/-- The line without the carriage returns and line feeds at its end. -/
def stripLineEnding (line : Bytes) : Bytes :=
  (line.reverse.dropWhile isLineEnding).reverse


-- ---------------------------------------------------------------------------
-- Pieces
-- ---------------------------------------------------------------------------

/-- The pieces between the line feeds; there is always one more than there are line feeds. -/
def splitLines (bytes : Bytes) : List Bytes := bytes.splitOn lineFeed

/-- The pieces with a line feed between any two. -/
def joinLines (pieces : List Bytes) : Bytes := [lineFeed].intercalate pieces


-- ---------------------------------------------------------------------------
-- Positions
-- ---------------------------------------------------------------------------

/-- How many line feeds stand before an offset. -/
def countLineFeeds (bytes : Bytes) (offset : Int) : Nat :=
  (bytes.take offset.toNat).count lineFeed

/-- The line around an offset, without its line feed: back to just after the line feed before the
offset, and on to the next one. -/
def lineAt (bytes : Bytes) (offset : Int) : Bytes :=
  let before := bytes.take offset.toNat
  let after := bytes.drop offset.toNat
  (before.reverse.takeWhile (· != lineFeed)).reverse ++ after.takeWhile (· != lineFeed)

/-- An offset between two bytes counts the line feeds before it as the next whole offset does. -/
def countLineFeedsBefore (bytes : Bytes) (offset : Rat) : Nat :=
  countLineFeeds bytes offset.ceil

/-- An offset between two bytes lies on the line of the byte before it. -/
def lineAround (bytes : Bytes) (offset : Rat) : Bytes :=
  lineAt bytes (if 0 < offset && offset < 1 then 1 else offset.floor)

end FileSearch
