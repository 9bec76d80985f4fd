import FileSearch.Bytes

/-!
# Reading UTF-8

A decoder takes one byte at a time, so that text may arrive in pieces cut anywhere. A sequence that
cannot go on is replaced by U+FFFD as far as it got, and the byte that broke it is read afresh.
-/

namespace FileSearch.Text

def replacement : Char := '\uFFFD'

/-- A character under way: its leading bits, how many bytes it still lacks, and the bounds of the
next of them. With no byte lacking no character is under way. -/
structure Decoder where
  code : Nat := 0
  missing : Nat := 0
  low : Nat := 0x80
  high : Nat := 0xBF
  deriving DecidableEq, Repr

namespace Decoder

def idle : Decoder := {}

/-- The first byte of a character. -/
def start (b : Nat) : Decoder × List Char :=
  if b ≤ 0x7F then (idle, [Char.ofNat b])
  else if 0xC2 ≤ b && b ≤ 0xDF then ({ code := b % 0x20, missing := 1 }, [])
  else if b = 0xE0 then ({ code := 0, missing := 2, low := 0xA0 }, [])
  else if b = 0xED then ({ code := 0x0D, missing := 2, high := 0x9F }, [])
  else if 0xE1 ≤ b && b ≤ 0xEF then ({ code := b % 0x10, missing := 2 }, [])
  else if b = 0xF0 then ({ code := 0, missing := 3, low := 0x90 }, [])
  else if b = 0xF4 then ({ code := 4, missing := 3, high := 0x8F }, [])
  else if 0xF1 ≤ b && b ≤ 0xF3 then ({ code := b % 0x08, missing := 3 }, [])
  else (idle, [replacement])

/-- Takes a byte and answers with the characters it completes. -/
def step (d : Decoder) (byte : UInt8) : Decoder × List Char :=
  let b := byte.toNat
  match d.missing with
  | 0 => start b
  | missing + 1 =>
    if d.low ≤ b && b ≤ d.high then
      let code := d.code * 0x40 + b % 0x40
      if missing = 0 then (idle, [Char.ofNat code]) else ({ code, missing }, [])
    else
      let (next, chars) := start b
      (next, replacement :: chars)

/-- Takes a run of bytes. -/
def run (d : Decoder) : Bytes → Decoder × List Char
  | [] => (d, [])
  | b :: rest =>
    let (d, chars) := d.step b
    let (d, more) := d.run rest
    (d, chars ++ more)

/-- What is left of a character when the bytes end. -/
def finish (d : Decoder) : List Char :=
  if d.missing = 0 then [] else [replacement]

theorem run_append (d : Decoder) (xs ys : Bytes) :
    d.run (xs ++ ys) = ((d.run xs).1.run ys).map id ((d.run xs).2 ++ ·) := by
  induction xs generalizing d with
  | nil => simp [run, Prod.map]
  | cons b rest ih => simp [run, ih, Prod.map]

end Decoder

/-- The characters of a whole run of bytes. -/
def decodeChars (bytes : Bytes) : List Char :=
  let (d, chars) := Decoder.idle.run bytes
  chars ++ d.finish

def decode (bytes : Bytes) : String := String.ofList (decodeChars bytes)


-- ---------------------------------------------------------------------------
-- Unfinished ends
-- ---------------------------------------------------------------------------

def isContinuation (b : UInt8) : Bool := 0x80 ≤ b && b ≤ 0xBF

/-- The number of bytes a character has by its first byte, where there are several. -/
def announcedLength (b : UInt8) : Nat :=
  if 0xC0 ≤ b && b ≤ 0xDF then 2
  else if 0xE0 ≤ b && b ≤ 0xEF then 3
  else if 0xF0 ≤ b && b ≤ 0xF7 then 4
  else 0

/-- How many bytes at the end of a text begin a character without completing it, judged by the first
of them alone. The bytes come last first, and `count` of them have been passed. -/
def unfinishedLength (count : Nat) : Bytes → Nat
  | [] => 0
  | b :: before =>
    if isContinuation b then
      if 3 ≤ count then 0 else unfinishedLength (count + 1) before
    else if count + 1 < announcedLength b then count + 1
    else 0

/-- The bytes that can be decoded now, and those that have to wait for more. -/
def splitUnfinished (bytes : Bytes) : Bytes × Bytes :=
  bytes.splitAt (bytes.length - unfinishedLength 0 bytes.reverse)

end FileSearch.Text
