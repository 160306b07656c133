/-!
# Scanning

A scan takes characters from the front of a text and gives a value, or fails. An alternative
starts again where the failed one started.

- `Scan`: the type of scans.
- `Scan.char`, `Scan.word`, `Scan.oneOf`, `Scan.many`: characters.
- `Scan.separated`: values with a mark between them.
-/

namespace PlotGrid

/-- A step over the front of a text. -/
abbrev Scan := StateT (List Char) Option

namespace Scan

variable {α : Type}

/-- The next character, which stays. -/
def peek : Scan (Option Char) := do
  return (← get).head?

/-- One character of a class. -/
def oneOf (p : Char → Bool) : Scan Char := fun s =>
  match s with
  | c :: rest => if p c then some (c, rest) else none
  | [] => none

/-- One given character. -/
def char (c : Char) : Scan Unit := do
  let _ ← oneOf (· == c)

/-- All characters of a class up to the first other one. -/
def many (p : Char → Bool) : Scan (List Char) := fun s =>
  some (s.takeWhile p, s.dropWhile p)

/-- A given sequence of characters. -/
def word (w : List Char) : Scan Unit := fun s =>
  if w.isPrefixOf s then some ((), s.drop w.length) else none

/-- Whether a given character comes next; if so it is taken. -/
def skip? (c : Char) : Scan Bool := fun s =>
  match s with
  | d :: rest => if d = c then some (true, rest) else some (false, s)
  | [] => some (false, [])

/-- The end of the text. -/
def done : Scan Unit := fun s =>
  if s.isEmpty then some ((), []) else none

/-- Values with `mark` between them, at least one; the number bounds how many. -/
def separatedUpTo (item : Scan α) (mark : Scan Bool) : Nat → Scan (List α)
  | 0 => failure
  | n + 1 => do
    let a ← item
    if ← mark then
      return a :: (← separatedUpTo item mark n)
    else return [a]

/-- Values with `mark` between them, at least one. Each takes a character at least, so the length
of the text bounds their number. -/
def separated (item : Scan α) (mark : Scan Bool) : Scan (List α) := fun s =>
  separatedUpTo item mark (s.length + 1) s

end Scan

end PlotGrid
