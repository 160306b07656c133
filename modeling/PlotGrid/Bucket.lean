import PlotGrid.Coord
import PlotGrid.Registry.Basic
import PlotGrid.Text.Numeral

/-!
# Block buckets

A bucket is a weighted mix of blocks, written as in `stone:3,cobblestone:1`. Which block it gives
at a position depends on the position alone, so a chunk that is generated again comes out equal.

- `Bucket.parse`: read a bucket, or say what is wrong with its text.
- `positionHash`: the number that a position draws with.
- `Bucket.choose`: the entry that a number below the total falls to.
- `Bucket.pick`: the block at a position.
-/

namespace PlotGrid

/-- Voxels with their weights, in the order in which they were written, and the sum of the
weights. -/
structure Bucket where
  entries : List (Voxel × Nat)
  total : Nat
  deriving Repr, DecidableEq, Inhabited

/-- What is wrong with the text of a bucket. -/
inductive BucketError
  /-- A weight is above the greatest weight. -/
  | heavyPart (part : String)
  /-- A key names no block. -/
  | unknownBlock (key : String)
  /-- The sum of the weights is above the greatest weight. -/
  | heavySum (spec : String)
  /-- No block has a positive weight. -/
  | noBlock (spec : String)
  deriving Repr, DecidableEq

namespace BucketError

/-- The text of an error. -/
def message : BucketError → String
  | .heavyPart part => s!"weight in '{part}': number too large to fit in target type"
  | .unknownBlock key => s!"unknown block '{key}'"
  | .heavySum spec => s!"bucket weights overflow in '{spec}'"
  | .noBlock spec => s!"empty block bucket '{spec}'"

end BucketError

namespace Bucket

/-- The greatest weight, and the greatest sum of weights. -/
def greatestWeight : Nat := 4294967295

/-- A bucket of one voxel. -/
def single (v : Voxel) : Bucket :=
  ⟨[(v, 1)], 1⟩

/-- The bucket that reading starts from. -/
def empty : Bucket :=
  ⟨[], 0⟩

/-- The bucket with one more entry at its end. -/
def add (b : Bucket) (v : Voxel) (n : Nat) : Bucket :=
  ⟨b.entries ++ [(v, n)], b.total + n⟩

/-- The first voxel of a bucket. -/
def first (b : Bucket) : Voxel :=
  match b.entries with
  | (v, _) :: _ => v
  | [] => .air

/-- Cut at the commas outside of brackets; a closing bracket that closes nothing is ignored. -/
def parts (depth : Nat) : List Char → List (List Char)
  | [] => [[]]
  | c :: rest =>
    if c = ',' ∧ depth = 0 then [] :: parts depth rest
    else
      let depth := if c = '[' then depth + 1 else if c = ']' then depth - 1 else depth
      match parts depth rest with
      | [] => [[c]]
      | next :: more => (c :: next) :: more

/-- Split a part into key and weight. The weight is a run of digits after the last colon; without
one the whole part is the key and weighs one. -/
def keyAndWeight (part : List Char) : List Char × Nat :=
  match Text.cutLast? ':' part with
  | some (key, digits) =>
    match Text.digits? digits with
    | some n => (key, n)
    | none => (part, 1)
  | none => (part, 1)

/-- Add one part to the bucket so far. Empty parts and parts without weight add nothing. -/
def addPart (reg : Registry) (spec : String) (b : Bucket) (part : List Char) :
    Except BucketError Bucket :=
  let part := Text.trim part
  if part = [] then .ok b
  else
    let (key, n) := keyAndWeight part
    if n > greatestWeight then .error (.heavyPart (.ofList part))
    else if n = 0 then .ok b
    else
      match reg.blockOfKey? (.ofList key) with
      | none => .error (.unknownBlock (.ofList key))
      | some block =>
        if b.total + n > greatestWeight then .error (.heavySum spec)
        else .ok (b.add ⟨block, none⟩ n)

/-- Read a bucket. -/
def parse (reg : Registry) (spec : String) : Except BucketError Bucket := do
  let b ← (parts 0 spec.toList).foldlM (addPart reg spec) empty
  if b.entries.isEmpty then throw (.noBlock spec)
  return b

/-- The entry that a number falls to when the entries lie side by side, each as wide as its
weight. -/
def choose : List (Voxel × Nat) → Nat → Option Voxel
  | [], _ => none
  | (v, w) :: rest, n => if n < w then some v else choose rest (n - w)

end Bucket

/-- A coordinate as a word of 64 bits, reduced modulo `2 ^ 32`. -/
def coordWord (n : Int) : UInt64 :=
  .ofNat (n % 4294967296).toNat

/-- The number that a position draws with. -/
def positionHash (x y z : Int) : UInt64 :=
  let mixed := coordWord x * 0x9E3779B97F4A7C15 ^^^ coordWord y * 0xC2B2AE3D27D4EB4F ^^^
    coordWord z * 0x165667B19E3779F9
  let folded := (mixed ^^^ (mixed >>> 33)) * 0xFF51AFD7ED558CCD
  folded ^^^ (folded >>> 33)

/-- The voxel of a bucket at a position. -/
def Bucket.pick (b : Bucket) : Pattern := fun x y z =>
  if b.entries.length ≤ 1 then b.first
  else (Bucket.choose b.entries ((positionHash x y z).toNat % b.total)).getD b.first

end PlotGrid
