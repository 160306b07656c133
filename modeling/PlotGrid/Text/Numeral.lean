/-!
# Decimal numerals

Numerals are ASCII digits, at least one, with a sign where the reader allows it. Leading zeros
count as digits.

- `digits?`: the value of a run of digits.
- `natural?`: a numeral that may have a plus sign.
- `integer?`: a numeral that may have either sign.
-/

namespace PlotGrid.Text

/-- An ASCII digit. -/
def isDigit (c : Char) : Bool :=
  '0' ≤ c && c ≤ '9'

/-- The value of a digit. -/
def digit (c : Char) : Nat :=
  c.toNat - '0'.toNat

/-- The value of a non-empty run of digits. -/
def digits? (s : List Char) : Option Nat :=
  if s ≠ [] ∧ s.all isDigit then some (s.foldl (fun n c => 10 * n + digit c) 0) else none

/-- A numeral without sign or with a plus sign. -/
def natural? (s : List Char) : Option Nat :=
  match s with
  | '+' :: rest => digits? rest
  | _ => digits? s

/-- A numeral without sign or with either sign. -/
def integer? (s : List Char) : Option Int :=
  match s with
  | '-' :: rest => (digits? rest).map fun n => -(n : Int)
  | _ => (natural? s).map fun n => (n : Int)

/-- A numeral below 16: the text form of a rotation index. -/
def rotation? (s : List Char) : Option Nat :=
  (natural? s).filter (· < 16)

/-- A number is read back from its numeral. -/
theorem digits?_toString (n : Nat) : digits? (toString n).toList = some n := by
  have hdigits : ((Nat.toDigits 10 n).all isDigit) = true :=
    List.all_eq_true.mpr fun c hc => Nat.isDigit_of_mem_toDigits (by decide) (by decide) hc
  have hvalue := @Nat.ofDigitChars_ten_toDigits n
  rw [Nat.ofDigitChars_eq_foldl] at hvalue
  rw [Nat.toString_eq_ofList_toDigits, String.toList_ofList, digits?,
    if_pos ⟨Nat.toDigits_ne_nil, hdigits⟩]
  exact congrArg some hvalue

end PlotGrid.Text
