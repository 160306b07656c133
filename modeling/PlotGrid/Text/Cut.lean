/-!
# Cutting a text at a character

- `cut?`, `cutLast?`: the parts before and after the first or last occurrence.
- `pieces`: all parts between the occurrences; there is always at least one.
-/

namespace PlotGrid.Text

/-- The parts before and after the first `c`. -/
def cut? (c : Char) : List Char → Option (List Char × List Char)
  | [] => none
  | d :: rest =>
    if d = c then some ([], rest)
    else (cut? c rest).map fun p => (d :: p.1, p.2)

/-- The parts before and after the last `c`. -/
def cutLast? (c : Char) : List Char → Option (List Char × List Char)
  | [] => none
  | d :: rest =>
    match cutLast? c rest with
    | some (before, after) => some (d :: before, after)
    | none => if d = c then some ([], rest) else none

/-- The parts between the occurrences of `c`. -/
def pieces (c : Char) : List Char → List (List Char)
  | [] => [[]]
  | d :: rest =>
    if d = c then [] :: pieces c rest
    else
      match pieces c rest with
      | [] => [[d]]
      | first :: more => (d :: first) :: more

theorem cut?_eq_none_iff {c : Char} {s : List Char} : cut? c s = none ↔ c ∉ s := by
  induction s with
  | nil => simp [cut?]
  | cons d rest ih =>
    by_cases h : d = c
    · simp [cut?, h]
    · simp [cut?, h, ih, Ne.symm h]

theorem cut?_append {c : Char} {s : List Char} (t : List Char) (h : c ∉ s) :
    cut? c (s ++ c :: t) = some (s, t) := by
  induction s with
  | nil => simp [cut?]
  | cons d rest ih =>
    have hd : d ≠ c := fun e => h (by simp [e])
    have hr : c ∉ rest := fun e => h (by simp [e])
    simp [cut?, hd, ih hr]

theorem cutLast?_eq_none_iff {c : Char} {s : List Char} : cutLast? c s = none ↔ c ∉ s := by
  induction s with
  | nil => simp [cutLast?]
  | cons d rest ih =>
    cases h : cutLast? c rest with
    | some p =>
      have hmem : c ∈ rest := Decidable.not_not.mp fun hc => by simp [ih.mpr hc] at h
      simp [cutLast?, h, hmem]
    | none =>
      have hmem := ih.mp h
      by_cases hd : d = c
      · simp [cutLast?, h, hd]
      · simp [cutLast?, h, hd, hmem, Ne.symm hd]

theorem cutLast?_append {c : Char} (s : List Char) {t : List Char} (h : c ∉ t) :
    cutLast? c (s ++ c :: t) = some (s, t) := by
  induction s with
  | nil => simp [cutLast?, cutLast?_eq_none_iff.mpr h]
  | cons d rest ih => simp [cutLast?, ih]

theorem pieces_of_notMem {c : Char} {s : List Char} (h : c ∉ s) : pieces c s = [s] := by
  induction s with
  | nil => rfl
  | cons d rest ih =>
    have hd : d ≠ c := fun e => h (by simp [e])
    have hr : c ∉ rest := fun e => h (by simp [e])
    simp [pieces, hd, ih hr]

theorem pieces_append {c : Char} {s : List Char} (t : List Char) (h : c ∉ s) :
    pieces c (s ++ c :: t) = s :: pieces c t := by
  induction s with
  | nil => simp [pieces]
  | cons d rest ih =>
    have hd : d ≠ c := fun e => h (by simp [e])
    have hr : c ∉ rest := fun e => h (by simp [e])
    simp [pieces, hd, ih hr]

end PlotGrid.Text
