/-!
# Documents

The values that a configuration text can hold, whatever the format it is written in, and how
settings are taken out of them.

- `Doc`: a value.
- `Surplus`: what happens to a list that is longer than the record that it stands for.
- `Doc.record?`: a record, written as a table or as the list of its fields in order.
- `Doc.bool?`, `Doc.text?`, `Doc.coord?`, `Doc.word?`, `Doc.list?`, `Doc.table?`: the typed values.
- `Fields.required`, `Fields.withDefault`, `Fields.optional`: the fields of a record.
-/

namespace PlotGrid

/-- A value of a configuration text. -/
inductive Doc
  | null
  | bool (b : Bool)
  | int (n : Int)
  /-- A number that is not written as an integer. -/
  | real
  | text (s : String)
  /-- A date or a time, as it is written. -/
  | moment (s : String)
  | list (items : List Doc)
  | table (entries : List (String × Doc))
  deriving Inhabited

/-- What happens to a list that is longer than the record that it stands for. -/
inductive Surplus
  | refused
  | ignored
  deriving DecidableEq

/-- The fields of a record by name. -/
abbrev Fields := String → Option Doc

namespace Doc

/-- A truth value. -/
def bool? : Doc → Option Bool
  | .bool b => some b
  | _ => none

/-- A text. -/
def text? : Doc → Option String
  | .text s => some s
  | _ => none

/-- An integer between two bounds. -/
def intWithin? (lo hi : Int) : Doc → Option Int
  | .int n => if lo ≤ n ∧ n ≤ hi then some n else none
  | _ => none

/-- An integer of 32 bits with sign. -/
def coord? (d : Doc) : Option Int :=
  d.intWithin? (-2147483648) 2147483647

/-- An integer of 16 bits without sign. -/
def word? (d : Doc) : Option UInt16 :=
  (d.intWithin? 0 65535).map fun n => .ofNat n.toNat

/-- A list of values, each read in the same way. -/
def list? {α : Type} (item : Doc → Option α) : Doc → Option (List α)
  | .list items => items.mapM item
  | _ => none

/-- A table of values, each read in the same way. -/
def table? {α : Type} (item : Doc → Option α) : Doc → Option (List (String × α))
  | .table entries => entries.mapM fun e => (item e.2).map fun v => (e.1, v)
  | _ => none

/-- A record with the named fields. A table holds them by name, and other entries do not matter;
a list holds them in order; a moment holds none of them. -/
def record? (surplus : Surplus) (names : List String) : Doc → Option Fields
  | .table entries => some fun name => entries.lookup name
  | .list items =>
    if surplus = .refused ∧ names.length < items.length then none
    else some fun name => (names.zip items).lookup name
  | .moment _ => some fun _ => none
  | _ => none

/-- A pair of values, written as a list. -/
def pair? {α : Type} (surplus : Surplus) (item : Doc → Option α) : Doc → Option (α × α)
  | .list [a, b] => do return (← item a, ← item b)
  | .list (a :: b :: _ :: _) =>
    if surplus = .refused then none else do return (← item a, ← item b)
  | _ => none

end Doc

namespace Fields

variable {α : Type}

/-- A field that has to be there. -/
def required (f : Fields) (name : String) (item : Doc → Option α) : Option α :=
  (f name).bind item

/-- A field with a default. -/
def withDefault (f : Fields) (name : String) (item : Doc → Option α) (default : α) : Option α :=
  match f name with
  | some d => item d
  | none => some default

/-- A field that may be absent or null. -/
def optional (f : Fields) (name : String) (item : Doc → Option α) : Option (Option α) :=
  match f name with
  | none => some none
  | some .null => some none
  | some d => (item d).map some

end Fields

end PlotGrid
