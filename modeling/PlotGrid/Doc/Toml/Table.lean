import PlotGrid.Doc.Value

/-!
# Tables of TOML

A text of the format fills one table, statement by statement. What a statement may add depends on
how the tables on its path came to be: named by a header, implied by a longer header, or by a
dotted key.

- `Toml.Table`, `Toml.Node`: a table while it is filled.
- `Toml.Table.assign?`, `Toml.Table.open?`, `Toml.Table.append?`: the three statements.
- `Toml.Table.toDoc`: the finished table.
-/

namespace PlotGrid.Toml

/-- How a table came to be. -/
inductive Origin
  /-- By its own header, or as an inline table. -/
  | named
  /-- By the header of a table inside it. -/
  | implied
  /-- By a dotted key. -/
  | dotted
  deriving DecidableEq

mutual

/-- What a key stands for. -/
inductive Node
  | value (v : Doc)
  | table (t : Table)
  /-- Tables under one header, the last one first. -/
  | tables (ts : List Table)

/-- A table with its entries, the last one first. -/
inductive Table
  | mk (origin : Origin) (entries : List (String × Node))

end

namespace Table

/-- How the table came to be. -/
def origin : Table → Origin
  | .mk o _ => o

/-- The entries, the last one first. -/
def entries : Table → List (String × Node)
  | .mk _ es => es

/-- A table without entries. -/
def fresh (o : Origin) : Table :=
  .mk o []

/-- What a key stands for. -/
def get? (t : Table) (key : String) : Option Node :=
  t.entries.lookup key

/-- Add an entry for a new key. -/
def add (t : Table) (key : String) (n : Node) : Table :=
  .mk t.origin ((key, n) :: t.entries)

/-- Replace the entry of a key. -/
def replace (t : Table) (key : String) (n : Node) : Table :=
  .mk t.origin (t.entries.map fun e => if e.1 == key then (key, n) else e)

/-- Change the table at the end of a path. Tables that are missing on the way come to be with the
given origin; a dotted key does not enter a table that has a header. -/
def modify? (made : Origin) (f : Table → Option Table) : List String → Table → Option Table
  | [], t => f t
  | key :: path, t =>
    match t.get? key with
    | none => (modify? made f path (fresh made)).map fun c => t.add key (.table c)
    | some (.value _) => none
    | some (.table c) =>
      if made = .dotted ∧ c.origin = .named then none
      else (modify? made f path c).map fun c => t.replace key (.table c)
    | some (.tables (last :: others)) =>
      (modify? made f path last).map fun c => t.replace key (.tables (c :: others))
    | some (.tables []) => none

/-- Enter a value under a key, which has to be new. After a dotted key the table has to come from
dotted keys too. -/
def enter? (key : String) (v : Doc) (isDotted : Bool) (t : Table) : Option Table :=
  if isDotted ∧ t.origin ≠ .dotted then none
  else if (t.get? key).isSome then none
  else some (t.add key (.value v))

/-- The statement `path.key = v`, read inside this table. -/
def assign? (path : List String) (key : String) (v : Doc) (t : Table) : Option Table :=
  modify? .dotted (enter? key v (!path.isEmpty)) path t

/-- The header of a table under `key`: a new one, or one that was only implied. -/
def name? (key : String) (t : Table) : Option Table :=
  match t.get? key with
  | none => some (t.add key (.table (fresh .named)))
  | some (.table (.mk .implied es)) => some (t.replace key (.table (.mk .named es)))
  | some _ => none

/-- The header of one more table under `key`. -/
def extend? (key : String) (t : Table) : Option Table :=
  match t.get? key with
  | none => some (t.add key (.tables [fresh .named]))
  | some (.tables ts) => some (t.replace key (.tables (fresh .named :: ts)))
  | some _ => none

/-- The header `[path.key]`. -/
def open? (path : List String) (key : String) (t : Table) : Option Table :=
  modify? .implied (name? key) path t

/-- The header `[[path.key]]`. -/
def append? (path : List String) (key : String) (t : Table) : Option Table :=
  modify? .implied (extend? key) path t

end Table

mutual

/-- The finished value of a key. -/
def Node.toDoc : Node → Doc
  | .value v => v
  | .table t => t.toDoc
  | .tables ts => .list (Table.docs ts).reverse

/-- The finished table. -/
def Table.toDoc : Table → Doc
  | .mk _ es => .table (Table.docEntries es).reverse

/-- The finished tables of a list. -/
def Table.docs : List Table → List Doc
  | [] => []
  | t :: ts => t.toDoc :: Table.docs ts

/-- The finished entries of a list. -/
def Table.docEntries : List (String × Node) → List (String × Doc)
  | [] => []
  | (key, n) :: es => (key, n.toDoc) :: Table.docEntries es

end

end PlotGrid.Toml
