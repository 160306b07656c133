import PlotGrid.Doc.Toml.Scalar
import PlotGrid.Doc.Toml.Table

/-!
# Texts of TOML

A text is a sequence of statements, one a line: a header or an assignment. Reading is scanning the
statements and entering one after the other into a table.

- `Toml.value`: a value, at most `nesting` deep.
- `Toml.Statement`, `Toml.statements?`: the lines of a text.
- `Toml.read?`: the document of a text.
-/

namespace PlotGrid.Toml

/-- How deep values may be nested, and how long a dotted key may be. -/
def nesting : Nat := 79

/-! ## Keys -/

/-- Spaces and tabs. -/
def spaces : Scan Unit := do
  let _ ← Scan.many isSpace

/-- A character of an unquoted key. -/
def isKeyChar (c : Char) : Bool :=
  isDigit c || ('a' ≤ c && c ≤ 'z') || ('A' ≤ c && c ≤ 'Z') || c == '_' || c == '-'

/-- One part of a key, with the spaces around it. -/
def simpleKey : Scan String := do
  spaces
  let key ← (do
    match ← Scan.peek with
    | some '"' => lineString
    | some '\'' => lineString
    | _ =>
      let word ← Scan.many isKeyChar
      if word.isEmpty then failure else return .ofList word)
  spaces
  return key

/-- A key: the names before the last one, and the last one. -/
def key : Scan (List String × String) := do
  let names ← Scan.separated simpleKey (Scan.skip? '.')
  match names.getLast? with
  | some last => if names.length ≤ nesting then return (names.dropLast, last) else failure
  | none => failure

/-! ## Values -/

/-- A comment up to the end of its line. -/
def comment : Scan Unit := do
  if ← Scan.skip? '#' then
    let _ ← Scan.many isPlain

/-- The end of a line. -/
def lineEnd : Scan Unit :=
  Scan.char '\n' <|> Scan.word ['\r', '\n']

/-- Spaces, comments and line ends, in a text of bounded length. -/
def gapUpTo : Nat → Scan Unit
  | 0 => pure ()
  | n + 1 => do
    spaces
    match ← Scan.peek with
    | some '#' => comment; gapUpTo n
    | some '\n' => lineEnd; gapUpTo n
    | some '\r' => lineEnd; gapUpTo n
    | _ => pure ()

/-- Spaces, comments and line ends. -/
def gap : Scan Unit := fun s =>
  gapUpTo (s.length + 1) s

/-- The elements of an array after its opening bracket, in a text of bounded length. -/
def elementsUpTo (item : Scan Doc) : Nat → Scan (List Doc)
  | 0 => failure
  | n + 1 => do
    gap
    if ← Scan.skip? ']' then return []
    let v ← item
    gap
    if ← Scan.skip? ',' then return v :: (← elementsUpTo item n)
    else
      Scan.char ']'
      return [v]

/-- An array after its opening bracket. -/
def elements (item : Scan Doc) : Scan Doc := fun s =>
  (elementsUpTo item (s.length + 1) s).map fun r => (.list r.1, r.2)

/-- One assignment `key = value`, with the spaces around it. -/
def assignment (item : Scan Doc) : Scan (List String × String × Doc) := do
  let (path, last) ← key
  Scan.char '='
  spaces
  let v ← item
  spaces
  return (path, last, v)

/-- An inline table after its opening brace. -/
def inlineTable (item : Scan Doc) : Scan Doc := do
  spaces
  if ← Scan.skip? '}' then return .table []
  let pairs ← Scan.separated (assignment item) (Scan.skip? ',')
  Scan.char '}'
  let t ← pairs.foldlM (fun (t : Table) p => t.assign? p.1 p.2.1 p.2.2) (.fresh .named)
  return t.toDoc

/-- A value whose arrays and inline tables are nested at most to a depth. -/
def value : Nat → Scan Doc
  | 0 => do
    match ← Scan.peek with
    | some '"' => return .text (← string)
    | some '\'' => return .text (← string)
    | _ => bare
  | depth + 1 => do
    match ← Scan.peek with
    | some '"' => return .text (← string)
    | some '\'' => return .text (← string)
    | some '[' =>
      Scan.char '['
      elements (value depth)
    | some '{' =>
      Scan.char '{'
      inlineTable (value depth)
    | _ => bare

/-! ## Statements -/

/-- A line of a text. -/
inductive Statement
  /-- The header `[path.key]`. -/
  | table (path : List String) (key : String)
  /-- The header `[[path.key]]`. -/
  | element (path : List String) (key : String)
  /-- The assignment `path.key = v`. -/
  | assign (path : List String) (key : String) (v : Doc)

/-- The statement of a line, if it has one. -/
def statement : Scan (Option Statement) := do
  match ← Scan.peek with
  | none => return none
  | some '\n' => return none
  | some '\r' => return none
  | some '#' => return none
  | some '[' =>
    Scan.char '['
    if ← Scan.skip? '[' then
      let (path, last) ← key
      Scan.word [']', ']']
      return some (.element path last)
    else
      let (path, last) ← key
      Scan.char ']'
      return some (.table path last)
  | some _ =>
    let (path, last, v) ← assignment (value nesting)
    return some (.assign path last v)

/-- The statements of a text of bounded length. -/
def statementsUpTo : Nat → Scan (List Statement)
  | 0 => failure
  | n + 1 => do
    spaces
    let line ← statement
    spaces
    comment
    if (← get).isEmpty then return line.toList
    lineEnd
    return line.toList ++ (← statementsUpTo n)

/-- The statements of a text. A byte order mark in front is skipped. -/
def statements? (text : String) : Option (List Statement) :=
  let s := text.toList
  let s := if s.head? = some '\uFEFF' then s.drop 1 else s
  (statementsUpTo (s.length + 1) s).map (·.1)

/-! ## Documents -/

/-- The table so far and the path of the table that assignments go to. -/
abbrev Progress := Table × List String

/-- Enter one statement. -/
def step (p : Progress) : Statement → Option Progress
  | .table path key => (p.1.open? path key).map fun t => (t, path ++ [key])
  | .element path key => (p.1.append? path key).map fun t => (t, path ++ [key])
  | .assign path key v =>
    (p.1.modify? .implied (fun t => t.assign? path key v) p.2).map fun t => (t, p.2)

/-- The document of a text, or nothing if the text breaks the rules of the format. -/
def read? (text : String) : Option Doc := do
  let lines ← statements? text
  let (t, _) ← lines.foldlM step ((.fresh .named, []) : Progress)
  return t.toDoc

end PlotGrid.Toml
