import PlotGrid.Text.Hidden

/-!
# Paths

Paths are texts with a slash between the names. They are joined and shown as they are written,
without normalization.

- `Path.join`: a path below another.
- `Path.quoted`: a path as messages quote it.
- `Path.limit`, `Path.nameLimit`: how long a path and a name in it can be.
-/

namespace PlotGrid.Path

/-- A path that starts at the root. -/
def isAbsolute (p : String) : Bool :=
  p.toList.head? == some '/'

/-- The path `q` below `p`. An absolute `q` stands for itself; a slash comes between the two unless
`p` is empty or ends in one. -/
def join (p q : String) : String :=
  if isAbsolute q then q
  else if p.isEmpty ∨ p.toList.getLast? = some '/' then p ++ q
  else p ++ "/" ++ q

/-- The names between the slashes; a slash in front, at the end or next to another one gives an
empty name. -/
def names (p : String) : List String :=
  p.splitOn "/"

/-- A path has fewer bytes than this. -/
def limit : Nat := 4096

/-- A name has at most this many bytes. -/
def nameLimit : Nat := 255

/-- A name that no directory can hold. -/
def isLongName (name : String) : Bool :=
  nameLimit < name.utf8ByteSize

/-- The digits of a number in base 16. -/
def hex (n : Nat) : String :=
  .ofList (Nat.toDigits 16 n)

/-- A character between quotation marks: the marks themselves, backslashes and hidden characters are
escaped. -/
def quotedChar (c : Char) : String :=
  if c = '"' then "\\\""
  else if c = '\\' then "\\\\"
  else if c = '\n' then "\\n"
  else if c = '\r' then "\\r"
  else if c = '\t' then "\\t"
  else if c.toNat = 0 then "\\0"
  else if Text.isHidden c then "\\u\x7b" ++ hex c.toNat ++ "\x7d"
  else c.toString

/-- A path in quotation marks. -/
def quoted (p : String) : String :=
  "\"" ++ String.join (p.toList.map quotedChar) ++ "\""

end PlotGrid.Path
