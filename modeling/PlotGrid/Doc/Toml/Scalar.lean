import PlotGrid.Doc.Toml.Scan
import PlotGrid.Doc.Value

/-!
# Scalars of TOML

Strings in their four forms, numbers, truth values, dates and times, as version 1.0 of the format
defines them.

- `Toml.string`: a string of any form.
- `Toml.ofToken?`: the value of an unquoted word.
-/

namespace PlotGrid.Toml

/-! ## Characters -/

/-- A space or a tab. -/
def isSpace (c : Char) : Bool :=
  c == ' ' || c == '\t'

/-- A character that may stand in a comment or a string: a tab or no control character. -/
def isPlain (c : Char) : Bool :=
  c == '\t' || (0x20 ≤ c.toNat && c.toNat != 0x7f)

/-- A decimal digit. -/
def isDigit (c : Char) : Bool :=
  '0' ≤ c && c ≤ '9'

/-- The value of a digit up to base 16. -/
def digitValue (c : Char) : Nat :=
  if isDigit c then c.toNat - 48
  else if 'a' ≤ c && c ≤ 'f' then c.toNat - 87
  else if 'A' ≤ c && c ≤ 'F' then c.toNat - 55
  else 16

/-- The number that digits write in a base. -/
def number (base : Nat) (digits : List Char) : Nat :=
  digits.foldl (fun n c => base * n + digitValue c) 0

/-! ## Strings -/

/-- The character that a number of hexadecimal digits names. -/
def codePoint? (digits : List Char) : Option Char :=
  let n := number 16 digits
  if digits.all (fun c => digitValue c < 16) ∧ n.isValidChar then some (.ofNat n) else none

/-- The character after a backslash. -/
def escape? : Char → Option Char
  | 'b' => some '\x08'
  | 't' => some '\t'
  | 'n' => some '\n'
  | 'f' => some '\x0c'
  | 'r' => some '\r'
  | '"' => some '"'
  | '\\' => some '\\'
  | _ => none

/-- Put a character in front of the content of a string. -/
def push (c : Option Char) (s : Option (List Char × List Char)) :
    Option (List Char × List Char) := do
  let c ← c
  let (content, rest) ← s
  return (c :: content, rest)

/-- The content of a string in double quotes and what follows it. -/
def basicBody : List Char → Option (List Char × List Char)
  | [] => none
  | '"' :: rest => some ([], rest)
  | '\\' :: 'u' :: a :: b :: c :: d :: rest => push (codePoint? [a, b, c, d]) (basicBody rest)
  | '\\' :: 'U' :: a :: b :: c :: d :: e :: f :: g :: h :: rest =>
    push (codePoint? [a, b, c, d, e, f, g, h]) (basicBody rest)
  | '\\' :: c :: rest => push (escape? c) (basicBody rest)
  | c :: rest => push (if isPlain c then some c else none) (basicBody rest)

/-- The content of a string in single quotes and what follows it. -/
def literalBody : List Char → Option (List Char × List Char)
  | [] => none
  | '\'' :: rest => some ([], rest)
  | c :: rest => push (if isPlain c then some c else none) (literalBody rest)

/-- Where a text of several lines stands with respect to a backslash at the end of a line. -/
inductive Joining
  /-- No such backslash. -/
  | none
  /-- After the backslash, before its line ends. -/
  | open
  /-- After the end of its line: blanks and further line ends are dropped. -/
  | dropping

/-- The content of a string of several lines in double quotes and what follows it. Up to two
quotes may stand before the closing three. -/
def basicLines (j : Joining) : List Char → Option (List Char × List Char)
  | [] => .none
  | c :: rest =>
    match j with
    | .open =>
      if isSpace c then basicLines .open rest
      else if c = '\n' then basicLines .dropping rest
      else if c = '\r' ∧ rest.head? = some '\n' then basicLines .open rest
      else .none
    | j =>
      if (match j with | .dropping => true | _ => false) &&
          (isSpace c || c == '\n' || (c == '\r' && rest.head? == some '\n')) then
        basicLines .dropping rest
      else
        match c, rest with
        | '"', '"' :: '"' :: '"' :: '"' :: after => some (['"', '"'], after)
        | '"', '"' :: '"' :: '"' :: after => some (['"'], after)
        | '"', '"' :: '"' :: after => some ([], after)
        | '"', rest => push (some '"') (basicLines .none rest)
        | '\n', rest => push (some '\n') (basicLines .none rest)
        | '\r', '\n' :: rest => push (some '\n') (basicLines .none rest)
        | '\\', 'u' :: a :: b :: c :: d :: rest =>
          push (codePoint? [a, b, c, d]) (basicLines .none rest)
        | '\\', 'U' :: a :: b :: c :: d :: e :: f :: g :: h :: rest =>
          push (codePoint? [a, b, c, d, e, f, g, h]) (basicLines .none rest)
        | '\\', e :: rest =>
          if isSpace e || e == '\n' || e == '\r' then basicLines .open (e :: rest)
          else push (escape? e) (basicLines .none rest)
        | c, rest => push (if isPlain c then some c else .none) (basicLines .none rest)

/-- The content of a string of several lines in single quotes and what follows it. -/
def literalLines : List Char → Option (List Char × List Char)
  | [] => none
  | '\'' :: '\'' :: '\'' :: '\'' :: '\'' :: rest => some (['\'', '\''], rest)
  | '\'' :: '\'' :: '\'' :: '\'' :: rest => some (['\''], rest)
  | '\'' :: '\'' :: '\'' :: rest => some ([], rest)
  | '\n' :: rest => push (some '\n') (literalLines rest)
  | '\r' :: '\n' :: rest => push (some '\n') (literalLines rest)
  | c :: rest => push (if isPlain c then some c else none) (literalLines rest)

/-- Drop one line end. -/
def dropLineEnd : List Char → List Char
  | '\n' :: rest => rest
  | '\r' :: '\n' :: rest => rest
  | s => s

/-- A string on one line. -/
def lineString : Scan String := fun s =>
  match s with
  | '"' :: rest => (basicBody rest).map fun r => (.ofList r.1, r.2)
  | '\'' :: rest => (literalBody rest).map fun r => (.ofList r.1, r.2)
  | _ => none

/-- A string of any form. -/
def string : Scan String := fun s =>
  match s with
  | '"' :: '"' :: '"' :: rest =>
    (basicLines .none (dropLineEnd rest)).map fun r => (.ofList r.1, r.2)
  | '\'' :: '\'' :: '\'' :: rest =>
    (literalLines (dropLineEnd rest)).map fun r => (.ofList r.1, r.2)
  | _ => lineString s

/-! ## Numbers -/

/-- Digits that may be grouped by single underscores between them, without the underscores. -/
def grouped? (p : Char → Bool) : List Char → Option (List Char)
  | [] => none
  | [c] => if p c then some [c] else none
  | c :: '_' :: rest => if p c then (grouped? p rest).map (c :: ·) else none
  | c :: rest => if p c then (grouped? p rest).map (c :: ·) else none

/-- Split off a sign; the first part tells whether it is a minus. -/
def sign : List Char → Bool × List Char
  | '-' :: rest => (true, rest)
  | '+' :: rest => (false, rest)
  | s => (false, s)

/-- A decimal numeral without sign: no leading zero before another digit. -/
def decimal? (s : List Char) : Option Nat :=
  match s with
  | ['0'] => some 0
  | '0' :: _ => none
  | _ => (grouped? isDigit s).map (number 10)

/-- An integer of 64 bits with sign. -/
def integer? (s : List Char) : Option Int :=
  let radix (base : Nat) (digits : List Char) : Option Int :=
    ((grouped? (fun c => digitValue c < base) digits).map fun d => (number base d : Int)).filter
      (· < 9223372036854775808)
  match s with
  | '0' :: 'x' :: digits => radix 16 digits
  | '0' :: 'o' :: digits => radix 8 digits
  | '0' :: 'b' :: digits => radix 2 digits
  | _ =>
    let (minus, digits) := sign s
    ((decimal? digits).map fun n => if minus then -(n : Int) else n).filter fun n =>
      -9223372036854775808 ≤ n ∧ n < 9223372036854775808

/-- A number `digits * 10 ^ exponent` that is no integer. -/
structure Decimal where
  digits : List Char
  exponent : Int

/-- The number that an exponent after its mark stands for. -/
def exponent? (s : List Char) : Option Int :=
  let (minus, digits) := sign s
  (grouped? isDigit digits).map fun d =>
    if minus then -(number 10 d : Int) else number 10 d

/-- The digits and underscores in front, and what follows them. -/
def digitRun (s : List Char) : List Char × List Char :=
  s.span fun c => isDigit c || c == '_'

/-- The exponent in a text that is empty or starts with its mark. -/
def exponentPart? : List Char → Option Int
  | [] => some 0
  | c :: rest => if c == 'e' || c == 'E' then exponent? rest else none

/-- A numeral with a point, an exponent or both, without its sign. -/
def fractional? (s : List Char) : Option Decimal := do
  let (whole, rest) := digitRun s
  let _ ← decimal? whole
  let whole ← grouped? isDigit whole
  match rest with
  | [] => none
  | '.' :: rest =>
    let (fraction, rest) := digitRun rest
    let fraction ← grouped? isDigit fraction
    return ⟨whole ++ fraction, (← exponentPart? rest) - fraction.length⟩
  | rest => return ⟨whole, ← exponentPart? rest⟩

/-- The least number that a double rounds to infinity. -/
def infiniteFrom : Nat :=
  1 <<< 1024 - 1 <<< 970

/-- The number of digits of `infiniteFrom`. -/
def infiniteDigits : Int := 309

/-- A number that a double rounds to infinity. -/
def Decimal.isInfinite (d : Decimal) : Bool :=
  let digits := d.digits.dropWhile (· == '0')
  let size := (digits.length : Int) + d.exponent
  if digits = [] ∨ size < infiniteDigits then false
  else if infiniteDigits < size then true
  else if 0 ≤ d.exponent then infiniteFrom ≤ number 10 digits * Nat.pow 10 d.exponent.toNat
  else infiniteFrom * Nat.pow 10 (-d.exponent).toNat ≤ number 10 digits

/-- A number that is no integer: one with a point or an exponent, which must not come out as
positive infinity, or the name of a special one. -/
def isReal (s : List Char) : Bool :=
  let (minus, body) := sign s
  body == "inf".toList || body == "nan".toList ||
    match fractional? body with
    | some d => minus || !d.isInfinite
    | none => false

/-! ## Dates and times -/

/-- The number of days of a month. -/
def daysOf (year month : Nat) : Nat :=
  if month = 2 then
    if year % 4 = 0 ∧ (year % 100 ≠ 0 ∨ year % 400 = 0) then 29 else 28
  else if month = 4 ∨ month = 6 ∨ month = 9 ∨ month = 11 then 30
  else 31

/-- A date `YYYY-MM-DD` and what follows it. -/
def date? : List Char → Option (List Char)
  | y₁ :: y₂ :: y₃ :: y₄ :: '-' :: m₁ :: m₂ :: '-' :: d₁ :: d₂ :: rest =>
    let year := number 10 [y₁, y₂, y₃, y₄]
    let month := number 10 [m₁, m₂]
    let day := number 10 [d₁, d₂]
    if [y₁, y₂, y₃, y₄, m₁, m₂, d₁, d₂].all isDigit ∧ 1 ≤ month ∧ month ≤ 12 ∧ 1 ≤ day ∧
        day ≤ daysOf year month then some rest
    else none
  | _ => none

/-- Hours and minutes `HH:MM` and what follows them. -/
def clock? : List Char → Option (List Char)
  | h₁ :: h₂ :: ':' :: m₁ :: m₂ :: rest =>
    if [h₁, h₂, m₁, m₂].all isDigit ∧ number 10 [h₁, h₂] < 24 ∧ number 10 [m₁, m₂] < 60 then
      some rest
    else none
  | _ => none

/-- A time `HH:MM:SS`, perhaps with a fraction of the second, and what follows it. -/
def time? (s : List Char) : Option (List Char) :=
  match clock? s with
  | some (':' :: s₁ :: s₂ :: rest) =>
    if [s₁, s₂].all isDigit ∧ number 10 [s₁, s₂] ≤ 60 then
      match rest with
      | '.' :: after =>
        if (after.head?.any isDigit) then some (after.dropWhile isDigit) else none
      | _ => some rest
    else none
  | _ => none

/-- The offset from universal time at the end of a time, or nothing. -/
def isOffset : List Char → Bool
  | [] => true
  | ['Z'] => true
  | ['z'] => true
  | '+' :: rest => clock? rest == some []
  | '-' :: rest => clock? rest == some []
  | _ => false

/-- A whole date. -/
def isDate (s : List Char) : Bool :=
  date? s == some []

/-- A time that may carry an offset. -/
def isTimeOfDate (s : List Char) : Bool :=
  (time? s).any isOffset

/-- A date with a time, a date or a time. -/
def isMoment (s : List Char) : Bool :=
  time? s == some [] ||
    match date? s with
    | some [] => true
    | some (c :: rest) => (c == 'T' || c == 't') && isTimeOfDate rest
    | none => false

/-! ## Words -/

/-- A character of an unquoted value. -/
def isTokenChar (c : Char) : Bool :=
  isDigit c || ('a' ≤ c && c ≤ 'z') || ('A' ≤ c && c ≤ 'Z') || c == '_' || c == '+' || c == '-' ||
    c == '.' || c == ':'

/-- The value of an unquoted word. -/
def ofToken? (s : List Char) : Option Doc :=
  if s = "true".toList then some (.bool true)
  else if s = "false".toList then some (.bool false)
  else
    match integer? s with
    | some n => some (.int n)
    | none =>
      if isReal s then some .real
      else if isMoment s then some (.moment (.ofList s))
      else none

/-- An unquoted value. A date may be followed by a time after one space. -/
def bare : Scan Doc := do
  let token ← Scan.many isTokenChar
  let rest ← get
  match rest with
  | ' ' :: c :: _ =>
    if isDate token ∧ isDigit c then
      Scan.char ' '
      let time ← Scan.many isTokenChar
      if isTimeOfDate time then return .moment (.ofList (token ++ ' ' :: time)) else failure
    else ofToken? token
  | _ => ofToken? token

end PlotGrid.Toml
