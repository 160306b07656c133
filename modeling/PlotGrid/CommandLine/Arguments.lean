import PlotGrid.Area.Basic
import PlotGrid.Count
import PlotGrid.Text.Cut
import PlotGrid.Text.Numeral

/-!
# Arguments

The words of a command line: options that hold for every command, the name of a command, and the
options of that command. An option is written `--name value` or `--name=value`. Two hyphens alone
end the words. The word `help` in place of a command asks for help, on one command if its name
follows.

- `ValueKind`, `OptionForm`: which values an option takes.
- `Place`: what was read in front of the next word.
- `Reading`, `Reading.step`: the words read so far, and one word more.
- `Invocation`, `Invocation.ofWords`: what a command line asks for.
-/

namespace PlotGrid.CommandLine

/-! ## Options -/

/-- What a value has to be. -/
inductive ValueKind
  | text
  /-- A text that is not empty. -/
  | path
  /-- The numeral of a coordinate. -/
  | coord
  /-- The numeral of a count. -/
  | count
  deriving Repr, DecidableEq

/-- The coordinate that a numeral stands for. -/
def coord? (word : String) : Option Int :=
  (Text.integer? word.toList).filter fun n => Coord.InRange n

/-- The count that a numeral stands for. -/
def count? (word : String) : Option Nat :=
  (Text.natural? word.toList).filter (· < Count.limit)

/-- A value of a kind. -/
def ValueKind.accepts : ValueKind → String → Bool
  | .text, _ => true
  | .path, word => !word.isEmpty
  | .coord, word => (coord? word).isSome
  | .count, word => (count? word).isSome

/-- The name of an option and the values that it takes. -/
structure OptionForm where
  name : String
  kind : ValueKind
  /-- The number of values. -/
  arity : Nat
  /-- A value may start with a hyphen. -/
  hyphens : Bool
  /-- The option may be given again. -/
  repeats : Bool
  deriving Repr, DecidableEq

namespace OptionForm

/-- An option with one value that does not start with a hyphen. -/
def single (name : String) (kind : ValueKind) : OptionForm :=
  ⟨name, kind, 1, false, false⟩

/-- An option with one coordinate. -/
def coord (name : String) : OptionForm :=
  ⟨name, .coord, 1, true, false⟩

/-- An option with the two coordinates of a chunk. Given again it is checked and has no effect. -/
def chunk (name : String) : OptionForm :=
  ⟨name, .coord, 2, true, true⟩

/-- An option without a value. -/
def switch (name : String) : OptionForm :=
  ⟨name, .text, 0, false, false⟩

/-- The options in front of the command. -/
def general : List OptionForm :=
  [single "assets" .path, single "blocks" .path, single "worlds" .path, single "log-file" .path]

/-- The options that say which world is meant. -/
def ofWorld : List OptionForm :=
  [single "world" .text, coord "min-height", coord "max-height"]

/-- The commands with their options. -/
def commands : List (String × List OptionForm) :=
  [("inspect", ofWorld),
   ("generate",
    ofWorld ++ [chunk "from", chunk "to", single "workers" .count, switch "populate"]),
   ("column", ofWorld ++ [coord "x", coord "z"])]

end OptionForm

/-! ## Reading words -/

/-- Why reading ends before the last word. -/
inductive Stop
  /-- The user asks for help. -/
  | help
  /-- The words do not fit. -/
  | refused
  deriving Repr, DecidableEq

/-- What was read in front of the next word. -/
inductive Place
  /-- Options that hold for every command. -/
  | front
  /-- A command. -/
  | command (name : String)
  /-- The word `help`, and the command that it is about. -/
  | help (topic : Option String)
  deriving Repr, DecidableEq

/-- The words read so far. -/
structure Reading where
  place : Place
  /-- The options given, each with its values, in order. -/
  given : List (String × List String)
  /-- The option that waits for more values, and those that it has. -/
  waiting : Option (OptionForm × List String)
  /-- No word may follow. -/
  isClosed : Bool
  deriving Repr, DecidableEq

namespace Reading

/-- No word is read. -/
def start : Reading :=
  ⟨.front, [], none, false⟩

/-- A word that is written like an option. A single hyphen is a value. -/
def isOptionLike (word : String) : Bool :=
  match word.toList with
  | '-' :: _ :: _ => true
  | _ => false

/-- The options that may come next. -/
def forms (r : Reading) : List OptionForm :=
  match r.place with
  | .front => OptionForm.general
  | .command name => (OptionForm.commands.lookup name).getD []
  | .help _ => []

/-- The values fit an option, which may be given. -/
def fits (r : Reading) (form : OptionForm) (values : List String) : Bool :=
  values.all form.kind.accepts && (form.repeats || !r.given.any fun g => g.1 == form.name)

/-- Complete an option with all of its values. -/
def complete (r : Reading) (form : OptionForm) (values : List String) : Except Stop Reading :=
  if r.fits form values then
    .ok { r with given := r.given ++ [(form.name, values)], waiting := none }
  else .error .refused

/-- Give the waiting option a value. -/
def value (r : Reading) (form : OptionForm) (held : List String) (word : String) :
    Except Stop Reading :=
  if !form.hyphens && isOptionLike word then .error .refused
  else if held.length + 1 = form.arity then r.complete form (held ++ [word])
  else .ok { r with waiting := some (form, held ++ [word]) }

/-- Read an option; the value after an equals sign is its only one. -/
def option (r : Reading) (name : String) (attached : Option String) : Except Stop Reading :=
  match r.forms.find? (fun form => form.name == name), attached with
  | none, attached => .error (if name = "help" ∧ attached = none then .help else .refused)
  | some form, none =>
    if form.arity = 0 then r.complete form [] else .ok { r with waiting := some (form, []) }
  | some form, some word =>
    if form.arity = 1 then r.complete form [word] else .error .refused

/-- Read a word that is no option: the name of the command, or the word `help`. -/
def plain (r : Reading) (word : String) : Except Stop Reading :=
  if r.place ≠ .front then .error .refused
  else if (OptionForm.commands.lookup word).isSome then .ok { r with place := .command word }
  else if word = "help" then .ok { r with place := .help none }
  else .error .refused

/-- Read a word that is written like an option. What follows the letter `h` does not count. -/
def hyphened (r : Reading) (word : String) : Except Stop Reading :=
  match word.toList with
  | ['-', '-'] => .ok { r with isClosed := true }
  | '-' :: '-' :: body =>
    match Text.cut? '=' body with
    | some (name, attached) => r.option (.ofList name) (some (.ofList attached))
    | none => r.option (.ofList body) none
  | '-' :: 'h' :: _ => .error .help
  | _ => .error .refused

/-- Read one word. Behind `help` only the name of one command may stand, or `help` again. -/
def step (r : Reading) (word : String) : Except Stop Reading :=
  match r.place, r.waiting with
  | .help (some _), _ => .error .refused
  | .help none, _ =>
    if word = "help" ∨ (OptionForm.commands.lookup word).isSome then
      .ok { r with place := .help (some word) }
    else .error .refused
  | _, some (form, held) => r.value form held word
  | _, none =>
    if r.isClosed then .error .refused
    else if isOptionLike word then r.hyphened word
    else r.plain word

/-- The values of the first occurrence of an option. -/
def values (r : Reading) (name : String) : List String :=
  (r.given.lookup name).getD []

/-- The first value of an option. -/
def value? (r : Reading) (name : String) : Option String :=
  (r.values name).head?

/-- The coordinate that an option gives. -/
def coord? (r : Reading) (name : String) : Option Int :=
  (r.value? name).bind CommandLine.coord?

/-- The chunk that an option gives. -/
def chunk? (r : Reading) (name : String) : Option (Int × Int) :=
  match (r.values name).mapM CommandLine.coord? with
  | some [cx, cz] => some (cx, cz)
  | _ => none

/-- The option was given. -/
def has (r : Reading) (name : String) : Bool :=
  r.given.any fun g => g.1 == name

end Reading

/-! ## Invocations -/

/-- What to do for a world. -/
inductive Command
  /-- Report the areas. -/
  | inspect
  /-- Generate the chunks of a rectangle and count what they hold. -/
  | generate (first last : Int × Int) (workers : Nat) (populate : Bool)
  /-- Show the voxels of one column. -/
  | column (x z : Int)
  deriving Repr, DecidableEq

/-- What a command line asks for. -/
structure Invocation where
  assets : Option String
  blocks : Option String
  worlds : Option String
  logFile : Option String
  world : World
  command : Command
  deriving Repr, DecidableEq

namespace Invocation

/-- The world that a command is for. -/
def worldOf (r : Reading) : World where
  name := (r.value? "world").getD "plots"
  minHeight := (r.coord? "min-height").getD (-64)
  maxHeight := (r.coord? "max-height").getD 319

/-- The command with its own options. -/
def commandOf? (r : Reading) : Option Command :=
  match r.place with
  | .command "inspect" => some .inspect
  | .command "generate" =>
    some (.generate ((r.chunk? "from").getD (0, 0)) ((r.chunk? "to").getD (3, 3))
      (((r.value? "workers").bind count?).getD 4) (r.has "populate"))
  | .command "column" => do return .column (← r.coord? "x") (← r.coord? "z")
  | _ => none

/-- What the words ask for, once all are read. -/
def ofReading (r : Reading) : Except Stop Invocation :=
  match r.place, r.waiting, commandOf? r with
  | .help _, _, _ => .error .help
  | _, none, some command =>
    .ok {
      assets := r.value? "assets"
      blocks := r.value? "blocks"
      worlds := r.value? "worlds"
      logFile := r.value? "log-file"
      world := worldOf r
      command }
  | _, _, _ => .error .refused

/-- What a command line asks for. -/
def ofWords (words : List String) : Except Stop Invocation := do
  ofReading (← words.foldlM Reading.step Reading.start)

end Invocation

end PlotGrid.CommandLine
