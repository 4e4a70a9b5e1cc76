import TransitionMap.CommandLine.Argument

/-!
# What has been given

`Given` collects the values of the arguments behind a command. Nothing but `-v` may be given twice.
An option takes its value from the same word or from the next one; the value is looked at when the
next argument begins, so of two faults the one in the later word may come first.
-/

namespace TransitionMap.CommandLine

inductive ColorChoice
  | auto
  | always
  | never
  deriving DecidableEq, Repr

structure Given where
  pattern : Option String := none
  dfa : Option String := none
  unanchored : Bool := false
  maxStates : Option Nat := none
  dev : Option String := none
  map : Option String := none
  out : Option String := none
  dryRun : Bool := false
  strict : Bool := false
  image : Option String := none
  color : Option ColorChoice := none
  config : Option String := none
  verbosity : Nat := 0
  quiet : Bool := false
  deriving DecidableEq, Repr

/-! ## Values -/

/-- A path is any text but the empty one. -/
def path? (text : String) : Except UsageError String :=
  if text = "" then .error .invalidValue else .ok text

def colorChoice? : String → Except UsageError ColorChoice
  | "auto" => .ok .auto
  | "always" => .ok .always
  | "never" => .ok .never
  | _ => .error .invalidValue

/-- A number of 64 bits in decimal digits, with a plus sign or not. -/
def count? (text : String) : Except UsageError Nat :=
  let digits : List Char := match text.toList with
    | '+' :: rest => rest
    | cs => cs
  let n : Nat := digits.foldl (fun n c => n * 10 + (c.toNat - 48)) 0
  if digits ≠ [] ∧ digits.all Char.isDigit = true ∧ n < UInt64.size then .ok n
  else .error .malformedNumber

namespace Given

/-- The value of an argument that has not been given before. -/
def once {α : Type} (before : Option α) (value : Except UsageError α) :
    Except UsageError (Option α) :=
  if before.isSome then .error .conflict else value.map some

/-- Takes an option with its value. -/
def put (g : Given) (a : Argument) (text : String) : Except UsageError Given :=
  match a with
  | .pattern => (once g.pattern (.ok text)).map fun pattern => { g with pattern }
  | .dfa => (once g.dfa (path? text)).map fun dfa => { g with dfa }
  | .maxStates => (once g.maxStates (count? text)).map fun maxStates => { g with maxStates }
  | .dev => (once g.dev (.ok text)).map fun dev => { g with dev }
  | .map => (once g.map (path? text)).map fun map => { g with map }
  | .out => (once g.out (path? text)).map fun out => { g with out }
  | .image => (once g.image (path? text)).map fun image => { g with image }
  | .color => (once g.color (colorChoice? text)).map fun color => { g with color }
  | .config => (once g.config (path? text)).map fun config => { g with config }
  | _ => .error .unexpectedValue

/-- Takes a flag. -/
def flag (g : Given) (a : Argument) : Except UsageError Given :=
  match a with
  | .unanchored => if g.unanchored then .error .conflict else .ok { g with unanchored := true }
  | .dryRun => if g.dryRun then .error .conflict else .ok { g with dryRun := true }
  | .strict => if g.strict then .error .conflict else .ok { g with strict := true }
  | .quiet => if g.quiet then .error .conflict else .ok { g with quiet := true }
  | .verbose => .ok { g with verbosity := min (g.verbosity + 1) 255 }
  | .help => .error .help
  | _ => .error .invalidValue

end Given

/-! ## Words -/

/-- What has been given, and the argument given last if it takes a value that is still to come or
still to be looked at. -/
structure Progress where
  given : Given := {}
  pending : Option (Argument × Option String) := none
  deriving DecidableEq, Repr

namespace Progress

/-- Looks at the value of the argument given last. -/
def settle (p : Progress) : Except UsageError Given :=
  match p.pending with
  | none => .ok p.given
  | some (_, none) => .error .invalidValue
  | some (a, some text) => p.given.put a text

/-- Takes an argument, with the value from its own word if there is one. -/
def take (p : Progress) (a : Argument) (text : Option String) : Except UsageError Progress := do
  let given ← p.settle
  match a.takesValue, text with
  | true, some text => return { given := ← given.put a text }
  | true, none => return { given, pending := some (a, none) }
  | false, _ => return { given := ← given.flag a }

/-- A word that begins with two hyphens, without them. -/
def long (v : Verb) (p : Progress) (word : List Char) : Except UsageError Progress :=
  let text := match word.dropWhile (· ≠ '=') with
    | _ :: rest => some (String.ofList rest)
    | [] => none
  match v.long? (String.ofList (word.takeWhile (· ≠ '='))) with
  | none => .error .unknownArgument
  | some a => if !a.takesValue && text.isSome then .error .unexpectedValue else p.take a text

/-- The letters of a word that begins with one hyphen. What follows the letter of an option, but
for an equals sign, is its value. -/
def short (v : Verb) (p : Progress) : List Char → Except UsageError Progress
  | [] => .ok p
  | c :: rest =>
      match v.short? c with
      | none => .error .unknownArgument
      | some a =>
          if a.takesValue then
            match rest with
            | [] => p.take a none
            | '=' :: text => p.take a (some (String.ofList text))
            | text => p.take a (some (String.ofList text))
          else (p.take a none).bind fun p => short v p rest

/-- A word without a name: the pattern, if there is none yet. -/
def unnamed (p : Progress) (word : String) : Except UsageError Progress :=
  if p.given.pattern.isSome || p.pending.any (·.1 = .pattern) then .error .unknownArgument
  else p.settle.map fun given => { given, pending := some (.pattern, some word) }

/-- Takes words one after the other. Behind `--`, which sets `plain`, hyphens mean nothing. -/
def scan (v : Verb) (plain : Bool) (p : Progress) : List String → Except UsageError Progress
  | [] => .ok p
  | word :: rest =>
      if plain then (p.unnamed word).bind fun p => scan v plain p rest
      else match word.toList with
        | ['-', '-'] => scan v true p rest
        | '-' :: '-' :: name => (p.long v name).bind fun p => scan v plain p rest
        | '-' :: c :: letters => (p.short v (c :: letters)).bind fun p => scan v plain p rest
        | _ =>
            match p.pending with
            | some (a, none) => scan v plain { p with pending := some (a, some word) } rest
            | _ => (p.unnamed word).bind fun p => scan v plain p rest

end Progress

/-- What the words behind a command give. -/
def Given.ofWords (v : Verb) (words : List String) : Except UsageError Given :=
  (Progress.scan v false {} words).bind Progress.settle

end TransitionMap.CommandLine
