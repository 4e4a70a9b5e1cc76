import TransitionMap.CommandLine.Given

/-!
# Command lines

A command line names a command and what belongs to it. `Invocation.parse` refuses what is given
twice, what contradicts itself and, for `compile`, what names no target (`Given.fault?`). What
passes these checks makes a command (`Given.isSome_command?`).
-/

namespace TransitionMap.CommandLine

/-- Where the automaton comes from. -/
inductive Origin
  /-- The pattern of the settings. -/
  | settings
  | pattern (text : String)
  /-- A file with a description; `-` is the standard input. -/
  | description (path : String)
  deriving DecidableEq, Repr

structure SourceRequest where
  origin : Origin := .settings
  unanchored : Bool := false
  maxStates : Option Nat := none
  deriving DecidableEq, Repr

/-- Where the table goes. -/
inductive Target
  /-- The map that is pinned for a network interface. -/
  | dev (interface : String)
  /-- The map that is pinned at a path. -/
  | map (path : String)
  /-- A table image. -/
  | image (path : String)
  /-- Memory, and then nowhere. -/
  | dryRun
  deriving DecidableEq, Repr

inductive Command
  | compile (source : SourceRequest) (target : Target) (strict : Bool)
  | check (source : SourceRequest)
  | dump (source : SourceRequest) (image : Option String) (color : ColorChoice)
  deriving DecidableEq, Repr

structure Invocation where
  config : Option String := none
  verbosity : Nat := 0
  quiet : Bool := false
  command : Command
  deriving DecidableEq, Repr

def Command.source : Command → SourceRequest
  | compile source _ _ => source
  | check source => source
  | dump source _ _ => source

/-! ## What is checked -/

namespace Given

def targets (g : Given) : List Target :=
  (g.dev.map Target.dev).toList ++ (g.map.map Target.map).toList ++
    (g.out.map Target.image).toList ++ if g.dryRun then [.dryRun] else []

/-- Whether things have been given that exclude each other. -/
def contradicts (g : Given) : Bool :=
  1 < g.targets.length ||
  (g.dfa.isSome && g.pattern.isSome) ||
  (g.image.isSome && (g.pattern.isSome || g.dfa.isSome)) ||
  (g.quiet && 0 < g.verbosity)

/-- What is wrong with things that may each be given by themselves: some contradict each other, or
`compile` has no target. -/
def fault? (v : Verb) (g : Given) : Option UsageError :=
  if g.contradicts then some .conflict
  else if v = .compile ∧ g.targets = [] then some .missingTarget
  else none

/-! ## What is made of it -/

def source (g : Given) : SourceRequest :=
  { origin := match g.dfa, g.pattern with
      | some path, _ => .description path
      | none, some text => .pattern text
      | none, none => .settings
    unanchored := g.unanchored
    maxStates := g.maxStates }

/-- The target, the first kind of those given. Where none is given the program has no answer. -/
def target? (g : Given) : Option Target :=
  match g.dev, g.map, g.out, g.dryRun with
  | some interface, _, _, _ => some (.dev interface)
  | none, some path, _, _ => some (.map path)
  | none, none, some path, _ => some (.image path)
  | none, none, none, true => some .dryRun
  | none, none, none, false => none

def command? (v : Verb) (g : Given) : Option Command :=
  match v with
  | .compile => g.target?.map fun target => .compile g.source target g.strict
  | .check => some (.check g.source)
  | .dump => some (.dump g.source g.image (g.color.getD .auto))

theorem target?_eq_head? (g : Given) : g.target? = g.targets.head? := by
  unfold target? targets
  cases g.dev <;> cases g.map <;> cases g.out <;> cases g.dryRun <;> rfl

theorem fault?_eq_none_iff {v : Verb} {g : Given} :
    g.fault? v = none ↔ g.contradicts = false ∧ (v = .compile → g.targets ≠ []) := by
  cases h : g.contradicts <;> simp [fault?, h]

/-- What has passed the checks makes a command: the case without an answer does not occur. -/
theorem isSome_command? {v : Verb} {g : Given} (h : g.fault? v = none) :
    (g.command? v).isSome = true := by
  cases v with
  | check => rfl
  | dump => rfl
  | compile =>
    obtain ⟨target, rest, hcons⟩ := List.exists_cons_of_ne_nil ((fault?_eq_none_iff.1 h).2 rfl)
    simp [command?, target?_eq_head?, hcons]

/-- What is given, as an invocation of a command with a settings file. -/
def invocationWith (v : Verb) (g : Given) (config : Option String) : Except UsageError Invocation :=
  match h : g.fault? v with
  | some e => .error e
  | none =>
      .ok { config, verbosity := g.verbosity, quiet := g.quiet,
            command := (g.command? v).get (isSome_command? h) }

/-- What is given, as an invocation of a command. Where no settings file is given, a variable of the
environment may name one. -/
def invocation (v : Verb) (named : Option String) (g : Given) : Except UsageError Invocation :=
  match g.config, named with
  | some path, _ => g.invocationWith v (some path)
  | none, some text => (path? text).bind fun path => g.invocationWith v (some path)
  | none, none => g.invocationWith v none

end Given

/-! ## Whole command lines -/

/-- Whether a word is the name of a command, `help` being one. -/
def isCommandName (word : String) : Bool := (Verb.ofName? word).isSome || word = "help"

/-- What is wrong with a command line whose first word is no command. -/
def misplaced (word : String) (rest : List String) : UsageError :=
  match word.toList with
  | ['-', '-'] =>
      match rest with
      | [] => .missingCommand
      | next :: _ => if isCommandName next then .unknownArgument else .unknownCommand
  | '-' :: '-' :: name =>
      if name = "help".toList then .help
      else if "help=".toList.isPrefixOf name then .unexpectedValue
      else .unknownArgument
  | '-' :: letter :: _ => if letter = 'h' then .help else .unknownArgument
  | _ => .unknownCommand

/-- What `help` says about the words behind it: only commands can be explained, and only one. -/
def explained : List String → UsageError
  | [] => .help
  | [word] => if isCommandName word then .help else .unknownCommand
  | _ => .unknownCommand

/-- Reads the words of a command line. `named` is the variable of the environment that may name a
settings file. -/
def Invocation.parse (named : Option String) : List String → Except UsageError Invocation
  | [] => .error .missingCommand
  | word :: rest =>
      match Verb.ofName? word with
      | some v => (Given.ofWords v rest).bind (Given.invocation v named)
      | none => .error (if word = "help" then explained rest else misplaced word rest)

end TransitionMap.CommandLine
