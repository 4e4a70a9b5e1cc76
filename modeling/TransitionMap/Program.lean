import TransitionMap.CommandLine
import TransitionMap.Dump
import TransitionMap.Program.Failure
import TransitionMap.Program.Host
import TransitionMap.Settings.Reader
import TransitionMap.Store.ImageBuffer

/-!
# The program

Compiles automata into transition maps, checks them and lists their tables. A run reads the
settings, then the source of the automaton, and writes at the very end; what fails stops it.
-/

namespace TransitionMap

open CommandLine

namespace CommandLine.SourceRequest

/-- How a pattern is compiled: as the settings say, but unanchored on demand. -/
def options (r : SourceRequest) (s : CompileSettings) : Pattern.Options :=
  { s.options with anchored := s.options.anchored && !r.unanchored }

/-- The largest number of states. -/
def limit (r : SourceRequest) (s : CompileSettings) : Nat := r.maxStates.getD s.maxStates

end CommandLine.SourceRequest

/-- What a run of a command ends with: what it prints, and a failure if there is one. -/
structure Report where
  output : String := ""
  failure : Option Failure := none
  deriving DecidableEq, Repr

inductive Outcome
  | usage (e : UsageError)
  | report (r : Report)
  deriving DecidableEq, Repr

def Outcome.exitCode : Outcome → Nat
  | .usage e => e.exitCode
  | .report r => (r.failure.map Failure.exitCode).getD 0

namespace Program

variable {m : Type → Type} [Monad m]

/-- A part of a run, which may fail. -/
abbrev Run (m : Type → Type) (α : Type) := ExceptT Failure m α

/-- An answer of the host; its refusal is turned into a failure. -/
def asking {ε α : Type} (refused : ε → Failure) (answer : m (Except ε α)) : Run m α :=
  ExceptT.mk do return (← answer).mapError refused

def settings (host : Host m) : Option String → Run m Settings
  | none => return {}
  | some path => do
      let text ← asking (fun e => .settings (.read path e)) (host.readText path)
      match Settings.parse? text with
      | some s => return s
      | none => throw (.settings (.parse path))

/-- The automaton of a source. -/
def automaton (host : Host m) (s : CompileSettings) (r : SourceRequest) :
    Run m (Automaton Nat) := do
  match r.origin with
  | .description path =>
      let text ← asking (.read path) (host.readSource path)
      match Source.arenaOfText text with
      | .ok arena => return arena.toAutomaton
      | .error e => throw (.source e)
  | .pattern text => ofPattern text
  | .settings => ofPattern s.pattern
where
  ofPattern (text : String) : Run m (Automaton Nat) :=
    match Source.ofPattern text (r.options s) with
    | .ok a => return a
    | .error e => throw (.source e)

/-- The table of a source. -/
def table (host : Host m) (s : CompileSettings) (r : SourceRequest) : Run m Table := do
  match Table.plan (← automaton host s r) (r.limit s) with
  | .ok t => return t
  | .error e => throw (.compile e)

/-- Compiles a source into a store. -/
def compileInto {τ : Type} [Store τ] (host : Host m) (s : CompileSettings) (r : SourceRequest)
    (store : τ) : Run m (WriteSummary × τ) := do
  match Table.compile (← automaton host s r) (r.limit s) store with
  | (.ok summary, store) => return (summary, store)
  | (.error e, _) => throw (.compile e)

/-- Compiles into a target. A pinned map is opened first. -/
def compile (host : Host m) (s : Settings) (r : SourceRequest) : Target → Run m WriteSummary
  | .dev interface => pinned (s.map.pinPath interface)
  | .map path => pinned path
  | .image path => do
      let (summary, buffer) ← compileInto host s.compile r ImageBuffer.new
      match buffer.toImage with
      | .error e => throw (.image path e)
      | .ok image =>
          asking (.write path) (host.writeFile path image.toBytes)
          return summary
  | .dryRun => do return (← compileInto host s.compile r MemoryStore.new).1
where
  pinned (path : String) : Run m WriteSummary := do
    let map ← asking (.openMap path) (host.openMap path)
    let (summary, map) ← compileInto host s.compile r map
    host.keep path map.map
    return summary

/-- The entries of a table image. -/
def imageEntries (host : Host m) (path : String) : Run m (List Entry) := do
  let bytes ← asking (fun e => .image path (.io e)) (host.readFile path)
  match Image.ofBytes bytes with
  | .ok image => return image.entries
  | .error e => throw (.image path e)

/-- Whether a listing is colored; where that is left open, on a terminal it is. -/
def colored (host : Host m) : ColorChoice → Run m Bool
  | .always => return true
  | .never => return false
  | .auto => ExceptT.lift host.onTerminal

def command (host : Host m) (s : Settings) : Command → Run m Report
  | .compile source target strict => do
      let summary ← compile host s source target
      return { output := summary.text ++ "\n", failure := summary.failure? strict }
  | .check source => do
      let t ← table host s.compile source
      return { output :=
        "states=" ++ t.stateCount.repr ++ " entries=" ++ t.size.repr ++ " accepting=" ++
          t.acceptingTargets.repr ++ "\n" }
  | .dump source image color => do
      let entries ← match image with
        | some path => imageEntries host path
        | none => do pure (← table host s.compile source).entries
      return { output := dump (Palette.ofFlag (← colored host color)) entries }

/-- Carries out an invocation. -/
def perform (host : Host m) (i : Invocation) : m Report := do
  let run : Run m Report := do command host (← settings host i.config) i.command
  match ← run.run with
  | .ok report => return report
  | .error failure => return { failure := some failure }

/-- Carries out a command line. -/
def run (host : Host m) (named : Option String) (words : List String) : m Outcome :=
  match Invocation.parse named words with
  | .error e => return .usage e
  | .ok i => do return .report (← perform host i)

end Program

end TransitionMap
