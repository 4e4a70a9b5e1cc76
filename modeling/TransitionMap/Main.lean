import TransitionMap.Program

/-!
# The command

Runs the program on the files, the streams and the environment of the system.
-/

namespace TransitionMap

/-- The system's words for an error of the system, with its number. -/
def errorText (e : IO.Error) : String :=
  let coded (code : UInt32) (text : String) := text ++ " (os error " ++ code.toNat.repr ++ ")"
  match e with
  | .noFileOrDirectory _ code _ => coded code "No such file or directory"
  | .permissionDenied _ code _ => coded code "Permission denied"
  | .inappropriateType _ code text => coded code text
  | .invalidArgument _ code text => coded code text
  | .alreadyExists _ code text => coded code text
  | .resourceExhausted _ code text => coded code text
  | .otherError code text => coded code text
  | e => e.toString

/-- The answer of an action, with its error as a text. -/
def attempt {α : Type} (action : IO α) : IO (Except String α) := do
  match ← action.toBaseIO with
  | .ok a => return .ok a
  | .error e => return .error (errorText e)

def systemHost : Host IO where
  Map := Empty
  readFile path := attempt do return (← IO.FS.readBinFile path).toList
  readInput := attempt do return (← (← IO.getStdin).readBinToEnd).toList
  writeFile path bytes := attempt (IO.FS.writeBinFile path ⟨bytes.toArray⟩)
  pinned _ := return none
  keep := nofun
  mapFault path := return .io ("cannot open " ++ path ++ ": pinned BPF maps are out of reach")
  onTerminal := do return (← (← IO.getStdout).isTty)

end TransitionMap

open TransitionMap in
/-- The command line of the program. -/
def main (words : List String) : IO UInt32 := do
  let outcome ← Program.run systemHost (← IO.getEnv "DFAMAP_CONFIG") words
  match outcome with
  | .usage e => IO.eprintln ("error: " ++ e.message)
  | .report r =>
      IO.print r.output
      match r.failure with
      | some failure => IO.eprintln ("error: " ++ failure.message)
      | none => pure ()
  return UInt32.ofNat outcome.exitCode
