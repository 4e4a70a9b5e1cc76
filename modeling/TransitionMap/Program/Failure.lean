import TransitionMap.Image
import TransitionMap.Source
import TransitionMap.Table

/-!
# Failures of the program

What can go wrong once a command line has been accepted, with the message for the user and the exit
code: 2 for files that cannot be read, 50 for automata that cannot be compiled, 40 for maps and
images, 1 for writes that were refused.
-/

namespace TransitionMap

inductive SettingsError
  | read (path message : String)
  | parse (path : String)
  deriving DecidableEq, Repr

def SettingsError.message : SettingsError → String
  | .read path message => "failed to read config file '" ++ path ++ "': " ++ message
  | .parse path => "failed to parse config file '" ++ path ++ "'"

inductive Failure
  | settings (cause : SettingsError)
  | read (path message : String)
  | source (cause : SourceError)
  | compile (cause : CompileError)
  | openMap (path : String) (cause : StoreError)
  | write (path message : String)
  | image (path : String) (cause : ImageError)
  | incomplete (attempted failed : Nat)
  deriving DecidableEq, Repr

namespace Failure

def message : Failure → String
  | settings cause => cause.message
  | read path message => "failed to read '" ++ path ++ "': " ++ message
  | source cause => cause.message
  | compile cause => "can't convert the automaton to a map: " ++ cause.message
  | openMap path cause => "failed to open map '" ++ path ++ "': " ++ cause.message
  | write path message => "failed to write '" ++ path ++ "': " ++ message
  | image path cause => "invalid table image '" ++ path ++ "': " ++ cause.message
  | incomplete attempted failed =>
      failed.repr ++ " of " ++ attempted.repr ++ " map updates failed"

def exitCode : Failure → Nat
  | settings _ | read _ _ => 2
  | compile (.invalidStore _) => 40
  | source _ | compile _ => 50
  | openMap _ _ | write _ _ | image _ _ => 40
  | incomplete _ _ => 1

end Failure

/-- Under `strict`, refused writes are a failure. -/
def WriteSummary.failure? (s : WriteSummary) (strict : Bool) : Option Failure :=
  if strict && !s.isComplete then some (.incomplete s.attempted s.failed) else none

end TransitionMap
