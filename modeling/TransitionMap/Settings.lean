import TransitionMap.Layout
import TransitionMap.Path
import TransitionMap.Pattern

/-!
# Settings

What a settings file can say: where maps are pinned, which pattern is compiled when none is given
and how, and how much is logged. Everything has a default.
-/

namespace TransitionMap

structure MapSettings where
  pinBase : String := "/sys/fs/bpf"
  name : String := "ids_inspect_map"
  deriving DecidableEq, Repr

structure CompileSettings where
  pattern : String := "(dog)|(cat)"
  options : Pattern.Options := {}
  maxStates : Nat := StateId.count
  deriving DecidableEq, Repr

structure LogSettings where
  level : String := "info"
  deriving DecidableEq, Repr

structure Settings where
  map : MapSettings := {}
  compile : CompileSettings := {}
  log : LogSettings := {}
  deriving DecidableEq, Repr

/-- The path of the map that is pinned for a network interface. -/
def MapSettings.pinPath (s : MapSettings) (interface : String) : String :=
  joinPath (joinPath s.pinBase interface) s.name

/-- What is logged: errors only on demand, more with every request for it, otherwise what the
settings say. -/
def LogSettings.effective (s : LogSettings) (quiet : Bool) (verbosity : Nat) : String :=
  if quiet then "error"
  else match verbosity with
    | 0 => s.level
    | 1 => "debug"
    | _ => "trace"

end TransitionMap
