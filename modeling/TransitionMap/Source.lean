import TransitionMap.Description.Reader
import TransitionMap.Pattern
import TransitionMap.Table

/-!
# Sources of automata

An automaton comes from a pattern or from the text of a description.
-/

namespace TransitionMap

inductive SourceError
  | pattern (text : String) (cause : Pattern.PatternError)
  /-- The text of a description is no JSON of the right form. -/
  | json (text : String) (fault : Json.Fault)
  | description (cause : DescriptionError)
  deriving DecidableEq, Repr

def SourceError.message : SourceError → String
  | .pattern text cause => "failed to compile pattern `" ++ text ++ "`: " ++ cause.message
  | .json text fault => "invalid automaton description: " ++ fault.message text
  | .description cause => cause.message

namespace Source

def ofPattern (pattern : String) (options : Pattern.Options) :
    Except SourceError (Automaton Nat) :=
  (Pattern.compile pattern options).mapError (.pattern pattern)

def parseDescription (text : String) : Except SourceError Description :=
  (Description.parse text).mapError (.json text)

def buildArena (d : Description) : Except SourceError Arena := d.toArena.mapError .description

def arenaOfText (text : String) : Except SourceError Arena :=
  (parseDescription text).bind buildArena

end Source

end TransitionMap
