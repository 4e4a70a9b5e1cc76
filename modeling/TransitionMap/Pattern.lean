import TransitionMap.Machine.Minimal
import TransitionMap.Pattern.Expr.Flags
import TransitionMap.Pattern.Syntax.Reader
import TransitionMap.Pattern.Threads

/-!
# Automata of patterns

A pattern is read, turned into a program of threads, tabled and, on demand, minimized. The
automaton of a pattern accepts where a match ends; an unanchored pattern may begin anywhere.
-/

namespace TransitionMap.Pattern

structure Options where
  /-- The match begins at the start of the input. -/
  anchored : Bool := true
  minimize : Bool := true
  deriving DecidableEq, Repr

inductive PatternError
  /-- The text is no pattern, or a pattern that could match part of a character. -/
  | malformed
  /-- Word boundaries in the sense of Unicode cannot be decided from single bytes. -/
  | unicodeWordBoundary
  deriving DecidableEq, Repr

def PatternError.message : PatternError → String
  | .malformed => "error building NFA"
  | .unicodeWordBoundary =>
      "unsupported regex feature for DFAs: cannot build DFAs for regexes with Unicode word " ++
        "boundaries; switch to ASCII word boundaries, or heuristically enable Unicode word " ++
        "boundaries or use a different regex engine"

def parse (pattern : String) : Except PatternError Expr :=
  match (Syntax.parse? pattern).bind (Syntax.expr? {}) with
  | none => .error .malformed
  | some (e, _) => if e.assertsUnicodeWord then .error .unicodeWordBoundary else .ok e

/-- The table of an expression before it is minimized. -/
def tabled (anchored : Bool) (e : Expr) : Tabled :=
  let (p, entry) := Program.ofExpr anchored e
  Tabled.explore (p.toMachine entry) (Columns.ofStarts p.columnStarts) p.stateBound

def machine (options : Options) (e : Expr) : Tabled :=
  let t := tabled options.anchored e
  if options.minimize then t.minimize else t

def compile (pattern : String) (options : Options) : Except PatternError (Automaton Nat) :=
  (parse pattern).map fun e => (machine options e).toAutomaton

end TransitionMap.Pattern
