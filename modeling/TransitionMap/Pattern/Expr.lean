import TransitionMap.CharSet
import TransitionMap.Pattern.Syntax

/-!
# Pattern expressions

What a pattern matches, with its flags applied: texts, sets of characters, assertions about the
place, and the ways to join them. `concat`, `alternate` and `repetition` build expressions in a
normal form: sequences and alternations lean to the right, neighbouring texts are one, an
alternation of single characters is a set, and branches that all begin alike share their beginning.
-/

namespace TransitionMap.Pattern

/-- A condition on a place between two bytes. -/
inductive Assertion
  | textStart
  | textEnd
  | lineStart (crlf : Bool)
  | lineEnd (crlf : Bool)
  | word (unicode : Bool) (edge : WordEdge)
  deriving DecidableEq, Repr

inductive Expr
  | empty
  | text (cs : List Char)
  | chars (set : CharSet)
  | assert (a : Assertion)
  | seq (first second : Expr)
  | either (first second : Expr)
  | repeated (min : Nat) (max : Option Nat) (greedy : Bool) (sub : Expr)
  | capture (index : Nat) (sub : Expr)
  deriving DecidableEq, Repr

/-- The number of bytes of a character code in UTF-8. -/
def utf8Length (c : Nat) : Nat :=
  if c < 0x80 then 1 else if c < 0x800 then 2 else if c < 0x10000 then 3 else 4

namespace Expr

def size : Expr → Nat
  | seq a b => size a + size b + 1
  | either a b => size a + size b + 1
  | repeated _ _ _ sub => size sub + 1
  | capture _ sub => size sub + 1
  | _ => 1

/-! ## Lengths -/

/-- The least number of bytes of a match; `none` if some part can never match. -/
def minLength : Expr → Option Nat
  | empty => some 0
  | text cs => some (String.ofList cs).utf8ByteSize
  | chars set => set.head?.map fun r => utf8Length r.1
  | assert _ => some 0
  | seq a b => do return (← minLength a) + (← minLength b)
  | either a b => do return min (← minLength a) (← minLength b)
  | repeated min _ _ sub => (minLength sub).map (· * min)
  | capture _ sub => minLength sub

/-- The greatest number of bytes of a match; `none` if there is none or some part can never
match. -/
def maxLength : Expr → Option Nat
  | empty => some 0
  | text cs => some (String.ofList cs).utf8ByteSize
  | chars set => set.getLast?.map fun r => utf8Length r.2
  | assert _ => some 0
  | seq a b => do return (← maxLength a) + (← maxLength b)
  | either a b => do return max (← maxLength a) (← maxLength b)
  | repeated least most _ sub => do return (← maxLength sub) * max least (← most)
  | capture _ sub => maxLength sub

/-! ## Building in normal form -/

/-- The expression that matches nothing. -/
def never : Expr := chars []

/-- One character of a set; a set of one is a text. -/
def ofSet (set : CharSet) : Expr :=
  match CharSet.only? set with
  | some c => if c.isValidChar then text [Char.ofNat c] else chars set
  | none => chars set

/-- The parts of a sequence; none for the empty expression. -/
def parts : Expr → List Expr
  | empty => []
  | seq a b => parts a ++ parts b
  | e => [e]

/-- Joins neighbouring texts. -/
def joinTexts : List Expr → List Expr
  | [] => []
  | text cs :: rest =>
      match joinTexts rest with
      | text ds :: rest => text (cs ++ ds) :: rest
      | rest => text cs :: rest
  | e :: rest => e :: joinTexts rest

def ofParts : List Expr → Expr
  | [] => empty
  | [e] => e
  | e :: rest => seq e (ofParts rest)

def concat (es : List Expr) : Expr := ofParts (joinTexts (es.flatMap parts))

/-- The branches of an alternation. -/
def branches : Expr → List Expr
  | either a b => branches a ++ branches b
  | e => [e]

def ofBranches : List Expr → Expr
  | [] => never
  | [e] => e
  | e :: rest => either e (ofBranches rest)

/-- The characters of an expression that matches exactly one character. -/
def single? : Expr → Option CharSet
  | text [c] => some (CharSet.singleton c)
  | chars set => some set
  | _ => none

/-- The longest common beginning of two lists. -/
def commonPrefix : List Expr → List Expr → List Expr
  | a :: as, b :: bs => if a = b then a :: commonPrefix as bs else []
  | _, _ => []

/-- What all branches begin with, if each is a sequence of two parts or more. -/
def sharedPrefix : List Expr → List Expr
  | [] => []
  | e :: rest =>
      if (e :: rest).all fun e => 2 ≤ (parts e).length then
        rest.foldl (fun acc e => commonPrefix acc (parts e)) (parts e)
      else []

/-- The alternation of some expressions; `fuel` bounds how often a common beginning is taken out. -/
def alternateWith : Nat → List Expr → Expr
  | 0, es => ofBranches es
  | fuel + 1, es =>
      match es.flatMap branches with
      | [] => never
      | [e] => e
      | es =>
          match es.mapM single? with
          | some sets => ofSet (CharSet.normalize sets.flatten)
          | none =>
              match sharedPrefix es with
              | [] => ofBranches es
              | shared =>
                  concat (shared ++
                    [alternateWith fuel (es.map fun e => concat ((parts e).drop shared.length))])

def alternate (es : List Expr) : Expr := alternateWith ((ofBranches es).size + 1) es

/-- What matches only the empty text is repeated at most once. -/
def repetition (min : Nat) (max : Option Nat) (greedy : Bool) (sub : Expr) : Expr :=
  let once := sub.maxLength = some 0
  let least := if once then Nat.min min 1 else min
  let most := if once then some (Nat.min (max.getD 1) 1) else max
  if least = 0 ∧ most = some 0 then empty
  else if least = 1 ∧ most = some 1 then sub
  else repeated least most greedy sub

/-- Whether a word boundary in the sense of Unicode is asserted somewhere. -/
def assertsUnicodeWord : Expr → Bool
  | assert (.word true _) => true
  | seq a b => assertsUnicodeWord a || assertsUnicodeWord b
  | either a b => assertsUnicodeWord a || assertsUnicodeWord b
  | repeated _ _ _ sub => assertsUnicodeWord sub
  | capture _ sub => assertsUnicodeWord sub
  | _ => false

/-- Whether every match has to begin at the start of the text. -/
def assertsStart : Expr → Bool
  | assert .textStart => true
  | seq a b => assertsStart a || (a.maxLength = some 0 && assertsStart b)
  | either a b => assertsStart a && assertsStart b
  | repeated min _ _ sub => 0 < min && assertsStart sub
  | capture _ sub => assertsStart sub
  | _ => false

end Expr

end TransitionMap.Pattern
