import TransitionMap.Machine.Tabled

/-!
# Minimal machines

States are told apart by whether they are match states, then by the classes that their symbols lead
to, until no class divides any more. The minimal machine has one state for each class.
-/

namespace TransitionMap.Tabled

/-- Numbers the states by a signature: states with equal signatures get one number. -/
def classify (t : Tabled) (signature : Nat → List Nat) : Array Nat × Nat :=
  let signatures := (List.range t.size).map signature
  let classes := OrderedSet.ofList signatures
  ((signatures.map fun g => (classes.position? g).getD 0).toArray, classes.size)

/-- The class of a state and those of the states its symbols lead to. -/
def signature (t : Tabled) (classOf : Array Nat) (s : Nat) : List Nat :=
  classOf.getD s 0 :: (t.row s).toList.map fun u => classOf.getD u 0

/-- Divides classes until their number stays, at most `fuel` times. -/
def refine (t : Tabled) : Nat → Array Nat → Nat → Array Nat × Nat
  | 0, classOf, count => (classOf, count)
  | fuel + 1, classOf, count =>
      let (classOf', count') := t.classify (t.signature classOf)
      if count' = count then (classOf, count) else refine t fuel classOf' count'

/-- The classes of states that no input tells apart. -/
def classes (t : Tabled) : Array Nat × Nat :=
  let (classOf, count) := t.classify fun s => [if t.matchesAt s then 1 else 0]
  t.refine t.size classOf count

/-- The first state of each class, in the order of the classes, which are numbered as their first
states come. -/
def representatives (t : Tabled) (classOf : Array Nat) : Array Nat :=
  (List.range t.size).foldl
    (fun reps s => if classOf.getD s 0 = reps.size then reps.push s else reps) #[]

def minimize (t : Tabled) : Tabled :=
  let (classOf, _) := t.classes
  let reps := t.representatives classOf
  let rows := reps.map fun s => (t.row s).map fun u => classOf.getD u 0
  if h : 0 < rows.size then ofRows t.columns rows (reps.map t.matchesAt) h else t

end TransitionMap.Tabled
