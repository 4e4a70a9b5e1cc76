import TransitionMap.OrderedSet
import TransitionMap.Pattern.ByteTrie
import TransitionMap.Pattern.Expr

/-!
# Thread programs

A program is a numbered list of nodes. A thread stands at a node: a `branch` reads one byte, the
other nodes lead on without reading, and `accept` ends a match. Of the two ways of a `fork` the
first is preferred. `Program.ofExpr` lays out an expression; a repetition prefers another round
when it is greedy, and a body that can match the empty text is entered before the choice to go on.
-/

namespace TransitionMap.Pattern

inductive Node
  | branch (arms : List (UInt8 × UInt8 × Nat))
  | fork (first second : Nat)
  | assert (a : Assertion) (next : Nat)
  | accept
  deriving DecidableEq, Repr

abbrev Program := Array Node

/-- Nodes for the addresses from some base on, the last address first, and the address to enter
at. -/
structure Fragment where
  nodes : List Node
  entry : Nat
  deriving DecidableEq, Repr

namespace Fragment

def size (f : Fragment) : Nat := f.nodes.length

/-- A fork whose first way is taken when `greedy`. -/
def choice (greedy : Bool) (body exit : Nat) : Node :=
  if greedy then .fork body exit else .fork exit body

/-- Lays out a piece at a base, in front of the address `next`. -/
abbrev Layout := Nat → Nat → Fragment

def skip : Layout := fun _ next => ⟨[], next⟩

/-- The first piece stands behind the second, whose entry it leads to. -/
def seq (first second : Layout) : Layout := fun base next =>
  let s := second base next
  let f := first (base + s.size) s.entry
  ⟨f.nodes ++ s.nodes, f.entry⟩

def either (first second : Layout) : Layout := fun base next =>
  let f := first (base + 1) next
  let s := second (base + 1 + f.size) next
  ⟨s.nodes ++ f.nodes ++ [.fork f.entry s.entry], base⟩

def copies (piece : Layout) : Nat → Layout
  | 0 => skip
  | n + 1 => seq piece (copies piece n)

/-- Up to `n` rounds, each entered only after the one before. -/
def atMost (greedy : Bool) (piece : Layout) : Nat → Layout
  | 0 => skip
  | n + 1 => fun base next =>
      let rest := atMost greedy piece n base next
      let f := piece (base + rest.size + 1) rest.entry
      ⟨f.nodes ++ choice greedy f.entry next :: rest.nodes, base + rest.size⟩

/-- One round or more. -/
def oneOrMore (greedy : Bool) (piece : Layout) : Layout := fun base next =>
  let f := piece (base + 1) base
  ⟨f.nodes ++ [choice greedy f.entry next], f.entry⟩

/-- Any number of rounds of a piece that reads at least one byte. -/
def anyNumber (greedy : Bool) (piece : Layout) : Layout := fun base next =>
  let f := piece (base + 1) base
  ⟨f.nodes ++ [choice greedy f.entry next], base⟩

/-- Any number of rounds: one or more, or none. -/
def anyNumberOfEmpty (greedy : Bool) (piece : Layout) : Layout := fun base next =>
  let f := piece (base + 2) base
  ⟨f.nodes ++ [choice greedy f.entry next, choice greedy f.entry next], base + 1⟩

/-- `n` rounds and then any number. -/
def atLeast (greedy readsByte : Bool) (piece : Layout) : Nat → Layout
  | 0 => if readsByte then anyNumber greedy piece else anyNumberOfEmpty greedy piece
  | n + 1 => seq (copies piece n) (oneOrMore greedy piece)

def repeated (min : Nat) (max : Option Nat) (greedy readsByte : Bool) (piece : Layout) : Layout :=
  match max with
  | none => atLeast greedy readsByte piece min
  | some max => seq (copies piece min) (atMost greedy piece (max - min))

end Fragment

/-! ## Byte sequences -/

namespace ByteTrie

def isAccept : ByteTrie → Bool
  | accept => true
  | _ => false

/-- The arms of a tree, by the addresses of the trees behind them. -/
def armsAt (address : ByteTrie → Nat) : ByteTrie → List (UInt8 × UInt8 × Nat)
  | arm lo hi sub rest => (lo, hi, address sub) :: armsAt address rest
  | _ => []

/-- Adds the trees behind the arms of a tree, each once, and before them those behind their own
arms. -/
def addBelow : ByteTrie → OrderedSet ByteTrie → OrderedSet ByteTrie
  | arm _ _ sub rest, trees =>
      if sub.isAccept || trees.contains sub then addBelow rest trees
      else addBelow rest ((addBelow sub trees).insert sub)
  | _, trees => trees

/-- One node for each of the trees: where characters end in the same way, they share the nodes of
their last bytes. -/
def layout (t : ByteTrie) : Fragment.Layout := fun base next =>
  if t.isAccept then ⟨[], next⟩
  else
    let trees := (t.addBelow OrderedSet.empty).insert t
    let address (s : ByteTrie) : Nat :=
      if s.isAccept then next else base + (trees.position? s).getD 0
    ⟨(trees.toList.map fun s => .branch (s.armsAt address)).reverse, address t⟩

end ByteTrie

/-- One given byte after the other. -/
def bytesLayout : Bytes → Fragment.Layout
  | [] => Fragment.skip
  | b :: rest =>
      Fragment.seq (fun base next => ⟨[.branch [(b, b, next)]], base⟩) (bytesLayout rest)

namespace Expr

def layout : Expr → Fragment.Layout
  | empty => Fragment.skip
  | text cs => bytesLayout (cs.flatMap String.utf8EncodeChar)
  | chars set => (ByteTrie.ofChars set).layout
  | assert a => fun base next => ⟨[.assert a next], base⟩
  | seq a b => Fragment.seq (layout a) (layout b)
  | either a b => Fragment.either (layout a) (layout b)
  | repeated min max greedy sub =>
      Fragment.repeated min max greedy ((minLength sub).any (0 < ·)) (layout sub)
  | capture _ sub => layout sub

end Expr

namespace Program

/-- The program of an expression and the address of its first node. Address 0 ends a match. Unless
the expression is anchored, by demand or by itself, it may begin behind any bytes, and sooner
rather than later. -/
def ofExpr (anchored : Bool) (e : Expr) : Program × Nat :=
  if anchored || e.assertsStart then
    let f := e.layout 1 0
    ((Node.accept :: f.nodes.reverse).toArray, f.entry)
  else
    let f := e.layout 3 0
    ((Node.accept :: .fork f.entry 2 :: .branch [(0, 0xff, 1)] :: f.nodes.reverse).toArray, 1)

end Program

end TransitionMap.Pattern
