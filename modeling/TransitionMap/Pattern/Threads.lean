import TransitionMap.Machine
import TransitionMap.Pattern.Program

/-!
# Threads in order of preference

A machine state is the list of nodes that threads have reached, the preferred thread first, and as
much of what stands before the place as assertions ask for (`Program.kept`). When a thread has ended
a match, the threads behind it are dropped: they could only give matches that are less preferred.

Threads are led on without reading in two steps. When a byte has been read, they pass the assertions
that the byte settles and stop at the others. When the next symbol is known and settles one more of
these, the way is taken again from its first node. The nodes passed on the way are part of the
list, so that this gives the order in which the threads would have come had the symbol been known
at once.
-/

namespace TransitionMap.Pattern

/-- What stands before a place. -/
inductive Before
  | start
  | lineFeed
  | carriageReturn
  | wordByte
  | other
  deriving DecidableEq, Repr, Hashable

def isWordByte (b : UInt8) : Bool :=
  (0x30 ≤ b && b ≤ 0x39) || (0x41 ≤ b && b ≤ 0x5a) || b = 0x5f || (0x61 ≤ b && b ≤ 0x7a)

namespace Before

def ofByte (b : UInt8) : Before :=
  if b = 0x0a then lineFeed
  else if b = 0x0d then carriageReturn
  else if isWordByte b then wordByte
  else other

/-- Whether an assertion holds whatever comes next. -/
def settles (before : Before) : Assertion → Bool
  | .textStart => before = start
  | .lineStart false => before = start || before = lineFeed
  | .lineStart true => before = start || before = lineFeed
  | .word _ .startHalf => before != wordByte
  | _ => false

end Before

namespace Assertion

/-! What an assertion asks for: the ends of the text, the ends of lines, carriage returns among
these, or word bytes. -/

def isText : Assertion → Bool
  | .textStart | .textEnd => true
  | _ => false

def isLine : Assertion → Bool
  | .lineStart _ | .lineEnd _ => true
  | _ => false

def isReturn : Assertion → Bool
  | .lineStart crlf | .lineEnd crlf => crlf
  | _ => false

def isWord : Assertion → Bool
  | .word _ _ => true
  | _ => false

end Assertion

/-- Whether an assertion holds between what stands before a place and the next symbol. -/
def Assertion.holds (before : Before) (next : Symbol) : Assertion → Bool
  | .textStart => before = .start
  | .textEnd => next = none
  | .lineStart false => before = .start || before = .lineFeed
  | .lineStart true =>
      before = .start || before = .lineFeed || (before = .carriageReturn && next != some 0x0a)
  | .lineEnd false => next = none || next = some 0x0a
  | .lineEnd true =>
      next = none || next = some 0x0d || (next = some 0x0a && before != .carriageReturn)
  | .word _ edge =>
      let left := before = .wordByte
      let right := next.any isWordByte
      match edge with
      | .boundary => left != right
      | .inside => left == right
      | .start => !left && right
      | .finish => left && !right
      | .startHalf => !left
      | .finishHalf => !right

namespace Program

/-- Where a thread goes on from a node without reading, the preferred way first. -/
def ways (p : Program) (holds : Assertion → Bool) (i : Nat) : List Nat :=
  match p[i]? with
  | some (.fork a b) => [a, b]
  | some (.assert a next) => if holds a then [next] else []
  | _ => []

/-- Leads threads on past forks and the assertions that hold, the first thread first. Each node is
visited once; `fuel` bounds the visits. -/
def advance (p : Program) (holds : Assertion → Bool) :
    Nat → List Nat → OrderedSet Nat → OrderedSet Nat
  | 0, _, seen => seen
  | _ + 1, [], seen => seen
  | fuel + 1, i :: rest, seen =>
      if i < p.size ∧ ¬ seen.contains i then
        advance p holds fuel (p.ways holds i ++ rest) (seen.insert i)
      else advance p holds fuel rest seen

/-- The nodes that threads reach without reading, in order of preference. -/
def settle (p : Program) (holds : Assertion → Bool) (threads : List Nat) : List Nat :=
  (p.advance holds (2 * p.size + threads.length + 1) threads OrderedSet.empty).toList

/-- The assertion at a node. -/
def assertion? (p : Program) (i : Nat) : Option Assertion :=
  match p[i]? with
  | some (.assert a _) => some a
  | _ => none

/-- Whether there is an assertion of a kind anywhere. -/
def asserts (p : Program) (kind : Assertion → Bool) : Bool :=
  p.any fun node => match node with
    | .assert a _ => kind a
    | _ => false

/-- What is kept of what stands before a place that threads have come to, if the program has any
assertion that asks for things of this kind. A word byte or a carriage return is kept as long as
there are threads; the start of the text or of a line is forgotten unless a thread has come to an
assertion. Where carriage returns are asked for, the start of the text is like that of any line,
unless the ends of the text are asked for too. -/
def kept (p : Program) (nodes : List Nat) (before : Before) : Before :=
  let asked := nodes.any fun i => (p.assertion? i).isSome
  match before with
  | .start =>
      if asked && p.asserts Assertion.isText then .start
      else if asked && p.asserts Assertion.isLine then
        if p.asserts Assertion.isReturn then .lineFeed else .start
      else .other
  | .lineFeed => if asked && p.asserts Assertion.isLine then .lineFeed else .other
  | .carriageReturn =>
      if !nodes.isEmpty && p.asserts Assertion.isReturn then .carriageReturn else .other
  | .wordByte => if !nodes.isEmpty && p.asserts Assertion.isWord then .wordByte else .other
  | .other => .other

/-- Where the byte leads from a node. -/
def target? (p : Program) (b : UInt8) (i : Nat) : Option Nat :=
  match p[i]? with
  | some (.branch arms) => (arms.find? fun arm => arm.1 ≤ b && b ≤ arm.2.1).map (·.2.2)
  | _ => none

def isAccept (p : Program) (i : Nat) : Bool := p[i]? == some .accept

end Program

/-- The threads of a program at a place. -/
structure Threads where
  /-- Whether a match ended in front of the last symbol. -/
  matched : Bool
  before : Before
  nodes : List Nat
  deriving DecidableEq, Repr, Hashable

namespace Threads

/-- Threads led on as far as the byte before allows. -/
def ofTargets (p : Program) (matched : Bool) (before : Before) (targets : List Nat) : Threads :=
  let nodes := p.settle before.settles targets
  { matched, before := p.kept nodes before, nodes }

/-- The threads once the next symbol is known. -/
def informed (p : Program) (t : Threads) (x : Symbol) : List Nat :=
  let isNews (i : Nat) := (p.assertion? i).any fun a => a.holds t.before x && !t.before.settles a
  if t.nodes.any isNews then p.settle (Assertion.holds t.before x) t.nodes else t.nodes

/-- The state after one more symbol. -/
def step (p : Program) (t : Threads) (x : Symbol) : Threads :=
  let nodes := t.informed p x
  let preferred := nodes.takeWhile fun i => !p.isAccept i
  let matched := nodes.any p.isAccept
  match x with
  | some b => ofTargets p matched (.ofByte b) (preferred.filterMap (p.target? b))
  | none => ⟨matched, .other, []⟩

end Threads

namespace Program

/-- The machine that runs the threads of a program, which starts at the node `entry`. -/
def toMachine (p : Program) (entry : Nat) : Machine Threads where
  start := .ofTargets p false .start [entry]
  next := Threads.step p
  isMatch := Threads.matched
  isDead t := !t.matched && t.nodes.isEmpty

/-- Where the columns of the machine begin: at the ends of all arms and, if anything is asserted,
around line ends and word bytes. -/
def columnStarts (p : Program) : List Nat :=
  p.toList.flatMap fun node =>
    match node with
    | .branch arms => arms.flatMap fun arm => [arm.1.toNat, arm.2.1.toNat + 1]
    | .assert _ _ => [0x0a, 0x0b, 0x0d, 0x0e, 0x30, 0x3a, 0x41, 0x5b, 0x5f, 0x60, 0x61, 0x7b]
    | _ => []

/-- At most so many lists of nodes there are, with all that goes with them in a state. -/
def stateBound (p : Program) : Nat := 10 * Nat.pow (p.size + 1) p.size

end Program

end TransitionMap.Pattern
