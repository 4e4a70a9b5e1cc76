import TransitionMap.Layout

/-!
# Table listings

One line per entry in key order: the source state, the byte, an arrow, the target state and, for an
accepting target, the word `accept`. State labels are padded to the widest label of the table,
bytes to four characters, so that bytes and arrows stand in columns of their own.
-/

namespace TransitionMap

/-- The escape sequences put around the parts of a line. -/
structure Palette where
  state : List Char
  accept : List Char
  dim : List Char
  reset : List Char
  deriving DecidableEq, Repr

namespace Palette

/-- The sequence that selects the graphic rendition `code`. -/
def escape (code : List Char) : List Char := '\x1b' :: '[' :: (code ++ ['m'])

/-- Blue states, green accepting targets, dim bytes and arrows. -/
def color : Palette :=
  { state := escape ['3', '4']
    accept := escape ['3', '2']
    dim := escape ['2']
    reset := escape ['0'] }

def plain : Palette := ⟨[], [], [], []⟩

def ofFlag (colored : Bool) : Palette := if colored then color else plain

end Palette

namespace Dump

/-- The number of decimal digits of `n`. -/
def digitCount (n : Nat) : Nat := if n < 10 then 1 else digitCount (n / 10) + 1

/-- The digits needed to print the indices below `count`. -/
def widthForCount (count : Nat) : Nat := digitCount (count - 1)

def padRight (width : Nat) (text : List Char) : List Char :=
  text ++ List.replicate (width - text.length) ' '

def stateLabel (s : StateId) : List Char := s.label.toList

/-- The largest state of a list of entries, source or target; zero for the empty list. -/
def maxState (entries : List Entry) : Nat :=
  entries.foldl (fun m e => max m (max e.key.state.toNat e.value.state.toNat)) 0

def line (p : Palette) (width : Nat) (e : Entry) : List Char :=
  p.state ++ padRight width (stateLabel e.key.state) ++ p.reset ++ [' ', ' '] ++
  p.dim ++ padRight 4 (unitLabel e.key.unit) ++ [' ', ' ', '-', '>'] ++ p.reset ++ [' ', ' '] ++
  (if e.value.accepting then
    p.accept ++ stateLabel e.value.state ++ p.reset ++ [' ', ' '] ++ p.accept ++
      "accept".toList ++ p.reset
  else p.state ++ stateLabel e.value.state ++ p.reset)

/-- The lines of a listing, in key order and without their line ends. -/
def lines (p : Palette) (entries : List Entry) : List (List Char) :=
  (Entry.sortByKey entries).map (line p (digitCount (maxState entries) + 1))

end Dump

/-- The listing of a table; every line ends in a line feed. -/
def dump (p : Palette) (entries : List Entry) : String :=
  String.ofList ((Dump.lines p entries).flatMap (· ++ ['\n']))

end TransitionMap
