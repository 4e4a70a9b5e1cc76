import TransitionMap.Store.Pinned

/-!
# The surroundings of the program

What the program asks of the system it runs on. Texts are files whose bytes are UTF-8.
-/

namespace TransitionMap

/-- Files and pinned maps; a text says why a request failed. -/
structure Host (m : Type → Type) where
  /-- The maps of the system. -/
  Map : Type
  [system : SystemMap Map]
  readFile : String → m (Except String Bytes)
  readInput : m (Except String Bytes)
  writeFile : String → Bytes → m (Except String Unit)
  /-- The map that is pinned at a path, if it can be opened. -/
  pinned : String → m (Option Map)
  /-- Why the map that is pinned at a path cannot be opened. -/
  mapFault : String → m StoreError
  /-- Leaves the map that is pinned at a path as it has been made since it was opened. -/
  keep : String → Map → m Unit
  /-- Whether the output is shown on a terminal. -/
  onTerminal : m Bool

attribute [instance] Host.system

namespace Host

def decode (bytes : Bytes) : Except String String :=
  match String.fromUTF8? ⟨bytes.toArray⟩ with
  | some text => .ok text
  | none => .error "stream did not contain valid UTF-8"

variable {m : Type → Type} [Monad m]

/-- The text of a file. -/
def readText (host : Host m) (path : String) : m (Except String String) := do
  return (← host.readFile path).bind decode

/-- The text of a file or, for `-`, of the standard input. -/
def readSource (host : Host m) (path : String) : m (Except String String) := do
  if path = "-" then return (← host.readInput).bind decode else host.readText path

/-- Why the map that is pinned at a path cannot be opened; no path holds a zero character. -/
def mapRefusal (host : Host m) (path : String) : m StoreError :=
  if path.contains '\x00' then return .io ("path contains NUL: " ++ path) else host.mapFault path

/-- Opens the map that is pinned at a path. -/
def openMap (host : Host m) (path : String) : m (Except StoreError (PinnedMap host.Map)) := do
  if path.contains '\x00' then return .error (← host.mapRefusal path)
  match ← host.pinned path with
  | some map => return .ok (.ofMap map)
  | none => return .error (← host.mapRefusal path)

end Host

end TransitionMap
