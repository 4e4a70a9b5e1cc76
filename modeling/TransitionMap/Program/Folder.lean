import TransitionMap.Program.Host

/-!
# A folder as surroundings

A `Folder` holds files by their paths from it, and an input. Programs can be run in it without a
system: files are found, created and replaced as a system would, and errors have the system's texts.
-/

namespace TransitionMap

structure Folder where
  files : List (String × Bytes) := []
  input : Bytes := []
  deriving DecidableEq, Repr

/-- What a path leads to. -/
inductive Place
  | file (name : String)
  | directory
  /-- Nothing yet, in a directory that is there. -/
  | vacant (name : String)
  /-- The same, but written as a directory. -/
  | vacantDirectory
  | missing
  | notDirectory
  deriving DecidableEq, Repr

namespace Folder

def notFound : String := "No such file or directory (os error 2)"

def isDirectory : String := "Is a directory (os error 21)"

def notADirectory : String := "Not a directory (os error 20)"

def contains (f : Folder) (name : String) : Bool := f.files.any (·.1 = name)

/-- Whether a directory has been made by a file inside it. -/
def hasDirectory (f : Folder) (name : String) : Bool :=
  f.files.any fun file => file.1.startsWith (name ++ "/")

/-- Follows the parts of a path. `above` holds the directories on the way, last first. -/
def follow (f : Folder) (above : List String) : List String → Place
  | [] => .directory
  | part :: rest =>
      if part = "" ∨ part = "." then follow f above rest
      else if part = ".." then
        match above with
        | _ :: above => follow f above rest
        | [] => if rest.all fun part => part = "" ∨ part = "." then .directory else .missing
      else
        let name := "/".intercalate (part :: above).reverse
        if f.contains name then if rest.isEmpty then .file name else .notDirectory
        else if f.hasDirectory name then follow f (part :: above) rest
        else if rest.isEmpty then .vacant name
        else if rest.all (· = "") then .vacantDirectory
        else .missing

/-- What a path leads to; of the paths that begin at the root only the root itself is there. -/
def place (f : Folder) (path : String) : Place :=
  if path = "" then .missing
  else if path.startsWith "/" then if path.toList.all (· = '/') then .directory else .missing
  else f.follow [] (path.splitOn "/")

def read (f : Folder) (path : String) : Except String Bytes :=
  match f.place path with
  | .file name => .ok ((f.files.lookup name).getD [])
  | .directory => .error isDirectory
  | .vacant _ | .vacantDirectory | .missing => .error notFound
  | .notDirectory => .error notADirectory

/-- Replaces the bytes of a file, or adds it. -/
def set (f : Folder) (name : String) (bytes : Bytes) : Folder :=
  if f.contains name then
    { f with files := f.files.map fun file => if file.1 = name then (name, bytes) else file }
  else { f with files := f.files ++ [(name, bytes)] }

def write (f : Folder) (path : String) (bytes : Bytes) : Except String Folder :=
  match f.place path with
  | .file name | .vacant name => .ok (f.set name bytes)
  | .directory | .vacantDirectory => .error isDirectory
  | .missing => .error notFound
  | .notDirectory => .error notADirectory

/-- The surroundings of a program that runs in the folder. No maps are pinned there, and there is no
terminal. -/
def host : Host (StateM Folder) where
  Map := Empty
  readFile path := do return (← get).read path
  readInput := do
    let f ← get
    MonadState.set { f with input := [] }
    return .ok f.input
  writeFile path bytes := do
    match (← get).write path bytes with
    | .ok f =>
        MonadState.set f
        return .ok ()
    | .error message => return .error message
  pinned _ := return none
  mapFault _ := return .os 2 "No such file or directory"
  keep := nofun
  onTerminal := return false

end Folder

end TransitionMap
