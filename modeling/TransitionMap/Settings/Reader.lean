import TransitionMap.Settings
import TransitionMap.Toml.Document

/-!
# Reading settings

Each section of a settings file is a table. Keys and sections that are not known are skipped, and
what is left out has its default. A section whose fields are texts only may also be an array of
them in order, or a date, which names none of them.

Numbers must fit even where they are skipped: integers 128 bits, or 64 in the section `compile`, and
decimals a binary floating point number.
-/

namespace TransitionMap.Settings

open Toml (Members)

/-- The value of a key, or a default if the key is left out. -/
def field? {α : Type} (members : Members) (name : String) (default : α)
    (read : Toml.Value → Option α) :
    Option α :=
  match members.lookup name with
  | none => some default
  | some v => read v

def text? : Toml.Value → Option String
  | .string s => some s
  | _ => none

def boolean? : Toml.Value → Option Bool
  | .boolean b => some b
  | _ => none

/-- A number of 64 bits. -/
def count? : Toml.Value → Option Nat
  | .integer (.ofNat n) => if n < UInt64.size then some n else none
  | _ => none

/-- Whether the members with other names than these fit 128 bits. -/
def othersFit (names : List String) (members : Members) : Bool :=
  Toml.Value.membersFit 128 (members.filter fun m => !names.contains m.1)

/-- A section of texts, by their names and defaults in order. -/
def texts? (fields : List (String × String)) : Toml.Value → Option (List String)
  | .table _ members =>
      if othersFit (fields.map Prod.fst) members then
        fields.mapM fun (name, default) => field? members name default text?
      else none
  | .array _ items =>
      ((items.take fields.length).mapM text?).map fun given =>
        given ++ (fields.drop given.length).map Prod.snd
  | .moment => some (fields.map Prod.snd)
  | _ => none

def map? (v : Toml.Value) : Option MapSettings := do
  let default : MapSettings := {}
  match ← texts? [("pin_basedir", default.pinBase), ("name", default.name)] v with
  | [pinBase, name] => return { pinBase, name }
  | _ => none

def log? (v : Toml.Value) : Option LogSettings := do
  let default : LogSettings := {}
  match ← texts? [("level", default.level)] v with
  | [level] => return { level }
  | _ => none

def compileOfMembers? (members : Members) : Option CompileSettings := do
  let default : CompileSettings := {}
  let pattern ← field? members "pattern" default.pattern text?
  let anchored ← field? members "anchored" default.options.anchored boolean?
  let minimize ← field? members "minimize" default.options.minimize boolean?
  let maxStates ← field? members "max_states" default.maxStates count?
  if Toml.Value.membersFit 64 members then
    return { pattern, options := { anchored, minimize }, maxStates }
  else none

def compile? : Toml.Value → Option CompileSettings
  | .table _ members => compileOfMembers? members
  | .moment => some {}
  | _ => none

def ofMembers? (members : Members) : Option Settings := do
  let map ← field? members "map" {} map?
  let compile ← field? members "compile" {} compile?
  let log ← field? members "logging" {} log?
  if othersFit ["map", "compile", "logging"] members then return { map, compile, log } else none

/-- The settings in the text of a settings file. -/
def parse? (text : String) : Option Settings := (Toml.parse? text).bind ofMembers?

end TransitionMap.Settings
