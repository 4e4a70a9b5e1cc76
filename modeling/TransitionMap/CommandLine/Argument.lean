/-!
# Arguments of commands

The three commands and what may be given behind each: options with a value, flags, and one argument
without a name, the pattern.
-/

namespace TransitionMap.CommandLine

/-- Why a command line is refused. A request for help is refused, too. -/
inductive UsageError
  | help
  | missingCommand
  | unknownCommand
  | unknownArgument
  /-- An option without a value, or with one that cannot be. -/
  | invalidValue
  | malformedNumber
  /-- A value for a flag. -/
  | unexpectedValue
  | conflict
  | missingTarget
  deriving DecidableEq, Repr

def UsageError.exitCode : UsageError → Nat
  | .help => 0
  | _ => 2

def UsageError.message : UsageError → String
  | .help => "usage: compile|check|dump [options] [pattern]"
  | .missingCommand => "a command is required: compile, check or dump"
  | .unknownCommand => "unrecognized command"
  | .unknownArgument => "unexpected argument"
  | .invalidValue => "a value is missing or not possible"
  | .malformedNumber => "a number is required"
  | .unexpectedValue => "a flag takes no value"
  | .conflict => "an argument is repeated or cannot be used with another"
  | .missingTarget => "one of --dev, --map, --out and --dry-run is required"

inductive Verb
  | compile
  | check
  | dump
  deriving DecidableEq, Repr

def Verb.ofName? : String → Option Verb
  | "compile" => some .compile
  | "check" => some .check
  | "dump" => some .dump
  | _ => none

inductive Argument
  | pattern
  | dfa
  | unanchored
  | maxStates
  | dev
  | map
  | out
  | dryRun
  | strict
  | image
  | color
  | config
  | verbose
  | quiet
  | help
  deriving DecidableEq, Repr

namespace Argument

def takesValue : Argument → Bool
  | unanchored | dryRun | strict | verbose | quiet | help => false
  | _ => true

def longName? : Argument → Option String
  | pattern => none
  | dfa => some "dfa"
  | unanchored => some "unanchored"
  | maxStates => some "max-states"
  | dev => some "dev"
  | map => some "map"
  | out => some "out"
  | dryRun => some "dry-run"
  | strict => some "strict"
  | image => some "image"
  | color => some "color"
  | config => some "config"
  | verbose => some "verbose"
  | quiet => some "quiet"
  | help => some "help"

def shortName? : Argument → Option Char
  | dev => some 'd'
  | out => some 'o'
  | config => some 'c'
  | verbose => some 'v'
  | quiet => some 'q'
  | help => some 'h'
  | _ => none

end Argument

/-- What may be given behind a command. -/
def Verb.arguments (v : Verb) : List Argument :=
  [.pattern, .dfa, .unanchored, .maxStates, .config, .verbose, .quiet, .help] ++
  match v with
  | .compile => [.dev, .map, .out, .dryRun, .strict]
  | .check => []
  | .dump => [.image, .color]

def Verb.long? (v : Verb) (name : String) : Option Argument :=
  v.arguments.find? fun a => a.longName? = some name

def Verb.short? (v : Verb) (name : Char) : Option Argument :=
  v.arguments.find? fun a => a.shortName? = some name

end TransitionMap.CommandLine
