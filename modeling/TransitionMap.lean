import TransitionMap.Automaton
import TransitionMap.Automaton.Arena
import TransitionMap.Bytes
import TransitionMap.CharSet
import TransitionMap.CommandLine
import TransitionMap.CommandLine.Argument
import TransitionMap.CommandLine.Given
import TransitionMap.Decimal.Binary64
import TransitionMap.Decimal.Shortest
import TransitionMap.Description
import TransitionMap.Description.Printer
import TransitionMap.Description.Reader
import TransitionMap.Dump
import TransitionMap.Image
import TransitionMap.Image.Checksum
import TransitionMap.Json.Cursor
import TransitionMap.Json.Number
import TransitionMap.Json.Text
import TransitionMap.Json.Value
import TransitionMap.Layout
import TransitionMap.Machine
import TransitionMap.Machine.Minimal
import TransitionMap.Machine.Tabled
import TransitionMap.Main
import TransitionMap.OrderedSet
import TransitionMap.Path
import TransitionMap.Pattern
import TransitionMap.Pattern.ByteTrie
import TransitionMap.Pattern.Expr
import TransitionMap.Pattern.Expr.Flags
import TransitionMap.Pattern.Program
import TransitionMap.Pattern.Syntax
import TransitionMap.Pattern.Syntax.Reader
import TransitionMap.Pattern.Threads
import TransitionMap.Program
import TransitionMap.Program.Failure
import TransitionMap.Program.Folder
import TransitionMap.Program.Host
import TransitionMap.Proofs.Aborting
import TransitionMap.Proofs.Accepting
import TransitionMap.Proofs.Accounting
import TransitionMap.Proofs.Agreeing
import TransitionMap.Proofs.Building
import TransitionMap.Proofs.Columns
import TransitionMap.Proofs.Consuming
import TransitionMap.Proofs.Covering
import TransitionMap.Proofs.Describing
import TransitionMap.Proofs.Exploration
import TransitionMap.Proofs.Filling
import TransitionMap.Proofs.Folders
import TransitionMap.Proofs.Image.Burst
import TransitionMap.Proofs.Image.Collecting
import TransitionMap.Proofs.Image.Damage
import TransitionMap.Proofs.Image.Format
import TransitionMap.Proofs.Invariance
import TransitionMap.Proofs.Json.Rereading
import TransitionMap.Proofs.Json.Yielding
import TransitionMap.Proofs.Listing
import TransitionMap.Proofs.Minimizing
import TransitionMap.Proofs.Pattern.Asserting
import TransitionMap.Proofs.Pattern.Bounding
import TransitionMap.Proofs.Pattern.Characters
import TransitionMap.Proofs.Pattern.Foreseeing
import TransitionMap.Proofs.Pattern.Language
import TransitionMap.Proofs.Pattern.Matching
import TransitionMap.Proofs.Pattern.Meaning
import TransitionMap.Proofs.Pattern.Normalizing
import TransitionMap.Proofs.Pattern.Reading
import TransitionMap.Proofs.Pattern.Running
import TransitionMap.Proofs.Pattern.Settling
import TransitionMap.Proofs.Pattern.Verdicts
import TransitionMap.Proofs.Planning
import TransitionMap.Proofs.Printing
import TransitionMap.Proofs.Pruning
import TransitionMap.Proofs.Quotients
import TransitionMap.Proofs.Recompiling
import TransitionMap.Proofs.Records
import TransitionMap.Proofs.Renaming
import TransitionMap.Proofs.Sorting
import TransitionMap.Proofs.Tabling
import TransitionMap.Proofs.Walks
import TransitionMap.Proofs.Writing
import TransitionMap.Property
import TransitionMap.Property.Age
import TransitionMap.Property.Binary
import TransitionMap.Property.Category
import TransitionMap.Property.Fold
import TransitionMap.Property.Name
import TransitionMap.Property.Script
import TransitionMap.Settings
import TransitionMap.Settings.Reader
import TransitionMap.Source
import TransitionMap.StateIds
import TransitionMap.Store
import TransitionMap.Store.Faulty
import TransitionMap.Store.ImageBuffer
import TransitionMap.Store.Memory
import TransitionMap.Table
import TransitionMap.Text.Blank
import TransitionMap.Text.Quoted
import TransitionMap.Toml.Document
import TransitionMap.Toml.Scalar
import TransitionMap.Toml.Text
import TransitionMap.Toml.Value
import TransitionMap.Proofs.Commands
import TransitionMap.Proofs.Pattern.Continuing
import TransitionMap.Proofs.BreadthFirst
import TransitionMap.Proofs.Resolving
import TransitionMap.Proofs.Scanning
import TransitionMap.Proofs.Image.Mirroring
import TransitionMap.Proofs.Drafting
import TransitionMap.Proofs.Aligning
import TransitionMap.Proofs.Image.Ordering
import TransitionMap.Proofs.Restoring
import TransitionMap.Proofs.Counting
import TransitionMap.Proofs.CommandLine.Choosing
import TransitionMap.Proofs.Toml.Distinct
import TransitionMap.Proofs.Defaulting
import TransitionMap.Proofs.Overriding
