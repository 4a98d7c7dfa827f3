import Hyperparams.Arguments
import Hyperparams.Builtin.Constructors
import Hyperparams.Builtin.Object
import Hyperparams.Builtin.Training
import Hyperparams.Decimal.Digits
import Hyperparams.Decimal.Layout
import Hyperparams.Decimal.Literal
import Hyperparams.Decimal.Nearest
import Hyperparams.Decimal.Shortest
import Hyperparams.Files.Error
import Hyperparams.Files.FileSystem
import Hyperparams.Files.Path
import Hyperparams.Files.Tree
import Hyperparams.Json.Basic
import Hyperparams.Json.Printer
import Hyperparams.Json.Reader
import Hyperparams.Json.Token
import Hyperparams.Kwargs
import Hyperparams.Limits
import Hyperparams.Log.Code
import Hyperparams.Log.Directives
import Hyperparams.Log.Event
import Hyperparams.Log.Level
import Hyperparams.Log.Service
import Hyperparams.Log.Setup
import Hyperparams.Log.Traced
import Hyperparams.Lowering
import Hyperparams.Main
import Hyperparams.Object.Argument
import Hyperparams.Object.CallArgs
import Hyperparams.Object.Collection
import Hyperparams.Object.Materialize
import Hyperparams.Object.Parameter
import Hyperparams.Object.Registry
import Hyperparams.Partition
import Hyperparams.Pattern.Basic
import Hyperparams.Pattern.Bracket
import Hyperparams.Pattern.CharSet
import Hyperparams.Pattern.Cursor
import Hyperparams.Pattern.Escape
import Hyperparams.Pattern.Expression
import Hyperparams.Pattern.Fault
import Hyperparams.Pattern.Meaning
import Hyperparams.Pattern.Named
import Hyperparams.Pattern.Reader
import Hyperparams.Pattern.Weight
import Hyperparams.Pattern.Written
import Hyperparams.Preferences
import Hyperparams.Preferences.File
import Hyperparams.Program.Host
import Hyperparams.Program.Lower
import Hyperparams.Program.Options
import Hyperparams.Program.Train
import Hyperparams.Protocol.Config
import Hyperparams.Protocol.Directories
import Hyperparams.Sorted
import Hyperparams.Text.Blank
import Hyperparams.Text.Boundary
import Hyperparams.Text.CaseFold
import Hyperparams.Text.Category
import Hyperparams.Text.Hexadecimal
import Hyperparams.Text.Pieces
import Hyperparams.Text.Printable
import Hyperparams.Text.Property
import Hyperparams.Text.Quoted
import Hyperparams.Text.Runs
import Hyperparams.Text.Script
import Hyperparams.Text.UpperCase
import Hyperparams.Tokenizer
import Hyperparams.Toml.Basic
import Hyperparams.Toml.Reader
import Hyperparams.Tree.Encoding
import Hyperparams.Tree.Error
import Hyperparams.Tree.Forest
import Hyperparams.Tree.Node
import Hyperparams.Tree.Slot
import Hyperparams.Value.Basic
import Hyperparams.Value.Inference
import Hyperparams.Proofs.Keys
import Hyperparams.Proofs.Tables
import Hyperparams.Proofs.Tree.Nodes
import Hyperparams.Proofs.Tree.Filling
import Hyperparams.Proofs.Outcomes
import Hyperparams.Proofs.Tree.Densifying
import Hyperparams.Proofs.Tree.Entries
import Hyperparams.Proofs.Tree.Declaring
import Hyperparams.Proofs.Tree.Placing
import Hyperparams.Proofs.Tree.Attaching
import Hyperparams.Proofs.Tree.Regrouping
import Hyperparams.Proofs.Tree.Acceptance
import Hyperparams.Proofs.Tokens
import Hyperparams.Proofs.Tokenizing
import Hyperparams.Proofs.Partition
import Hyperparams.Proofs.Tree.Determined
import Hyperparams.Proofs.Tree.Roots
import Hyperparams.Proofs.Tree.Below
import Hyperparams.Proofs.Tree.Relocating
import Hyperparams.Proofs.Object.Renaming
import Hyperparams.Proofs.Object.Direct
import Hyperparams.Proofs.Rearranging
import Hyperparams.Proofs.Object.Calls
import Hyperparams.Proofs.Doubles
import Hyperparams.Proofs.Documents
import Hyperparams.Proofs.Tree.Positions
import Hyperparams.Proofs.Tree.Encoded
import Hyperparams.Proofs.Tree.Decoded
import Hyperparams.Proofs.Tree.Rereading
import Hyperparams.Proofs.Tree.RoundTrip
import Hyperparams.Proofs.Lowering
import Hyperparams.Proofs.Tree.Separation
import Hyperparams.Proofs.Object.Registered
import Hyperparams.Proofs.Object.Held
import Hyperparams.Proofs.Object.Requests
import Hyperparams.Proofs.Keywords
import Hyperparams.Proofs.Object.Collections
import Hyperparams.Proofs.Object.Identities
import Hyperparams.Proofs.PairsBelow
import Hyperparams.Proofs.Entrypoint
import Hyperparams.Proofs.Gaps
import Hyperparams.Proofs.Reporting
import Hyperparams.Proofs.Directories
import Hyperparams.Proofs.Tree.Written
import Hyperparams.Proofs.Object.Callbacks
import Hyperparams.Proofs.Preferences
import Hyperparams.Proofs.Decimal.Literals
import Hyperparams.Proofs.Json.Lexemes
import Hyperparams.Proofs.Json.Numbers
import Hyperparams.Proofs.Json.Reading
import Hyperparams.Proofs.Json.Rereading
import Hyperparams.Proofs.Inference
import Hyperparams.Proofs.ClassNames
import Hyperparams.Proofs.Decimal.Rounding
import Hyperparams.Proofs.Decimal.Rereading
import Hyperparams.Proofs.Reinference
import Hyperparams.Proofs.Object.Refusals
import Hyperparams.Proofs.IllFormed
import Hyperparams.Proofs.Object.Signatures
import Hyperparams.Proofs.Tree.Defects
import Hyperparams.Proofs.Resuming
import Hyperparams.Proofs.Tree.WellFormed
import Hyperparams.Proofs.Object.Typed
import Hyperparams.Proofs.Insertions
import Hyperparams.Proofs.ClassKeys
import Hyperparams.Proofs.ByteOrder
import Hyperparams.Proofs.Events
import Hyperparams.Proofs.Reserved
import Hyperparams.Proofs.Truncation
import Hyperparams.Proofs.Memory
import Hyperparams.Proofs.Tree.Slots
import Hyperparams.Proofs.PlainLines
