import CommandScript.Decimal.Nearest
import CommandScript.Decimal.Shortest
import CommandScript.Decimal.Whole
import CommandScript.Engine.Host
import CommandScript.Engine.Load
import CommandScript.Engine.Machine
import CommandScript.Engine.Perform
import CommandScript.Engine.State
import CommandScript.Event
import CommandScript.Fault
import CommandScript.Main
import CommandScript.Message
import CommandScript.Options
import CommandScript.Pattern
import CommandScript.Pattern.CharSet
import CommandScript.Pattern.Classes
import CommandScript.Pattern.Glob
import CommandScript.Pattern.Property
import CommandScript.Pattern.Property.Age
import CommandScript.Pattern.Property.Basic
import CommandScript.Pattern.Property.Binary
import CommandScript.Pattern.Property.Boundary
import CommandScript.Pattern.Property.CaseChange
import CommandScript.Pattern.Property.Category
import CommandScript.Pattern.Property.Listed
import CommandScript.Pattern.Property.Script
import CommandScript.Pattern.Regex
import CommandScript.Pattern.RegexError
import CommandScript.Pattern.RegexReader
import CommandScript.Pattern.Search
import CommandScript.Pattern.Weight
import CommandScript.Proofs.Chains.Agreement
import CommandScript.Proofs.Chains.Evaluation
import CommandScript.Proofs.Chains.Interpretation
import CommandScript.Proofs.Chains.KeyText
import CommandScript.Proofs.Chains.Quotation
import CommandScript.Proofs.Chains.Scopes
import CommandScript.Proofs.Chains.Spelling
import CommandScript.Proofs.Chains.Table
import CommandScript.Proofs.Compile.Entries
import CommandScript.Proofs.Layout.Extract
import CommandScript.Proofs.Layout.Laid
import CommandScript.Proofs.Layout.Places
import CommandScript.Proofs.Layout.Recovery
import CommandScript.Proofs.Layout.Siblings
import CommandScript.Proofs.Layout.Subtree
import CommandScript.Proofs.Layout.Tree
import CommandScript.Proofs.Layout.WellLaid
import CommandScript.Proofs.Machine.Commands
import CommandScript.Proofs.Machine.Effects
import CommandScript.Proofs.Machine.Floors
import CommandScript.Proofs.Machine.Moves
import CommandScript.Proofs.Machine.Reachable
import CommandScript.Proofs.Machine.Source
import CommandScript.Proofs.Machine.Stacks
import CommandScript.Proofs.Machine.Termination
import CommandScript.Proofs.Machine.Unwinding
import CommandScript.Proofs.Outcome
import CommandScript.Proofs.Rendering.RoundTrip
import CommandScript.Proofs.Scoping.Invariant
import CommandScript.Proofs.Scoping.Lexical
import CommandScript.Proofs.Scoping.Reading
import CommandScript.Proofs.Scoping.Stack
import CommandScript.Proofs.Scoping.Visible
import CommandScript.Proofs.Structured.Acts
import CommandScript.Proofs.Structured.Commands
import CommandScript.Proofs.Structured.Errors
import CommandScript.Proofs.Structured.Loops
import CommandScript.Proofs.Structured.Placed
import CommandScript.Proofs.Structured.Semantics
import CommandScript.Proofs.Structured.Simulation
import CommandScript.Proofs.Structured.Steps
import CommandScript.Proofs.Text.Quoted
import CommandScript.Script
import CommandScript.Script.Command
import CommandScript.Script.Compile
import CommandScript.Script.Instruction
import CommandScript.Script.Layout
import CommandScript.Script.Token
import CommandScript.Settings
import CommandScript.Tag.Base
import CommandScript.Tag.Builtin
import CommandScript.Tag.Chain
import CommandScript.Tag.Reader
import CommandScript.Tag.Syntax
import CommandScript.Tag.Types
import CommandScript.Text.Alphabetic
import CommandScript.Text.Blank
import CommandScript.Text.Case
import CommandScript.Text.CaseTable
import CommandScript.Text.Printable
import CommandScript.Text.Quoted
import CommandScript.Text.Split
import CommandScript.Text.Table
import CommandScript.Value
import CommandScript.Value.Reading
import CommandScript.Proofs.Machine.Nesting
import CommandScript.Proofs.Queues.Accounts
import CommandScript.Proofs.Queues.Operations
import CommandScript.Proofs.Queues.Leaving
import CommandScript.Proofs.Branches.Blocks
import CommandScript.Proofs.Branches.Passages
import CommandScript.Proofs.Branches.Decisions
import CommandScript.Proofs.Branches.Histories
import CommandScript.Proofs.Bodies.Alike
import CommandScript.Proofs.Bodies.Scopes
import CommandScript.Proofs.Bodies.Meaning
import CommandScript.Proofs.Typing.Chains
import CommandScript.Proofs.Typing.Soundness
import CommandScript.Proofs.Typing.Fallbacks
import CommandScript.Proofs.Typing.Initial
import CommandScript.Proofs.Typing.Declared
import CommandScript.Proofs.Typing.Slots
import CommandScript.Proofs.Typing.Commands
import CommandScript.Proofs.Typing.Frames
import CommandScript.Proofs.Typing.Conversions
import CommandScript.Proofs.Machine.Spares
import CommandScript.Proofs.Calls.Turns
import CommandScript.Proofs.Calls.Isolation
import CommandScript.Proofs.Calls.Determinations
import CommandScript.Proofs.Text.Case
import CommandScript.Proofs.Handlers.Changes
import CommandScript.Proofs.Handlers.Scripts
import CommandScript.Proofs.Handlers.Logs
import CommandScript.Proofs.Handlers.Dispatch
import CommandScript.Proofs.Machine.Accords
import CommandScript.Proofs.Machine.Messages
import CommandScript.Proofs.Machine.Failures
import CommandScript.Proofs.Queues.Solitary
import CommandScript.Proofs.Queues.Hosted
import CommandScript.Proofs.Queues.Commuting
import CommandScript.Proofs.Traces.Positions
import CommandScript.Proofs.Traces.Citations
import CommandScript.Proofs.Traces.Uncaught
import CommandScript.Proofs.Guards.Tables
import CommandScript.Proofs.Guards.Faults
import CommandScript.Proofs.Guards.Grounded
import CommandScript.Proofs.Indices.Places
import CommandScript.Proofs.Indices.Commands
import CommandScript.Proofs.Indices.Steps
import CommandScript.Proofs.Indices.Compile
import CommandScript.Proofs.Indices.Scanning
import CommandScript.Proofs.Indices.Cutting
import CommandScript.Proofs.Indices.Arguments
import CommandScript.Proofs.Indices.Parsing
import CommandScript.Proofs.Indices.Access
import CommandScript.Proofs.Glob.Classes
import CommandScript.Proofs.Glob.Matching
import CommandScript.Proofs.Glob.LetterCase
import CommandScript.Proofs.Tag.Delimiters
import CommandScript.Proofs.Tag.Pieces
import CommandScript.Proofs.Tag.Keys
import CommandScript.Proofs.Tag.Readings
import CommandScript.Proofs.Tag.Sources
import CommandScript.Proofs.Tag.Spacing
import CommandScript.Proofs.Tag.Rereading
import CommandScript.Proofs.Tag.Brackets
import CommandScript.Proofs.Lexing.Lexemes
import CommandScript.Proofs.Lexing.Statements
import CommandScript.Proofs.Lexing.Lines
import CommandScript.Proofs.Lexing.Quoting
import CommandScript.Proofs.Machine.Gotos
import CommandScript.Proofs.Text.Bytes
import CommandScript.Proofs.Chains.Operations
import CommandScript.Proofs.Text.Containment
import CommandScript.Proofs.Numbers.Digits
import CommandScript.Proofs.Numbers.Arithmetic
import CommandScript.Proofs.Numbers.Rounding
import CommandScript.Proofs.Numbers.Floats
import CommandScript.Proofs.Numbers.Intervals
import CommandScript.Proofs.Numbers.Shortest
import CommandScript.Proofs.Numbers.Numerals
import CommandScript.Proofs.Numbers.Comparison
import CommandScript.Proofs.Text.Plain
import CommandScript.Proofs.Names.Renaming
import CommandScript.Proofs.Names.Running
import CommandScript.Proofs.Machine.Setting
import CommandScript.Proofs.Names.Given
import CommandScript.Proofs.Numbers.Literals
import CommandScript.Proofs.Chains.Inherited
import CommandScript.Proofs.Startup
import CommandScript.Proofs.Machine.Files
import CommandScript.Proofs.Types.Parents
import CommandScript.Proofs.Chains.UnknownSubTags
import CommandScript.Proofs.Regexes.CaseCounts
