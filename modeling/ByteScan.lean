import ByteScan.Automaton.Basic
import ByteScan.Automaton.Building
import ByteScan.Automaton.Table
import ByteScan.Automaton.Trie
import ByteScan.Binary64.Basic
import ByteScan.Binary64.Reading
import ByteScan.Binary64.Writing
import ByteScan.Byte
import ByteScan.CommandLine.Arguments
import ByteScan.CommandLine.Compiling
import ByteScan.CommandLine.Description
import ByteScan.CommandLine.Invocation
import ByteScan.CommandLine.LogLevel
import ByteScan.CommandLine.Outcome
import ByteScan.CommandLine.Program
import ByteScan.CommandLine.Scanning
import ByteScan.Condition.Basic
import ByteScan.Condition.Code
import ByteScan.Condition.Instruction
import ByteScan.Condition.Value
import ByteScan.Error
import ByteScan.FileTree
import ByteScan.Image.Elf
import ByteScan.Image.ElfTables
import ByteScan.Image.EntryPoint
import ByteScan.Image.Pe
import ByteScan.Image.PeTables
import ByteScan.Image.Words
import ByteScan.Json.Basic
import ByteScan.Json.Decoder
import ByteScan.Json.Number
import ByteScan.Json.Reader
import ByteScan.Json.Writer
import ByteScan.Length
import ByteScan.LittleEndian
import ByteScan.Main
import ByteScan.Pattern.Atom
import ByteScan.Pattern.Basic
import ByteScan.Pattern.Hex
import ByteScan.Pattern.Occurrence
import ByteScan.Process.Mapping
import ByteScan.Process.Running
import ByteScan.Proofs.Items
import ByteScan.Proofs.Automaton.Placing
import ByteScan.Proofs.Automaton.Positions
import ByteScan.Proofs.Automaton.Words
import ByteScan.Regex.Basic
import ByteScan.Regex.ByteRuns
import ByteScan.Regex.ByteSet
import ByteScan.Regex.Expression
import ByteScan.Regex.Footprint
import ByteScan.Regex.Layout
import ByteScan.Regex.Matcher
import ByteScan.Regex.Meaning
import ByteScan.Regex.Parser
import ByteScan.Regex.Program
import ByteScan.Regex.Syntax
import ByteScan.RuleFile.Fault
import ByteScan.RuleFile.Reader
import ByteScan.RuleFile.Stored
import ByteScan.RuleFile.Writer
import ByteScan.RuleSet.Basic
import ByteScan.RuleSet.Compilation
import ByteScan.RuleSet.Declaration
import ByteScan.RuleSet.DeclarationJson
import ByteScan.RuleSet.External
import ByteScan.Scan.Arena
import ByteScan.Scan.BlockScan
import ByteScan.Scan.Clock
import ByteScan.Scan.Confirmation
import ByteScan.Scan.Context
import ByteScan.Scan.Counters
import ByteScan.Scan.Evaluation
import ByteScan.Scan.Match
import ByteScan.Scan.Run
import ByteScan.Scan.Slots
import ByteScan.Settings
import ByteScan.Text.Age
import ByteScan.Text.Blank
import ByteScan.Text.Boundary
import ByteScan.Text.Case
import ByteScan.Text.Category
import ByteScan.Text.Escaped
import ByteScan.Text.Integer
import ByteScan.Text.Property
import ByteScan.Text.PropertyName
import ByteScan.Text.Quantity
import ByteScan.Text.ScalarRanges
import ByteScan.Text.Script
import ByteScan.Text.Utf8
import ByteScan.Proofs.Automaton.Cells
import ByteScan.Proofs.Automaton.Candidates
import ByteScan.Proofs.Automaton.Survey
import ByteScan.Proofs.Automaton.Checked
import ByteScan.Proofs.Automaton.Search
import ByteScan.Proofs.Automaton.Counting
import ByteScan.Proofs.Automaton.Numbered
import ByteScan.Proofs.Automaton.Levels
import ByteScan.Proofs.Automaton.Links
import ByteScan.Proofs.Automaton.Settling
import ByteScan.Proofs.Automaton.Packing
import ByteScan.Proofs.Pattern.Standing
import ByteScan.Proofs.Pattern.Covering
import ByteScan.Proofs.RuleSet.Backtrack
import ByteScan.Proofs.Scan.Matches
import ByteScan.Proofs.Scan.Recording
import ByteScan.Proofs.Scan.Walking
import ByteScan.Proofs.RuleSet.Compiling
import ByteScan.Proofs.Scan.Exactness
import ByteScan.Proofs.Condition.Decoding
import ByteScan.Proofs.Condition.Meaning
import ByteScan.Proofs.RuleSet.Numbering
import ByteScan.Proofs.Scan.Following
import ByteScan.Proofs.Scan.Valuation
import ByteScan.Proofs.Scan.Verdicts
import ByteScan.Proofs.Regex.Openings
import ByteScan.Proofs.Regex.ByteSets
import ByteScan.Proofs.Regex.Remainders
import ByteScan.Proofs.Regex.Prefix
import ByteScan.Proofs.Scan.Prefixes
import ByteScan.Proofs.Scan.Instructions
import ByteScan.Proofs.Scan.Keeping
import ByteScan.Proofs.Scan.Repeats
import ByteScan.Proofs.Scan.Succeeding
import ByteScan.Proofs.Scan.Announcing
import ByteScan.Proofs.Automaton.Passing
import ByteScan.Proofs.RuleFile.Records
import ByteScan.Proofs.RuleFile.RoundTrip
import ByteScan.Proofs.Strict.Reading
import ByteScan.Proofs.Strict.Searching
import ByteScan.Proofs.Strict.Loading
import ByteScan.Proofs.Strict.Acting
import ByteScan.Proofs.Strict.Matching
import ByteScan.Proofs.Strict.Scanning
import ByteScan.Proofs.Strict.Decoding
import ByteScan.Proofs.Strict.Evaluating
import ByteScan.Proofs.Strict.Running
import ByteScan.Proofs.RuleFile.Extensions
import ByteScan.Proofs.RuleFile.Restoring
import ByteScan.Proofs.Scan.Blocks
import ByteScan.Proofs.Scan.Shuffling
import ByteScan.Proofs.Chosen
import ByteScan.Proofs.Automaton.Sharing
import ByteScan.Proofs.RuleSet.Selecting
import ByteScan.Proofs.RuleSet.Restricting
import ByteScan.Proofs.RuleSet.Excerpts
import ByteScan.Proofs.Scan.Echoing
import ByteScan.Proofs.Scan.Computing
import ByteScan.Proofs.Scan.Agreeing
import ByteScan.Proofs.Scan.Namespaces
import ByteScan.Proofs.Scan.Threads
import ByteScan.Proofs.Scan.Guards
import ByteScan.Proofs.Scan.Tracking
import ByteScan.Proofs.Scan.Truncating
import ByteScan.Proofs.Scan.Retiming
import ByteScan.Proofs.Scan.Replaying
import ByteScan.Proofs.Scan.Faring
import ByteScan.Proofs.Scan.Overflowing
import ByteScan.Proofs.RuleSet.Accepting
import ByteScan.Proofs.RuleSet.Ordering
import ByteScan.Proofs.Unrepeated
import ByteScan.Proofs.Scan.Redefining
import ByteScan.Proofs.Automaton.Safety
import ByteScan.Proofs.Scan.Chunks
import ByteScan.Proofs.Scan.Ledgers
import ByteScan.Proofs.Scan.Chaining
import ByteScan.Proofs.Scan.Bookkeeping
import ByteScan.Proofs.Scan.Tidying
import ByteScan.Proofs.Scan.Restarting
import ByteScan.Proofs.Text.Numerals
import ByteScan.Proofs.Pattern.Spelling
import ByteScan.Proofs.Pattern.Growing
import ByteScan.Proofs.Scan.Charging
import ByteScan.Proofs.Image.EntryPoints
import ByteScan.Proofs.Text.Escaping
import ByteScan.Proofs.Text.Fields
import ByteScan.Proofs.Process.Listing
import ByteScan.Proofs.RuleSet.Overriding
