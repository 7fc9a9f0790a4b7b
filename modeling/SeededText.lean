import SeededText.Arithmetic.Evaluation
import SeededText.Arithmetic.Expr
import SeededText.Arithmetic.Lexer
import SeededText.Arithmetic.Parser
import SeededText.Choice.Synchronizer
import SeededText.Choice.Synchronizers
import SeededText.Data.Reader
import SeededText.Data.Value
import SeededText.Engine.Basic
import SeededText.Engine.Build
import SeededText.Engine.Hooks
import SeededText.Engine.Run
import SeededText.Engine.Settings
import SeededText.Machine.Activation
import SeededText.Machine.Comparison
import SeededText.Machine.Construct
import SeededText.Machine.Discipline
import SeededText.Machine.Escape
import SeededText.Machine.Fault
import SeededText.Machine.Invariance
import SeededText.Machine.Operation
import SeededText.Machine.Repeater
import SeededText.Machine.Replacement
import SeededText.Machine.Run
import SeededText.Machine.Settlement
import SeededText.Machine.Step
import SeededText.Machine.Store
import SeededText.Machine.Subroutine
import SeededText.Machine.Tag
import SeededText.Machine.Task
import SeededText.Machine.Termination
import SeededText.Machine.Workspace
import SeededText.Main
import SeededText.Number.Binary64
import SeededText.Number.Numeral
import SeededText.Number.Reading
import SeededText.Number.Shortest
import SeededText.Output.Capitalization
import SeededText.Output.NumberFormat
import SeededText.Output.Sink
import SeededText.Pattern.Lexer
import SeededText.Pattern.Scope
import SeededText.Pattern.Token
import SeededText.Proofs.ArgumentPlans
import SeededText.Proofs.BindingsInForce
import SeededText.Proofs.Blocks
import SeededText.Proofs.Brackets
import SeededText.Proofs.Breaks
import SeededText.Proofs.BrokenLexemes
import SeededText.Proofs.CapitalizationHistory
import SeededText.Proofs.CarrierTies
import SeededText.Proofs.ChannelCounts
import SeededText.Proofs.ChannelScopes
import SeededText.Proofs.ChoiceRanges
import SeededText.Proofs.ChoiceStreams
import SeededText.Proofs.Choices
import SeededText.Proofs.CodeOrigins
import SeededText.Proofs.CodeRanges
import SeededText.Proofs.CompleteLookups
import SeededText.Proofs.ComponentOrder
import SeededText.Proofs.Constructs
import SeededText.Proofs.Containment
import SeededText.Proofs.Dealing
import SeededText.Proofs.Decks
import SeededText.Proofs.DigitGroups
import SeededText.Proofs.Divergence
import SeededText.Proofs.ElseBranches
import SeededText.Proofs.EscapeValues
import SeededText.Proofs.Evaluation
import SeededText.Proofs.Exhaustion
import SeededText.Proofs.FaultPlaces
import SeededText.Proofs.Gathering
import SeededText.Proofs.Growth
import SeededText.Proofs.Inheritance
import SeededText.Proofs.Isolation
import SeededText.Proofs.Iteration
import SeededText.Proofs.Layout
import SeededText.Proofs.Lexemes
import SeededText.Proofs.MatchRanges
import SeededText.Proofs.MergedDictionaries
import SeededText.Proofs.Merging
import SeededText.Proofs.NumberWords
import SeededText.Proofs.OpenBlocks
import SeededText.Proofs.Partitions
import SeededText.Proofs.PassedArguments
import SeededText.Proofs.Pieces
import SeededText.Proofs.PlainSources
import SeededText.Proofs.QueryFilters
import SeededText.Proofs.QueryGrammar
import SeededText.Proofs.QueryPlaces
import SeededText.Proofs.QueryRanges
import SeededText.Proofs.QueryReading
import SeededText.Proofs.ReadingFaults
import SeededText.Proofs.Realization
import SeededText.Proofs.Refinement
import SeededText.Proofs.RenamedEvaluation
import SeededText.Proofs.RenamedOperations
import SeededText.Proofs.RenamedReading
import SeededText.Proofs.RegexLiterals
import SeededText.Proofs.Renaming
import SeededText.Proofs.Replacing
import SeededText.Proofs.Requests
import SeededText.Proofs.Rereading
import SeededText.Proofs.RhymeTails
import SeededText.Proofs.Runs
import SeededText.Proofs.Scopes
import SeededText.Proofs.Selections
import SeededText.Proofs.SelectionsInPlace
import SeededText.Proofs.SentenceStarts
import SeededText.Proofs.Separators
import SeededText.Proofs.Sequencing
import SeededText.Proofs.Sinks
import SeededText.Proofs.StackDiscipline
import SeededText.Proofs.StepFaults
import SeededText.Proofs.StrayTokens
import SeededText.Proofs.StreamIndependence
import SeededText.Proofs.TableNames
import SeededText.Proofs.TagFaults
import SeededText.Proofs.TokenOrigins
import SeededText.Proofs.Transparency
import SeededText.Proofs.UsableNames
import SeededText.Proofs.Verbatim
import SeededText.Proofs.VerbatimArguments
import SeededText.Proofs.Words
import SeededText.Proofs.WritePaths
import SeededText.Proofs.WrittenExpressions
import SeededText.Proofs.WrittenOutput
import SeededText.Random.Generator
import SeededText.Random.NameSeed
import SeededText.Random.WordStream
import SeededText.Regex.Bracketed
import SeededText.Regex.CharClass
import SeededText.Regex.Escape
import SeededText.Regex.Expr
import SeededText.Regex.Flags
import SeededText.Regex.Matcher
import SeededText.Regex.Parser
import SeededText.Regex.Program
import SeededText.Table
import SeededText.Text.Unicode.CaseFolding
import SeededText.Text.Unicode.CaseImages
import SeededText.Text.Unicode.Casing
import SeededText.Text.Unicode.Categories
import SeededText.Text.Unicode.Classes
import SeededText.Text.Unicode.Letters
import SeededText.Text.Unicode.Properties
import SeededText.Text.Unicode.Scripts
import SeededText.Text.Unicode.Table
import SeededText.Tools.Console
import SeededText.Tools.DictionaryLint
import SeededText.Tools.Files
import SeededText.Tools.Options
import SeededText.Tools.Path
import SeededText.Tools.Report
import SeededText.Vocabulary.Carrier
import SeededText.Vocabulary.Dictionary
import SeededText.Vocabulary.Query
import SeededText.Vocabulary.QueryParser
import SeededText.Vocabulary.Samples
import SeededText.Vocabulary.Sound
