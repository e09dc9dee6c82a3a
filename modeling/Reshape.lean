import Reshape.Calendar.Instant
import Reshape.Calendar.Reader
import Reshape.Command.Apply
import Reshape.Command.Arguments
import Reshape.Command.Lint
import Reshape.Command.Log
import Reshape.Command.Outcome
import Reshape.Command.Request
import Reshape.Command.Run
import Reshape.Condition
import Reshape.Condition.Builtin
import Reshape.Engine
import Reshape.Entries
import Reshape.Error
import Reshape.FileSystem
import Reshape.Json.Basic
import Reshape.Json.Equality
import Reshape.Json.Keys
import Reshape.Json.Printer
import Reshape.Json.Reader
import Reshape.Json.Shape
import Reshape.JsonSchema.Basic
import Reshape.JsonSchema.Loader
import Reshape.JsonSchema.Number
import Reshape.JsonSchema.Pattern
import Reshape.JsonSchema.Validator
import Reshape.JsonSchema.Violation
import Reshape.Limit
import Reshape.Lint.Document
import Reshape.Lint.Finding
import Reshape.Lint.Report
import Reshape.Location
import Reshape.Main
import Reshape.Number.Binary64
import Reshape.Number.Shortest
import Reshape.Path
import Reshape.Pathname
import Reshape.Proofs.Agreement
import Reshape.Proofs.Command.AllOrNothing
import Reshape.Proofs.Condition.Accumulation
import Reshape.Proofs.Condition.Equality
import Reshape.Proofs.Condition.Filtering
import Reshape.Proofs.Echo
import Reshape.Proofs.Engine.Arrays
import Reshape.Proofs.Engine.Candidates
import Reshape.Proofs.Engine.Defaults
import Reshape.Proofs.Engine.EmptySegments
import Reshape.Proofs.Engine.Failure
import Reshape.Proofs.Engine.Fields
import Reshape.Proofs.Engine.Grouping
import Reshape.Proofs.Engine.InertLimits
import Reshape.Proofs.Engine.KeyCase
import Reshape.Proofs.Engine.KeyExpansion
import Reshape.Proofs.Engine.KeyOrder
import Reshape.Proofs.Engine.LastSurvivor
import Reshape.Proofs.Engine.Merge
import Reshape.Proofs.Engine.Sets
import Reshape.Proofs.Engine.Simulation
import Reshape.Proofs.Engine.Whitelist
import Reshape.Proofs.FileSystem
import Reshape.Proofs.Json.Dedup
import Reshape.Proofs.Json.Equality
import Reshape.Proofs.Json.Keys
import Reshape.Proofs.Json.Printing
import Reshape.Proofs.Json.Reading
import Reshape.Proofs.Json.Texts
import Reshape.Proofs.Lint.Origins
import Reshape.Proofs.Lint.Places
import Reshape.Proofs.Lint.Soundness
import Reshape.Proofs.Lint.Targets
import Reshape.Proofs.Lint.Visits
import Reshape.Proofs.Location
import Reshape.Proofs.Number.Rounding
import Reshape.Proofs.Path.Composition
import Reshape.Proofs.Path.Congruence
import Reshape.Proofs.Path.EmptySegments
import Reshape.Proofs.Path.Failures
import Reshape.Proofs.Path.Misses
import Reshape.Proofs.Path.NullEntries
import Reshape.Proofs.Path.Resolution
import Reshape.Proofs.Rounds
import Reshape.Proofs.Schema.Grammar
import Reshape.Proofs.Schema.Parallel
import Reshape.Proofs.Schema.Reading
import Reshape.Proofs.Schema.Within
import Reshape.Proofs.Sequence
import Reshape.Proofs.Template.Layout
import Reshape.Proofs.Template.Placeholder
import Reshape.Proofs.Template.Substitution
import Reshape.Proofs.Transform.Chains
import Reshape.Proofs.Transform.Equality
import Reshape.Proofs.Transform.Errors
import Reshape.Proofs.Transform.Greatest
import Reshape.Proofs.Transform.Pairs
import Reshape.Proofs.Transform.Selection
import Reshape.Proofs.Unicode.Case
import Reshape.Proofs.WellFormed
import Reshape.Proofs.Written
import Reshape.Regex.Basic
import Reshape.Regex.CharClass
import Reshape.Regex.Compile
import Reshape.Regex.Parser
import Reshape.Regex.Size
import Reshape.Reporting
import Reshape.Schema
import Reshape.Schema.Loader
import Reshape.Source
import Reshape.Template
import Reshape.Text.Digits
import Reshape.Text.Quoted
import Reshape.Text.Split
import Reshape.Text.Utf8
import Reshape.Transform
import Reshape.Transform.Builtin
import Reshape.Unicode.Age
import Reshape.Unicode.Blank
import Reshape.Unicode.Break
import Reshape.Unicode.Case
import Reshape.Unicode.CaseTable
import Reshape.Unicode.Category
import Reshape.Unicode.FoldTable
import Reshape.Unicode.Property
import Reshape.Unicode.Ranges
import Reshape.Unicode.Script
import Reshape.Unicode.ScriptExtension
import Reshape.Yaml.Cursor
import Reshape.Yaml.Error
import Reshape.Yaml.Node
import Reshape.Yaml.Reader
import Reshape.Yaml.Resolution
import Reshape.Yaml.Scalar
import Reshape.Yaml.Tag
import Reshape.Yaml.Token
import Reshape.Proofs.Calendar.Validity
import Reshape.Proofs.Lint.Verdict
import Reshape.Proofs.Transform.Latest
import Reshape.Proofs.Engine.Nulls
import Reshape.Proofs.Lint.DeadConditions
import Reshape.Proofs.Lint.Formats
