import UsageGrammar.Argv
import UsageGrammar.Bindings
import UsageGrammar.Configuration
import UsageGrammar.Data
import UsageGrammar.Decoding
import UsageGrammar.Encoding
import UsageGrammar.Error
import UsageGrammar.Expression
import UsageGrammar.Expression.Words
import UsageGrammar.File
import UsageGrammar.Flag
import UsageGrammar.Grammar
import UsageGrammar.Grammar.Match
import UsageGrammar.Grammar.Matcher
import UsageGrammar.Grammar.OfPattern
import UsageGrammar.Invocation
import UsageGrammar.Invocation.Outcome
import UsageGrammar.Json.Token
import UsageGrammar.Json.Tree
import UsageGrammar.Main
import UsageGrammar.OptionSpec
import UsageGrammar.Output
import UsageGrammar.Pattern
import UsageGrammar.Pattern.Occurrences
import UsageGrammar.Pattern.Shortcut
import UsageGrammar.Proofs.Abbreviations
import UsageGrammar.Proofs.Accounting
import UsageGrammar.Proofs.Alternation
import UsageGrammar.Proofs.BareConsumption
import UsageGrammar.Proofs.BindingTypes
import UsageGrammar.Proofs.BoundValues
import UsageGrammar.Proofs.Branches
import UsageGrammar.Proofs.Compilation
import UsageGrammar.Proofs.Completion
import UsageGrammar.Proofs.Consumption
import UsageGrammar.Proofs.Continuation
import UsageGrammar.Proofs.Declarations
import UsageGrammar.Proofs.DefaultValues
import UsageGrammar.Proofs.Discovery
import UsageGrammar.Proofs.EntryLines
import UsageGrammar.Proofs.EntryParts
import UsageGrammar.Proofs.Fitting
import UsageGrammar.Proofs.FlagExpressions
import UsageGrammar.Proofs.FlatLines
import UsageGrammar.Proofs.FollowingWords
import UsageGrammar.Proofs.InertTokens
import UsageGrammar.Proofs.Interleaving
import UsageGrammar.Proofs.JoinedExpressions
import UsageGrammar.Proofs.JsonReading
import UsageGrammar.Proofs.JsonTokens
import UsageGrammar.Proofs.LabelSearch
import UsageGrammar.Proofs.LeafKinds
import UsageGrammar.Proofs.Lexemes
import UsageGrammar.Proofs.LowercaseImages
import UsageGrammar.Proofs.MatchFrame
import UsageGrammar.Proofs.MatchingWays
import UsageGrammar.Proofs.Nesting
import UsageGrammar.Proofs.OccurrenceBounds
import UsageGrammar.Proofs.OneLineNames
import UsageGrammar.Proofs.OptionsEnd
import UsageGrammar.Proofs.Placeholders
import UsageGrammar.Proofs.PlainNames
import UsageGrammar.Proofs.PrintedWords
import UsageGrammar.Proofs.Reading
import UsageGrammar.Proofs.Refusal
import UsageGrammar.Proofs.RegistryGrowth
import UsageGrammar.Proofs.Regrouping
import UsageGrammar.Proofs.RenderedValues
import UsageGrammar.Proofs.Renumbering
import UsageGrammar.Proofs.ResponseReading
import UsageGrammar.Proofs.RoundTrip
import UsageGrammar.Proofs.SectionRanges
import UsageGrammar.Proofs.ShortcutContents
import UsageGrammar.Proofs.ShortcutOrder
import UsageGrammar.Proofs.Simulation
import UsageGrammar.Proofs.SlotTable
import UsageGrammar.Proofs.Spellings
import UsageGrammar.Proofs.TableLines
import UsageGrammar.Proofs.TextLines
import UsageGrammar.Proofs.Tokenization
import UsageGrammar.Proofs.Trace
import UsageGrammar.Proofs.Trimming
import UsageGrammar.Proofs.Unification
import UsageGrammar.Proofs.UsageAlternatives
import UsageGrammar.Proofs.WordSplitting
import UsageGrammar.Proofs.WrittenNumbers
import UsageGrammar.Registry
import UsageGrammar.Registry.Entry
import UsageGrammar.Report
import UsageGrammar.Response
import UsageGrammar.Section
import UsageGrammar.Table
import UsageGrammar.Text.Blank
import UsageGrammar.Text.Digit
import UsageGrammar.Text.Letter
import UsageGrammar.Text.Lowercase
import UsageGrammar.Text.Printable
import UsageGrammar.Text.Quoted
import UsageGrammar.Text.Shell
import UsageGrammar.Token
import UsageGrammar.Usage
import UsageGrammar.Value
import UsageGrammar.Yaml.Cursor
import UsageGrammar.Yaml.Layout
import UsageGrammar.Yaml.Node
import UsageGrammar.Yaml.Plain
import UsageGrammar.Yaml.Scalar
import UsageGrammar.Yaml.Scanner
import UsageGrammar.Yaml.Token
