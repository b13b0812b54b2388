import GoalLexer.Lexer
import GoalLexer.Options.Toml
import GoalLexer.Proofs.CharClasses
import GoalLexer.Proofs.Choice
import GoalLexer.Proofs.CodePoints
import GoalLexer.Proofs.Commands
import GoalLexer.Proofs.Coordinates
import GoalLexer.Proofs.Emissions
import GoalLexer.Proofs.FirstClosing
import GoalLexer.Proofs.GoalDependence
import GoalLexer.Proofs.Keywords
import GoalLexer.Proofs.LineIndex
import GoalLexer.Proofs.Lines
import GoalLexer.Proofs.Locality
import GoalLexer.Proofs.LongestMatch
import GoalLexer.Proofs.LongestNumerals
import GoalLexer.Proofs.Lookups
import GoalLexer.Proofs.Losslessness
import GoalLexer.Proofs.Names
import GoalLexer.Proofs.NestedTemplates
import GoalLexer.Proofs.NumberGrammar
import GoalLexer.Proofs.Operators
import GoalLexer.Proofs.Pieces
import GoalLexer.Proofs.Places
import GoalLexer.Proofs.Positions
import GoalLexer.Proofs.PrefixStability
import GoalLexer.Proofs.Progress
import GoalLexer.Proofs.Pulled
import GoalLexer.Proofs.Reader
import GoalLexer.Proofs.RegexGrammar
import GoalLexer.Proofs.Rejection
import GoalLexer.Proofs.Relexing
import GoalLexer.Proofs.Repetition
import GoalLexer.Proofs.Reports
import GoalLexer.Proofs.Restart
import GoalLexer.Proofs.Safety
import GoalLexer.Proofs.Session
import GoalLexer.Proofs.SignedNumbers
import GoalLexer.Proofs.Snippets
import GoalLexer.Proofs.StrictMode
import GoalLexer.Proofs.TemplateGrammar
import GoalLexer.Proofs.TraceReplay
import GoalLexer.Proofs.Transparency
import GoalLexer.Proofs.Trivia
import GoalLexer.Proofs.TriviaFilter
import GoalLexer.Proofs.Underlining
import GoalLexer.Proofs.Unreading
import GoalLexer.Proofs.Walks
