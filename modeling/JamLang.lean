import JamLang.Command
import JamLang.Cursor
import JamLang.Main
import JamLang.Proofs.Descent.Bound
import JamLang.Proofs.Descent.Completeness
import JamLang.Proofs.Dialogue.Stream
import JamLang.Proofs.Dialogue.View
import JamLang.Proofs.Lexer.Appending
import JamLang.Proofs.Lexer.LongestMatch
import JamLang.Proofs.Lexer.Words
import JamLang.Proofs.Program.Acceptance
import JamLang.Proofs.Program.Accounting
import JamLang.Proofs.Program.EarliestFault
import JamLang.Proofs.Program.Layout
import JamLang.Proofs.Program.LazyLexing
import JamLang.Proofs.Program.NodeTable
import JamLang.Proofs.Program.Outcome
import JamLang.Proofs.Program.Parentheses
import JamLang.Proofs.Session.Evaluation
import JamLang.Proofs.Session.Submission
import JamLang.Proofs.Source.Printing
import JamLang.Proofs.Source.RoundTrip
import JamLang.Proofs.Lexer.Lines
import JamLang.Proofs.Lexer.Positions
import JamLang.Proofs.Program.Lines
import JamLang.Proofs.Program.Positions
import JamLang.Proofs.Session.Composition
import JamLang.Proofs.Json.Escape
import JamLang.Proofs.Json.Rendering
import JamLang.Proofs.Tree.Document
import JamLang.Proofs.Program.Expectations
import JamLang.Proofs.Program.Relabeling
import JamLang.Proofs.Routine.Locality
import JamLang.Proofs.Stream.Calls
import JamLang.Proofs.Cursor.Calls
import JamLang.Proofs.Lexer.LineEnds
import JamLang.Proofs.Text.Utf8
import JamLang.Proofs.Program.LineEnds
import JamLang.Proofs.Command.TokenList
import JamLang.Proofs.FileSystem.Writing
import JamLang.Proofs.Command.AllOrNothing
import JamLang.Proofs.Command.Arguments
