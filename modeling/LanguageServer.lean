import LanguageServer.Text
import LanguageServer.Text.Units
import LanguageServer.Text.Extender
import LanguageServer.Text.Unprintable
import LanguageServer.Text.Table
import LanguageServer.Text.Mark
import LanguageServer.Text.Direction
import LanguageServer.Text.Joining
import LanguageServer.Text.Normal.Order
import LanguageServer.Text.Normal.Compositions
import LanguageServer.Text.Normal
import LanguageServer.Position
import LanguageServer.OrderedSet
import LanguageServer.Token
import LanguageServer.Vocabulary
import LanguageServer.Lexeme
import LanguageServer.Lexeme.Grammar
import LanguageServer.Scanner
import LanguageServer.Scanner.Cursor
import LanguageServer.Token.Delta
import LanguageServer.Json
import LanguageServer.Json.Reader
import LanguageServer.Json.Printer
import LanguageServer.Uri.Punycode
import LanguageServer.Uri.Name.Forms
import LanguageServer.Uri.Name
import LanguageServer.Uri.Host
import LanguageServer.Uri
import LanguageServer.Uri.Reader
import LanguageServer.Json.Shape
import LanguageServer.Json.Forms
import LanguageServer.Document
import LanguageServer.Document.Buffer
import LanguageServer.Diagnostic
import LanguageServer.Completion.Item
import LanguageServer.Completion
import LanguageServer.Startup.Failure
import LanguageServer.Vocabulary.File
import LanguageServer.Startup.Command
import LanguageServer.Startup
import LanguageServer.Server.Store
import LanguageServer.Server
import LanguageServer.Message
import LanguageServer.Message.Requests
import LanguageServer.Message.Capabilities
import LanguageServer.Message.Method
import LanguageServer.Message.Params
import LanguageServer.Message.Forms
import LanguageServer.Session
import LanguageServer.Frame
import LanguageServer.Main
import LanguageServer.Proofs.Position.Walk
import LanguageServer.Proofs.Position.Advance
import LanguageServer.Proofs.Lexeme.Characters
import LanguageServer.Proofs.Lexeme.Cover
import LanguageServer.Proofs.Lexeme.Factoring
import LanguageServer.Proofs.Token.Grammar
import LanguageServer.Proofs.Text.Cutting
import LanguageServer.Proofs.Text.Bytes
import LanguageServer.Proofs.Text.Search
import LanguageServer.Proofs.Document.Offset
import LanguageServer.Proofs.Document.Buffer
import LanguageServer.Proofs.Document.Refinement
import LanguageServer.Proofs.Document.Breaks
import LanguageServer.Proofs.Document.Unified
import LanguageServer.Proofs.Document.Braces
import LanguageServer.Proofs.Document.Greatest
import LanguageServer.Proofs.Document.Replacement
import LanguageServer.Proofs.Token.Span
import LanguageServer.Proofs.Token.Order
import LanguageServer.Proofs.Token.Words
import LanguageServer.Proofs.Token.Stability
import LanguageServer.Proofs.Token.Restart
import LanguageServer.Proofs.Scanner.Stop
import LanguageServer.Proofs.Scanner.InPlace
import LanguageServer.Proofs.Token.Relabel
import LanguageServer.Proofs.Token.Wire
import LanguageServer.Proofs.Token.Reprint
import LanguageServer.Proofs.Server.Replay
import LanguageServer.Proofs.Session.Hearing
import LanguageServer.Proofs.Session.Asking
import LanguageServer.Proofs.Session.Report
import LanguageServer.Proofs.Startup.Arguments
import LanguageServer.Proofs.Vocabulary.Entries
import LanguageServer.Proofs.Completion.Listed
import LanguageServer.Proofs.Completion.Highlighted
import LanguageServer.Proofs.Vocabulary.Members
import LanguageServer.Proofs.Session.Registration
import LanguageServer.Proofs.Session.Support
