import QueryLexer.Text.Position
import QueryLexer.Text.Invisible
import QueryLexer.Text.Quoted
import QueryLexer.Keyword
import QueryLexer.Operator
import QueryLexer.Punctuation
import QueryLexer.StringLiteral
import QueryLexer.Token
import QueryLexer.Options
import QueryLexer.SyntaxError
import QueryLexer.Trivia
import QueryLexer.Scan
import QueryLexer.Log
import QueryLexer.Pass
import QueryLexer.CommandError
import QueryLexer.Files
import QueryLexer.Files.Tree
import QueryLexer.Sink
import QueryLexer.Command
import QueryLexer.Main
import QueryLexer.Proofs.Slice
import QueryLexer.Proofs.Bytes
import QueryLexer.Proofs.ByteReader
import QueryLexer.Proofs.Body
import QueryLexer.Proofs.Gap
import QueryLexer.Proofs.Tables
import QueryLexer.Proofs.Spelling
import QueryLexer.Proofs.Front
import QueryLexer.Proofs.Run
import QueryLexer.Proofs.Layout
import QueryLexer.Proofs.Tiling
import QueryLexer.Proofs.LongestMatch
import QueryLexer.Proofs.Pieces
import QueryLexer.Proofs.Encoding
import QueryLexer.Proofs.Errors
import QueryLexer.Proofs.Places
import QueryLexer.Proofs.Shift
import QueryLexer.Proofs.Mark
import QueryLexer.Proofs.Lines
import QueryLexer.Proofs.LineEndings
import QueryLexer.Proofs.Cut
import QueryLexer.Proofs.Printing
import QueryLexer.Proofs.Limits
import QueryLexer.Proofs.Classification
import QueryLexer.Proofs.LetterCase
import QueryLexer.Proofs.Lookahead
import QueryLexer.Proofs.Boundaries
import QueryLexer.Proofs.ByteLoops
import QueryLexer.Proofs.Progress
import QueryLexer.Proofs.Rendering
import QueryLexer.Proofs.Agreement
