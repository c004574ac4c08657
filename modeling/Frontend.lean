import Frontend.Lexeme.Session
import Frontend.Program.Descent
import Frontend.Program.Dump
import Frontend.Program.Grammar
import Frontend.Program.Node
import Frontend.Program.Printer
import Frontend.Program.Session
import Frontend.Report.Comparison
import Frontend.Report.Validation
import Frontend.Version
import Frontend.Proofs.Transcript
import Frontend.Proofs.Program.Moves
import Frontend.Proofs.Program.Runs
import Frontend.Proofs.Program.Marks
import Frontend.Proofs.Program.Prefix
import Frontend.Proofs.Program.Acceptance
import Frontend.Proofs.Program.Concatenation
import Frontend.Proofs.Program.Viability
import Frontend.Proofs.Program.Expectations
import Frontend.Proofs.Program.RoundTrip
import Frontend.Proofs.Program.Placement
import Frontend.Proofs.Program.Layout
import Frontend.Proofs.Program.Agreement
import Frontend.Proofs.Lexeme.Tiling
import Frontend.Proofs.Lexeme.LineBreaks
import Frontend.Proofs.Lexeme.Blanks
import Frontend.Proofs.Lexeme.Cursors
import Frontend.Proofs.Lexeme.Beginnings
import Frontend.Proofs.Lexeme.Relocation
import Frontend.Proofs.Lexeme.Lines
import Frontend.Proofs.Lexeme.Offences
import Frontend.Proofs.Diagnostic.Fit
import Frontend.Proofs.Diagnostic.Legible
import Frontend.Proofs.Lexeme.Sessions
import Frontend.Proofs.Lexeme.Interleaving
import Frontend.Proofs.Lexeme.Reader
import Frontend.Proofs.Diagnostic.Numerals
import Frontend.Proofs.Program.Sessions
import Frontend.Proofs.Diagnostic.Rendering
import Frontend.Proofs.Program.Descent
import Frontend.Proofs.Program.Reports
