import MiniBasic.Grammar.Layered
import MiniBasic.Lexical.Lexeme
import MiniBasic.Lexical.Stream
import MiniBasic.Main
import MiniBasic.Proofs.Parser.Program
import MiniBasic.Tree.Shape
import MiniBasic.Tree.Tokens
import MiniBasic.Proofs.Lexical.Lexeme
import MiniBasic.Proofs.Lexical.Piece
import MiniBasic.Proofs.Lexical.Scan
import MiniBasic.Proofs.Lexical.Coverage
import MiniBasic.Proofs.Lexical.Longest
import MiniBasic.Proofs.Lexical.Printing
import MiniBasic.Proofs.Lexical.Blanking
import MiniBasic.Proofs.Lexical.Lines
import MiniBasic.Proofs.Reading.Places
import MiniBasic.Proofs.Diagnostic.Excerpt
import MiniBasic.Proofs.Diagnostic.Carets
import MiniBasic.Proofs.Reading.Tuples
import MiniBasic.Proofs.Grammar.Layers
import MiniBasic.Proofs.Parser.Expression
import MiniBasic.Proofs.Reading.Layout
import MiniBasic.Proofs.Lexical.Blank
import MiniBasic.Proofs.CommandLine.Input
import MiniBasic.Proofs.CommandLine.Check
import MiniBasic.Proofs.CommandLine.Blank
import MiniBasic.Proofs.Lexical.Stream
import MiniBasic.Proofs.Parser.Anchors
import MiniBasic.Proofs.Parser.Expected
import MiniBasic.Proofs.CommandLine.Listing
import MiniBasic.Proofs.Parser.Discipline
import MiniBasic.Proofs.Parser.Horizon
import MiniBasic.Proofs.Diagnostic.Layout
import MiniBasic.Proofs.Tree.Term
import MiniBasic.Proofs.Parser.Surroundings
import MiniBasic.Proofs.CommandLine.Colour
