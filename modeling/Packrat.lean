import Packrat.GrammarText.Compiler
import Packrat.GrammarText.Grammar
import Packrat.GrammarText.Reading
import Packrat.GrammarText.Symbol
import Packrat.Lexer.Definition
import Packrat.Lexer.Scan
import Packrat.Lexer.Token
import Packrat.Pattern.Basic
import Packrat.Pattern.Bracket
import Packrat.Pattern.CharSet
import Packrat.Pattern.Look
import Packrat.Pattern.Match
import Packrat.Pattern.Program
import Packrat.Pattern.Reader
import Packrat.Pattern.Room
import Packrat.Pattern.Weight
import Packrat.Peg.Action
import Packrat.Peg.Arena
import Packrat.Peg.Builder
import Packrat.Peg.Context
import Packrat.Peg.Eval
import Packrat.Peg.Expr
import Packrat.Peg.Grammar
import Packrat.Peg.Operator
import Packrat.Peg.Registry
import Packrat.Proofs.Construction
import Packrat.Proofs.Evaluation.Adequacy
import Packrat.Proofs.Evaluation.Calls
import Packrat.Proofs.Evaluation.Plain
import Packrat.Proofs.Evaluation.Simulation
import Packrat.Proofs.Evaluation.Termination
import Packrat.Proofs.Lowering
import Packrat.Session.Machine
import Packrat.Session.Step
import Packrat.Session.Value
import Packrat.Span
import Packrat.Text.Age
import Packrat.Text.Blank
import Packrat.Text.Bytes
import Packrat.Text.Category
import Packrat.Text.Digit
import Packrat.Text.Fold
import Packrat.Text.Hidden
import Packrat.Text.Letter
import Packrat.Text.Listing
import Packrat.Text.Property
import Packrat.Text.PropertyValue
import Packrat.Text.Quoted
import Packrat.Text.Ranges
import Packrat.Text.Script
import Packrat.Text.ScriptUse
import Packrat.Text.Segment
import Packrat.Text.Table
import Packrat.Text.Word
import Packrat.Proofs.Evaluation.Refinement
import Packrat.Proofs.Evaluation.Transparency
import Packrat.Proofs.GrammarText.Writing
import Packrat.Proofs.GrammarText.Completeness
import Packrat.Proofs.GrammarText.Soundness
import Packrat.Proofs.Lexer.Scanning
import Packrat.Proofs.Lexer.Slices
import Packrat.Proofs.Lexer.Partition
import Packrat.Proofs.Lexer.Priority
import Packrat.Proofs.Expressions
import Packrat.Proofs.Unfolding
import Packrat.Proofs.Evaluation.Silent
import Packrat.Proofs.Evaluation.Moves
import Packrat.Proofs.Evaluation.TreeMoves
import Packrat.Proofs.Evaluation.Sharing
import Packrat.Proofs.GrammarText.Lexemes
import Packrat.Proofs.GrammarText.Printing
import Packrat.Proofs.GrammarText.RoundTrip
import Packrat.Proofs.Evaluation.Invariants
import Packrat.Proofs.Evaluation.Trials
import Packrat.Proofs.Evaluation.Positions
import Packrat.Proofs.Evaluation.Histories
import Packrat.Proofs.Evaluation.Acceptance
import Packrat.Proofs.Evaluation.Recognition
import Packrat.Proofs.Evaluation.Accounting
import Packrat.Proofs.Validation
import Packrat.Proofs.Evaluation.Ranked
import Packrat.Proofs.Evaluation.Linear
import Packrat.Proofs.GrammarText.Cost
import Packrat.Proofs.Resolution
import Packrat.Proofs.GrammarText.Compilation
import Packrat.Proofs.Evaluation.Yields
import Packrat.Proofs.Evaluation.Passthrough
import Packrat.Proofs.Evaluation.Strict
import Packrat.Proofs.Evaluation.Lookahead
import Packrat.Proofs.Evaluation.Modes
import Packrat.Proofs.GrammarText.Generation
import Packrat.Proofs.GrammarText.Spacing
import Packrat.Proofs.Layout
import Packrat.Proofs.Attachment
import Packrat.Proofs.Preorder
import Packrat.Proofs.Descent
import Packrat.Proofs.Builders
import Packrat.Proofs.Evaluation.Guard
import Packrat.Proofs.Evaluation.Echoes
import Packrat.Proofs.Evaluation.Rewriting
