import Packrat.Lexer.Scan

/-!
# The symbols of grammar text

The lexemes of grammar text and the patterns that recognise them. `GrammarText.tokenizer` has them
in order of priority.
-/

namespace Packrat.GrammarText

/-- The kinds of lexemes in grammar text. -/
inductive Symbol where
  | identifier
  | openSquare
  | closeSquare
  | openRound
  | closeRound
  | blank
  | ampersand
  | bang
  | plus
  | star
  | question
  | bar
  | arrow
  | semicolon
deriving DecidableEq

namespace Symbol

/-- The name of a symbol. -/
def name : Symbol → String
  | .identifier => "Identifier"
  | .openSquare => "OpenSquare"
  | .closeSquare => "CloseSquare"
  | .openRound => "OpenRound"
  | .closeRound => "CloseRound"
  | .blank => "Blank"
  | .ampersand => "Ampersand"
  | .bang => "Bang"
  | .plus => "Plus"
  | .star => "Star"
  | .question => "Question"
  | .bar => "Bar"
  | .arrow => "Arrow"
  | .semicolon => "Semicolon"

instance : ToString Symbol := ⟨name⟩

/-- The written pattern of a symbol. -/
def source : Symbol → String
  | .identifier => "[a-zA-Z_][a-zA-Z0-9_]*"
  | .openSquare => "\\["
  | .closeSquare => "\\]"
  | .openRound => "\\("
  | .closeRound => "\\)"
  | .blank => "\\s+"
  | .ampersand => "&"
  | .bang => "!"
  | .plus => "\\+"
  | .star => "\\*"
  | .question => "\\?"
  | .bar => "\\|"
  | .arrow => "=>"
  | .semicolon => ";"

/-- The written patterns are well formed. -/
theorem isSome_read?_source (s : Symbol) : (Pattern.read? s.source).isSome := by
  cases s <;> decide

/-- The pattern of a symbol. -/
def pattern (s : Symbol) : Pattern := (Pattern.read? s.source).get s.isSome_read?_source

/-- The definition of a symbol. -/
def definition (s : Symbol) : Definition Symbol := .ofPattern s s.source s.pattern

/-- All symbols in order of priority. -/
def all : List Symbol :=
  [.identifier, .openSquare, .closeSquare, .openRound, .closeRound, .blank, .ampersand, .bang,
   .plus, .star, .question, .bar, .arrow, .semicolon]

end Symbol

/-- The tokenizer of grammar text. -/
def tokenizer : Tokenizer Symbol := ⟨Symbol.all.map Symbol.definition, by simp [Symbol.all]⟩

end Packrat.GrammarText
