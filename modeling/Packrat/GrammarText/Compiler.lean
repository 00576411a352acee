import Packrat.GrammarText.Grammar

/-!
# Compiling grammar text

A vocabulary registers the identifiers that grammar text may use for tags and rules. Once no
identifier is registered twice, it makes a compiler, which reads grammar text, resolves its
identifiers and makes the operators in a builder, so that the builder's actions attach to them.
-/

namespace Packrat

variable {K N T : Type}

/-- The identifiers for tags and rules, in the order of their registration. -/
structure Vocabulary (K N : Type) where
  tags : List (String × K) := []
  rules : List (String × N) := []

/-- What an identifier of a vocabulary stands for. -/
inductive NameKind where
  | tag
  | rule
deriving DecidableEq

/-- The name of a kind of identifiers. -/
def NameKind.name : NameKind → String
  | .tag => "tag"
  | .rule => "rule"

/-- Why grammar text was not compiled. -/
inductive CompileError (K N : Type) where
  | text (e : GrammarText.TextError)
  | unknownTag (name : String)
  | unknownRule (name : String)
  | duplicateName (kind : NameKind) (name : String)
  | grammar (e : GrammarError K N)

/-- The wording of an error of reading. -/
def GrammarText.TextError.message : GrammarText.TextError → String
  | .emptyGrammar => "grammar text is empty"
  | .unrecognized offset snippet =>
    "unrecognized grammar text at offset " ++ toString offset ++ ": " ++ Text.quote snippet
  | .malformed position found =>
    "syntax error at token " ++ toString position ++ ": unexpected " ++
      (match found with
        | some text => ticked text
        | none => "end of input")

/-- The wording of an error. -/
def CompileError.message [ToString K] [ToString N] : CompileError K N → String
  | .text e => e.message
  | .unknownTag name => "unknown token tag " ++ ticked name
  | .unknownRule name => "unknown rule name " ++ ticked name
  | .duplicateName kind name =>
    kind.name ++ " name " ++ ticked name ++ " is registered more than once"
  | .grammar e => e.message

/-- A compiler of grammar text: what every identifier stands for. -/
structure Compiler (K N : Type) where
  tags : List (String × K)
  rules : List (String × N)

namespace Vocabulary

/-- The vocabulary that registers tags and rules under their own names. -/
def ofNames [ToString K] [ToString N] (tags : List K) (rules : List N) : Vocabulary K N :=
  ⟨tags.map fun tag => (toString tag, tag), rules.map fun rule => (toString rule, rule)⟩

/-- The compiler of a vocabulary that registers no identifier twice. Tags are checked first. -/
def compiler (v : Vocabulary K N) : Except (CompileError K N) (Compiler K N) :=
  match firstRepeated? [] (v.tags.map (·.1)) with
  | some name => .error (.duplicateName .tag name)
  | none =>
    match firstRepeated? [] (v.rules.map (·.1)) with
    | some name => .error (.duplicateName .rule name)
    | none => .ok ⟨v.tags, v.rules⟩

/-- The written form of a vocabulary. -/
def written [ToString K] [ToString N] (v : Vocabulary K N) : String :=
  Text.record "Vocabulary"
    [("tags", Text.listing (v.tags.map fun (name, tag) =>
       "(" ++ Text.quote name ++ ", " ++ toString tag ++ ")")),
     ("rules", Text.listing (v.rules.map fun (name, rule) =>
       "(" ++ Text.quote name ++ ", " ++ toString rule ++ ")"))]

end Vocabulary

namespace Compiler

/-- The tag that an identifier stands for. -/
def tag (c : Compiler K N) (name : String) : Except (CompileError K N) K :=
  match c.tags.lookup name with
  | some tag => .ok tag
  | none => .error (.unknownTag name)

/-- The rule name that an identifier stands for. -/
def rule (c : Compiler K N) (name : String) : Except (CompileError K N) N :=
  match c.rules.lookup name with
  | some rule => .ok rule
  | none => .error (.unknownRule name)

/-- How identifiers are resolved. -/
def lowering (c : Compiler K N) : Lowering String String K N (CompileError K N) :=
  ⟨c.tag, c.rule, .grammar⟩

variable [DecidableEq K] [DecidableEq N]

/-- Makes the operators of grammar text in a builder, and the rules in the order of the text. At an
unknown identifier the operators made so far stay in the builder. -/
def generate (c : Compiler K N) (text : String) (b : Builder K N T) :
    Except (CompileError K N) (List (Rule N)) × Builder K N T :=
  match GrammarText.read text with
  | .error e => (.error (.text e), b)
  | .ok rules => c.lowering.lowerRules (rules.map fun r => (r.head, r.body)) b

/-- The grammar of grammar text with the given start symbol. -/
def compile (c : Compiler K N) (text : String) (start : N) (b : Builder K N T) :
    Except (CompileError K N) (Grammar K N T) :=
  match c.generate text b with
  | (.error e, _) => .error e
  | (.ok rules, b) =>
    match b.build start rules with
    | .error e => .error (.grammar e)
    | .ok g => .ok g

end Compiler

/-- The written form of a compiler. -/
def Compiler.written [ToString K] [ToString N] (c : Compiler K N) : String :=
  let names := Text.record "Resolver"
    [("tags", Text.braced (Text.sorted (c.tags.map fun (name, tag) =>
       Text.quote name ++ ": " ++ toString tag))),
     ("rules", Text.braced (Text.sorted (c.rules.map fun (name, rule) =>
       Text.quote name ++ ": " ++ toString rule)))]
  Text.openRecord "Generator" [("names", names)]

end Packrat
