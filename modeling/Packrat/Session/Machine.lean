import Packrat.Session.Step

/-!
# Running a session

`Session.step` carries out one step. A step that names a register that does not exist, or a builder
that is used up, changes nothing. Building and compiling use their builder up, also when they fail.
The labels that actions have asked for stay with their grammar from one parse to the next.
-/

namespace Packrat

/-- The registers of a session, its tokenizer, and the tag whose tokens are dropped. A builder that
is used up is `none`. -/
structure Session where
  tokenizer : Option (Tokenizer String) := none
  skip : Option String := none
  builders : Array (Option (Builder String String Session.Value)) := #[]
  nodes : Array NodeId := #[]
  compilers : Array (Compiler String String) := #[]
  grammars : Array (Grammar String String Session.Value × Labels) := #[]
  contexts : Array (Context String Session.Value) := #[]

namespace Session

/-! ## Views -/

/-- How an operator looks from an arena. -/
def NodeView.ofArena (a : Arena String String Value) (render : Bool) (id : NodeId) : NodeView where
  id := id
  kind := (a.get? id).map (·.kind)
  operands := (a.get? id).map (·.operands)
  hasAction := (a.action? id).isSome
  render := if render then some (a.render id) else none

/-- How all operators of an arena look. -/
def GraphView.ofArena (a : Arena String String Value) (render : Bool) : GraphView where
  written := a.written
  nodes := a.ids.map (NodeView.ofArena a render)

/-- How an operator and what it reaches look from an arena. -/
def Inspection.ofArena (a : Arena String String Value) (render : Bool) (id : NodeId) :
    Inspection where
  node := .ofArena a render id
  owned := a.owns id
  subtree := a.subtree id
  names := a.calledNames id

/-- What a registry has actions for. -/
def RegistryView.ofRegistry (r : Registry String String Value) (tags names : List String) :
    RegistryView where
  passthrough := r.passthrough.isSome
  kinds := Kind.firing.filter fun kind => (r.forKind kind).isSome
  tags := tags.map fun tag => (r.forTag tag).isSome
  names := names.map fun name => (r.forName name).isSome
  written := r.written

/-- The counters of a context. -/
def StatsView.ofContext (c : Context String Value) : StatsView := ⟨c.stats, c.memo.size⟩

/-- The rules of a grammar, and the bodies of the rules asked for. -/
def Description.ofGrammar (g : Grammar String String Value) (names : List String) :
    Description where
  start := g.start
  rules := g.rules
  text := g.text
  bodies := names.map g.body?
  written := g.written

/-- The named actions among the firings of a parse, in the order in which they fired. -/
def logEntries (g : Grammar String String Value) (firings : List Firing) : List LogEntry :=
  firings.reverse.filterMap fun f =>
    ((g.arena.action? f.node).bind (·.name)).map (⟨·, f.span, f.arity⟩)

/-! ## Registers -/

/-- The builder with a number, unless it is used up. -/
def builder? (s : Session) (b : Nat) : Option (Builder String String Value) :=
  (s.builders[b]?).join

/-- Puts a builder back, or marks it as used up. -/
def setBuilder (s : Session) (b : Nat) (builder : Option (Builder String String Value)) :
    Session :=
  { s with builders := s.builders.setIfInBounds b builder }

/-- The arena of a builder or grammar. -/
def arena? (s : Session) : Place → Option (Arena String String Value)
  | .builder b => (s.builder? b).map (·.arena)
  | .grammar g => (s.grammars[g]?).map (·.1.arena)

/-- The operator whose operands are the ids with the given numbers. -/
def operator? (s : Session) : Operator String String Nat → Option (Operator String String NodeId)
  | operator => (operator.map fun n => s.nodes[n]?).allSome?

/-- The tokens to be parsed, and the gaps between them: those given, or those that the tokenizer
finds in the text. -/
def tokens? (s : Session) (text : String) :
    Option (List (String × Span)) → Option (Array (Token String) × List Span)
  | some given =>
    if given.all fun (_, span) => span.stop ≤ text.utf8ByteSize then
      some ((given.map fun (tag, span) => Token.cut text tag span).toArray, [])
    else none
  | none =>
    s.tokenizer.map fun tokenizer =>
      let scan := tokenizer.tokenize text
      match s.skip with
      | some tag => (scan.without tag, scan.gaps)
      | none => (scan.tokens, scan.gaps)

/-! ## Steps -/

/-- The answer of a step that names a missing register, which changes nothing. -/
def refuse (s : Session) : Session × Answer := (s, .failure .badInput)

/-- A registry after changes in order, up to the first that fails. -/
def registerAll (registry : Registry String String Value) :
    List (Option Registration) → Except Failure (Registry String String Value)
  | [] => .ok registry
  | none :: _ => .error .badInput
  | some change :: rest =>
    match change.apply registry with
    | (.error e, _) => .error (.compile (.grammar e))
    | (.ok (), registry) => registerAll registry rest

/-- Makes a builder. -/
def stepBuilder (s : Session) (actions : List (Option Registration)) : Session × Answer :=
  match registerAll {} actions with
  | .error f => (s, .failure f)
  | .ok registry =>
    let b := s.builders.size
    ({ s with builders := s.builders.push (some (.new b registry)) }, .builder b)

/-- Changes the registry of a builder. -/
def stepAction (s : Session) (b : Nat) (change : Registration) : Session × Answer :=
  match s.builder? b with
  | none => s.refuse
  | some builder =>
    let (made, registry) := change.apply builder.registry
    let s := s.setBuilder b (some { builder with registry })
    match made with
    | .error e => (s, .refused e)
    | .ok () => (s, .done)

/-- Makes an operator. -/
def stepOperator (s : Session) (b : Nat) (operator : Operator String String Nat)
    (named : List Nat) (act : Option Act) : Session × Answer :=
  match s.builder? b, named.mapM (s.nodes[·]?), s.operator? operator with
  | some builder, some _, some operator =>
    let (made, builder) := match act with
      | some act => builder.addWith operator (some act.action)
      | none => builder.add operator
    let s := s.setBuilder b (some builder)
    match made with
    | .error e => (s, .refused e)
    | .ok id => ({ s with nodes := s.nodes.push id }, .node s.nodes.size id)
  | _, _, _ => s.refuse

/-- Makes a compiler. -/
def stepCompiler (s : Session) (vocabulary : Vocabulary String String) : Session × Answer :=
  match vocabulary.compiler with
  | .error e => (s, .failure (.compile e))
  | .ok compiler =>
    ({ s with compilers := s.compilers.push compiler },
      .compiler s.compilers.size vocabulary.written compiler.written)

/-- Makes the operators of grammar text in a builder. -/
def stepGenerate (s : Session) (compiler b : Nat) (text : String) : Session × Answer :=
  match s.compilers[compiler]?, s.builder? b with
  | some compiler, some builder =>
    match compiler.generate text builder with
    | (.error e, builder) => (s.setBuilder b (some builder), .failure (.compile e))
    | (.ok rules, builder) =>
      let s := s.setBuilder b (some builder)
      let first := s.nodes.size
      let nodes := s.nodes ++ (rules.map (·.body)).toArray
      ({ s with nodes }, .generated (rules.mapIdx fun i rule =>
        ⟨rule.head, first + i, rule.body, builder.arena.render rule.body⟩))
  | _, _ => s.refuse

/-- Keeps a grammar that has been built from a builder, which is used up. -/
def keepGrammar (s : Session) (b : Nat) :
    Except (CompileError String String) (Grammar String String Value) → Session × Answer
  | .error e => (s.setBuilder b none, .failure (.compile e))
  | .ok g =>
    let s := s.setBuilder b none
    ({ s with grammars := s.grammars.push (g, ∅) }, .grammar s.grammars.size)

/-- Builds a grammar. -/
def stepBuild (s : Session) (b : Nat) (start : String) (rules : List (String × Nat)) :
    Session × Answer :=
  match s.builder? b, rules.mapM fun (head, n) => (s.nodes[n]?).map (Rule.mk head) with
  | some builder, some rules =>
    s.keepGrammar b <|
      match builder.build start rules with
      | .error e => .error (.grammar e)
      | .ok g => .ok g
  | _, _ => s.refuse

/-- Compiles grammar text. -/
def stepCompile (s : Session) (compiler b : Nat) (text start : String) : Session × Answer :=
  match s.compilers[compiler]?, s.builder? b with
  | some compiler, some builder => s.keepGrammar b (compiler.compile text start builder)
  | _, _ => s.refuse

/-- Parses a text, with the context of the given number or a new one. -/
def stepParse (s : Session) (g : Nat) (text : String) (context : Option Nat) (log : Bool)
    (given : Option (List (String × Span))) : Session × Answer :=
  let found : Option (Context String Value) := match context with
    | none => some {}
    | some c => s.contexts[c]?
  match s.grammars[g]?, found, s.tokens? text given with
  | some (grammar, labels), some found, some (tokens, gaps) =>
    let (outcome, run) := grammar.parseWith tokens found labels
    let s := { s with grammars := s.grammars.setIfInBounds g (grammar, run.labels) }
    let s := match context with
      | none => s
      | some c => { s with contexts := s.contexts.setIfInBounds c run.context }
    (s, .parse
      { outcome, tokenCount := tokens.size, gaps,
        stats := context.map fun _ => .ofContext run.context,
        log := if log then some (logEntries grammar run.log) else none })
  | _, _, _ => s.refuse

/-- Carries out a step. -/
def step (s : Session) : Step → Session × Answer
  | .builder actions => s.stepBuilder actions
  | .action b change => s.stepAction b change
  | .registry b tags names =>
    match s.builder? b with
    | none => s.refuse
    | some builder => (s, .registry (.ofRegistry builder.registry tags names))
  | .operator b operator named act => s.stepOperator b operator named act
  | .graph place render =>
    match s.arena? place with
    | none => s.refuse
    | some arena => (s, .graph (.ofArena arena render))
  | .inspect place node render =>
    match s.arena? place, s.nodes[node]? with
    | some arena, some id => (s, .inspection (.ofArena arena render id))
    | _, _ => s.refuse
  | .compiler vocabulary => s.stepCompiler vocabulary
  | .generate compiler b text => s.stepGenerate compiler b text
  | .build b start rules => s.stepBuild b start rules
  | .compile compiler b text start => s.stepCompile compiler b text start
  | .describe g names =>
    match s.grammars[g]? with
    | none => s.refuse
    | some (grammar, _) => (s, .description (.ofGrammar grammar names))
  | .context =>
    ({ s with contexts := s.contexts.push {} }, .context s.contexts.size)
  | .stats c =>
    match s.contexts[c]? with
    | none => s.refuse
    | some context => (s, .stats (.ofContext context))
  | .reset c =>
    match s.contexts[c]? with
    | none => s.refuse
    | some context =>
      let context := context.reset
      ({ s with contexts := s.contexts.setIfInBounds c context }, .stats (.ofContext context))
  | .parse g text context log tokens => s.stepParse g text context log tokens

/-- Carries out steps in order; a step that is `none` could not be understood and is refused. -/
def run (s : Session) : List (Option Step) → List Answer
  | [] => []
  | none :: rest => .failure .badInput :: s.run rest
  | some step :: rest =>
    let (s, answer) := s.step step
    answer :: s.run rest

/-- A session with a tokenizer of its own or none, from the beginning. -/
def start (patterns : Option (List (String × String))) : Except (LexerError String) Session :=
  match patterns with
  | none => .ok {}
  | some patterns =>
    match Tokenizer.ofPatterns patterns with
    | .error e => .error e
    | .ok tokenizer => .ok { tokenizer := some tokenizer }

end Session

end Packrat
