import Packrat.Peg.Registry

/-!
# Values and named actions

The values that parses of a session compute, and the actions that can be attached by name. Every
named action is logged under its name; the passthrough is not.
-/

namespace Packrat.Session

/-- A value: nothing, a number, a text, a list, or a node with all there is to know about a
match. -/
inductive Value where
  | nothing
  | number (n : Nat)
  | text (s : String)
  | list (items : List Value)
  | node (n : MatchNode Value)

instance : Inhabited Value := ⟨.nothing⟩

/-- What a named action makes of a match. -/
inductive Act where
  /-- The texts of the tokens, one after the other. -/
  | text
  /-- The text of the first token. -/
  | first
  /-- The operator as grammar text. -/
  | peg
  /-- The written span. -/
  | range
  /-- The written tokens. -/
  | tokens
  /-- The written match as it is before its operator's text is asked for, which it then is. -/
  | debug
  /-- The values of the operands. -/
  | list
  /-- The number of operands. -/
  | count
  /-- The value of the last operand. -/
  | last
  /-- The operator as grammar text with the values of the operands. -/
  | tagged
  /-- Nothing. -/
  | nothing
  /-- A fixed text. -/
  | const (s : String)

namespace Act

/-- The action with a name. -/
def ofName? (name : String) : Option Act :=
  match name with
  | "text" => some .text
  | "first" => some .first
  | "peg" => some .peg
  | "range" => some .range
  | "tokens" => some .tokens
  | "debug" => some .debug
  | "list" => some .list
  | "count" => some .count
  | "last" => some .last
  | "tagged" => some .tagged
  | "nil" => some .nothing
  | _ =>
    match name.toList with
    | 'c' :: 'o' :: 'n' :: 's' :: 't' :: ':' :: rest => some (.const (String.ofList rest))
    | _ => none

/-- The name of an action. -/
def name : Act → String
  | .text => "text"
  | .first => "first"
  | .peg => "peg"
  | .range => "range"
  | .tokens => "tokens"
  | .debug => "debug"
  | .list => "list"
  | .count => "count"
  | .last => "last"
  | .tagged => "tagged"
  | .nothing => "nil"
  | .const s => "const:" ++ s

/-- What the action answers. -/
def reply (act : Act) (m : Match String) (values : List Value) : Reply Value :=
  match act with
  | .text => .done (.text m.text)
  | .first => .done (.text m.firstText)
  | .peg => .asking .text
  | .range => .done (.text m.span.text)
  | .tokens => .done (.list (m.tokens.map fun t => .text t.written))
  | .debug => .asking fun _ => .text m.written
  | .list => .done (.list values)
  | .count => .done (.number values.length)
  | .last => .done (values.getLast?.getD .nothing)
  | .tagged => .asking fun peg => .list [.text peg, .list values]
  | .nothing => .done .nothing
  | .const s => .done (.text s)

/-- The action under its name. -/
def action (act : Act) : Action String Value := ⟨some act.name, act.reply⟩

end Act

/-- A change of a registry. -/
inductive Registration where
  | forTag (tag : String) (act : Act)
  | forName (name : String) (act : Act)
  | forKind (kind : Kind) (act : Act)
  | passthrough

/-- Makes a change of a registry. -/
def Registration.apply (r : Registry String String Value) :
    Registration → Except (GrammarError String String) Unit × Registry String String Value
  | .forTag tag act => r.setTag tag act.action
  | .forName name act => r.setName name act.action
  | .forKind kind act => (.ok (), r.setDefault kind act.action)
  | .passthrough => (.ok (), r.installPassthrough .node)

end Packrat.Session
