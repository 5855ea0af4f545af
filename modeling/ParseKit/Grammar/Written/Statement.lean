import ParseKit.Grammar.Written.Token

namespace ParseKit.Written

-- What stands on the right of a definition.
inductive Expression where
  | empty
  | symbol (name : String)
  | literal (text : String)
  | pattern (pattern : Pattern)
  | seq (a b : Expression)
  | alt (a b : Expression)
  -- Any number of times.
  | many (a : Expression)
  -- At least once.
  | several (a : Expression)
  | optional (a : Expression)
  -- Like `optional`, but what is left out may leave its mark in the tree.
  | bracketed (a : Expression)
  deriving DecidableEq, Repr, Inhabited

-- A choice of a rule, which may give its trees a name of its own.
structure Choice where
  body : Expression
  label : Option String
  deriving DecidableEq, Repr, Inhabited

structure Definition where
  name : String
  choices : List Choice
  -- A tree with one child is replaced by the child.
  collapses : Bool := false
  -- No token is left out of the trees.
  keepsAll : Bool := false
  deriving DecidableEq, Repr, Inhabited

inductive Statement where
  | definition (d : Definition)
  -- A standard terminal, under a name of the grammar's own.
  | imported (source name : String)
  | ignored (e : Expression)
  deriving DecidableEq, Repr, Inhabited

-- Terminals are told from rules by the case of their names.
def isTerminalName (name : String) : Bool := name.toList.any Char.isUpper

namespace Expression

def append : Expression → Expression → Expression
  | empty, b => b
  | a, empty => a
  | a, b => seq a b

end Expression

-- A group that is being read: the choices that are complete, the parts of the next one, the
-- newest first, and whether the newest part can be repeated.
structure OpenGroup where
  bracket : Char
  choices : List Expression := []
  parts : List Expression := []
  repeatable : Bool := false
  deriving Inhabited

namespace OpenGroup

def body (g : OpenGroup) : Expression := g.parts.foldl (fun e part => part.append e) .empty

def closeChoice (g : OpenGroup) : OpenGroup :=
  { bracket := g.bracket, choices := g.body :: g.choices }

def close (g : OpenGroup) : Expression :=
  let e := g.choices.foldl (fun e choice => .alt choice e) g.body
  if g.bracket = '[' then .bracketed e else e

def add (g : OpenGroup) (e : Expression) : OpenGroup :=
  { g with parts := e :: g.parts, repeatable := true }

def repeat? (g : OpenGroup) (f : Expression → Expression) : Option OpenGroup :=
  match g.repeatable, g.parts with
  | true, e :: rest => some { g with parts := f e :: rest, repeatable := false }
  | _, _ => none

end OpenGroup

inductive Label where
  | none
  | awaited
  | given (name : String)
  deriving DecidableEq, Inhabited

-- The right side of a definition that is being read, with the newest choice first.
structure Reading where
  choices : List Choice := []
  group : OpenGroup := { bracket := ' ' }
  outer : List OpenGroup := []
  label : Label := .none
  deriving Inhabited

namespace Reading

def closeChoice (r : Reading) : Reading :=
  let label := match r.label with
    | .given name => some name
    | _ => none
  { choices := ⟨r.group.body, label⟩ :: r.choices }

def add (r : Reading) (e : Expression) : Option Reading :=
  some { r with group := r.group.add e }

def closes (bracket mark : Char) : Bool :=
  (bracket = '(' && mark = ')') || (bracket = '[' && mark = ']')

def repeatMark? : Char → Option (Expression → Expression)
  | '*' => some .many
  | '+' => some .several
  | '?' => some .optional
  | _ => none

def stepOperator (r : Reading) (mark : Char) : Option Reading :=
  match mark with
  | '(' | '[' => some { r with group := { bracket := mark }, outer := r.group :: r.outer }
  | '|' =>
    if r.outer.isEmpty then some r.closeChoice
    else some { r with group := r.group.closeChoice }
  | mark =>
    match r.outer with
    | g :: rest =>
      if closes r.group.bracket mark then
        some { r with group := g.add r.group.close, outer := rest }
      else none
    | [] => none

-- The state after a token, which is none where the token cannot stand.
def step? (r : Reading) (kind : TokenKind) : Option Reading :=
  match r.label, kind with
  | .awaited, .word name => some { r with label := .given name }
  | .awaited, _ => none
  | .given _, .operator '|' => some r.closeChoice
  | .given _, _ => none
  | .none, .word name => r.add (.symbol name)
  | .none, .literal text => r.add (.literal text)
  | .none, .pattern p => r.add (.pattern p)
  | .none, .arrow => if r.outer.isEmpty then some { r with label := .awaited } else none
  | .none, .operator mark =>
    match repeatMark? mark with
    | some f => (r.group.repeat? f).map ({ r with group := · })
    | none => r.stepOperator mark

def fault (t : Token) : GrammarFault :=
  match t.kind with
  | .operator mark =>
    if (repeatMark? mark).isSome then .misplacedOperator t.spot else .unexpected t.spot
  | _ => .unexpected t.spot

def step (r : Reading) (t : Token) : Except GrammarFault Reading :=
  match r.step? t.kind with
  | some r => .ok r
  | none => .error (fault t)

end Reading

-- Reads the choices of a definition. `last` is the token to blame for an end that comes too
-- early.
def readChoices (last : Token) (tokens : List Token) : Except GrammarFault (List Choice) := do
  let r ← tokens.foldlM Reading.step {}
  if r.outer.isEmpty && r.label != .awaited then .ok r.closeChoice.choices.reverse
  else .error (.unexpected ((tokens.getLast?.getD last).spot))

-- A definition, after any marks before its name.
def readDefinition (collapses keepsAll : Bool) : List Token → Except GrammarFault Definition
  | ⟨.operator '?', _⟩ :: rest => readDefinition true keepsAll rest
  | ⟨.operator '!', _⟩ :: rest => readDefinition collapses true rest
  | ⟨.word name, _⟩ :: ⟨.operator ':', s⟩ :: rest => do
    .ok { name, choices := ← readChoices ⟨.operator ':', s⟩ rest, collapses, keepsAll }
  | t :: _ => .error (.unexpected t.spot)
  | [] => .error (.unexpected ⟨0, 0, ""⟩)

def readImport (t : Token) : List TokenKind → Except GrammarFault Statement
  | [.word "common", .operator '.', .word source] => .ok (.imported source source)
  | [.word "common", .operator '.', .word source, .arrow, .word name] =>
    .ok (.imported source name)
  | _ => .error (.unexpected t.spot)

def readStatement (statement : List Token) : Except GrammarFault Statement :=
  match statement with
  | ⟨.word "%import", s⟩ :: rest => readImport ⟨.word "%import", s⟩ (rest.map (·.kind))
  | ⟨.word "%ignore", s⟩ :: rest => do
    match ← readChoices ⟨.word "%ignore", s⟩ rest with
    | [⟨e, none⟩] => .ok (.ignored e)
    | _ => .error (.unexpected s)
  | tokens => do .ok (.definition (← readDefinition false false tokens))

def readStatements (source : String) : Except GrammarFault (List Statement) := do
  (← tokens source).mapM readStatement

end ParseKit.Written
