import ParseKit.Grammar.Basic
import ParseKit.Grammar.Pattern.Standard
import ParseKit.Grammar.Written.Statement

namespace ParseKit.Written

def sameDefinition (name : String) (d : Definition) : Bool := d.name == name

namespace Expression

-- The pattern of a terminal, in which other terminals are looked up.
def pattern? (lookup : String → Option Pattern) : Expression → Option Pattern
  | empty => some .empty
  | symbol name => lookup name
  | literal text => some (.ofText text)
  | pattern p => some p
  | seq a b => do some ((← a.pattern? lookup).followedBy (← b.pattern? lookup))
  | alt a b => do some ((← a.pattern? lookup).or (← b.pattern? lookup))
  | many a => (a.pattern? lookup).map .star
  | several a => (a.pattern? lookup).map .plus
  | optional a => (a.pattern? lookup).map .optional
  | bracketed a => (a.pattern? lookup).map .optional

-- How many children something leaves in a tree at most, not counting repetitions.
def width (keepsAll : Bool) : Expression → Nat
  | empty => 0
  | symbol name => if name.startsWith "_" && !(keepsAll && isTerminalName name) then 0 else 1
  | literal _ => if keepsAll then 1 else 0
  | pattern _ => 1
  | seq a b => a.width keepsAll + b.width keepsAll
  | alt a b => max (a.width keepsAll) (b.width keepsAll)
  | many _ => 0
  | several _ => 0
  | optional a => a.width keepsAll
  | bracketed a => a.width keepsAll

end Expression

def joinChoices (choices : List Choice) : Expression :=
  match choices with
  | [] => .empty
  | c :: rest => rest.foldl (fun e choice => .alt e choice.body) c.body

-- The pattern of a terminal, through at most `depth` other definitions.
def resolve (definitions : List Definition) (imports : List (String × Pattern)) :
    Nat → String → Option Pattern
  | 0, _ => none
  | depth + 1, name =>
    match imports.lookup name with
    | some p => some p
    | none =>
      match definitions.find? (sameDefinition name) with
      | some d => (joinChoices d.choices).pattern? (resolve definitions imports depth)
      | none => none

-- The names of the characters that terminals without a name often are.
def markName? : String → Option String
  | "." => some "DOT"
  | "," => some "COMMA"
  | ":" => some "COLON"
  | ";" => some "SEMICOLON"
  | "+" => some "PLUS"
  | "-" => some "MINUS"
  | "*" => some "STAR"
  | "/" => some "SLASH"
  | "\\" => some "BACKSLASH"
  | "|" => some "VBAR"
  | "?" => some "QMARK"
  | "!" => some "BANG"
  | "@" => some "AT"
  | "#" => some "HASH"
  | "$" => some "DOLLAR"
  | "%" => some "PERCENT"
  | "^" => some "CIRCUMFLEX"
  | "&" => some "AMPERSAND"
  | "_" => some "UNDERSCORE"
  | "<" => some "LESSTHAN"
  | ">" => some "MORETHAN"
  | "=" => some "EQUAL"
  | "\"" => some "DBLQUOTE"
  | "'" => some "QUOTE"
  | "\x60" => some "BACKQUOTE"
  | "~" => some "TILDE"
  | "(" => some "LPAR"
  | ")" => some "RPAR"
  | "\x7b" => some "LBRACE"
  | "\x7d" => some "RBRACE"
  | "[" => some "LSQB"
  | "]" => some "RSQB"
  | "\n" => some "NEWLINE"
  | "\r\n" => some "CRLF"
  | "\t" => some "TAB"
  | " " => some "SPACE"
  | _ => none

-- The productions and terminals made so far. A repetition is a rule of its own, made once for
-- each repeated expression.
structure Flattening where
  terminals : List (String × Pattern)
  productions : List Production := []
  repetitions : List (Expression × String) := []
  deriving Inhabited

abbrev Flatten := StateM Flattening

namespace Flatten

-- The name of a terminal that is written where it is used, which is that of an equal terminal
-- if there is one.
def nameFor (p : Pattern) (preferred : Option String) : Flatten String := do
  let s ← get
  match s.terminals.find? (·.2 == p) with
  | some t => return t.1
  | none =>
    let anonymous := "__ANON_" ++ toString s.terminals.length
    let name := match preferred with
      | some n => if s.terminals.any (·.1 == n) then anonymous else n
      | none => anonymous
    set { s with terminals := s.terminals ++ [(name, p)] }
    return name

def preferredName (text : String) : Option String :=
  match markName? text with
  | some name => some name
  | none =>
    if text.toList.all isWordCharacter && (text.toList.head?.map Char.isAlpha).getD false then
      some text.toUpper
    else none

def addProductions (productions : List Production) : Flatten Unit :=
  modify fun s => { s with productions := s.productions ++ productions }

-- The rule that repeats what has the given alternatives. Nobody wrote its name, so its trees
-- bear it as a label.
def repetition (rule kind : String) (e : Expression) (alternatives : List (List Element)) :
    Flatten Element := do
  let s ← get
  match s.repetitions.find? (·.1 == e) with
  | some r => return .rule r.2 true
  | none =>
    let name := "__" ++ rule ++ "_" ++ kind ++ "_" ++ toString s.repetitions.length
    set { s with repetitions := s.repetitions ++ [(e, name)] }
    addProductions (alternatives.map fun a => { rule := name, elements := a, label := some name })
    addProductions (alternatives.map fun a =>
      { rule := name, elements := .rule name true :: a, label := some name })
    return .rule name true

-- How a rule is flattened: its name, whether it keeps all tokens, and whether what a bracket
-- leaves out leaves a mark.
structure Style where
  rule : String
  keepsAll : Bool
  placeholders : Bool

-- The sequences of elements that an expression stands for.
def alternatives (style : Style) : Expression → Flatten (List (List Element))
  | .empty => return [[]]
  | .symbol name =>
    if isTerminalName name then
      return [[.terminal name (style.keepsAll || !name.startsWith "_")]]
    else return [[.rule name (name.startsWith "_")]]
  | .literal text => do
    let name ← nameFor (.ofText text) (preferredName text)
    return [[.terminal name style.keepsAll]]
  | .pattern p => do return [[.terminal (← nameFor p none) true]]
  | .seq a b => do
    let first ← alternatives style a
    let second ← alternatives style b
    return first.flatMap fun u => second.map fun v => u ++ v
  | .alt a b => do
    let first ← alternatives style a
    return first ++ (← alternatives style b)
  | .many a => do
    let r ← repetition style.rule "star" a (← alternatives style a)
    return [[r], []]
  | .several a => do
    let r ← repetition style.rule "plus" a (← alternatives style a)
    return [[r]]
  | .optional a => do return (← alternatives style a) ++ [[]]
  | .bracketed a => do
    let marks := if style.placeholders then a.width style.keepsAll else 0
    return (← alternatives style a) ++ [List.replicate marks .absent]

-- The productions of one choice of a rule.
def choice (placeholders : Bool) (d : Definition) (c : Choice) : Flatten Unit := do
  let style : Style := { rule := d.name, keepsAll := d.keepsAll, placeholders }
  let sequences ← alternatives style c.body
  addProductions (sequences.eraseDups.map fun elements =>
    { rule := d.name, elements, label := c.label
      collapses := d.collapses && c.label.isNone })

def definition (placeholders : Bool) (d : Definition) : Flatten Unit := do
  for c in d.choices do
    choice placeholders d c

-- The name of an ignored terminal.
def ignore (e : Expression) : Flatten String := do
  match e with
  | .symbol name => return name
  | e => nameFor ((e.pattern? fun _ => none).getD .nothing) none

end Flatten

-- Drops, `rounds` times, the productions of the rules that neither a start nor another rule
-- uses.
def dropUnused (starts : List String) : Nat → List Production → List Production
  | 0, productions => productions
  | rounds + 1, productions =>
    let used (rule : String) : Bool :=
      starts.contains rule ||
        productions.any fun p => p.rule != rule && p.symbols.contains (.rule rule)
    dropUnused starts rounds (productions.filter fun p => used p.rule)

-- The first symbol that is used and not defined.
def undefined? (rules terminals : List String) (productions : List Production) :
    Option GrammarFault :=
  (productions.flatMap fun p => p.symbols.map fun s => (p.rule, s)).findSome? fun use =>
    match use.2 with
    | .rule name => if rules.contains name then none else some (.undefinedRule name use.1)
    | .terminal name =>
      if terminals.contains name then none else some (.undefinedTerminal name use.1)

def definitions (statements : List Statement) : List Definition :=
  statements.filterMap fun
    | .definition d => some d
    | _ => none

def importedTerminals (statements : List Statement) :
    Except GrammarFault (List (String × Pattern)) :=
  (statements.filterMap fun
    | .imported source name => some (source, name)
    | _ => none).mapM fun (source, name) =>
      match Pattern.standard? source with
      | some p => .ok (name, p)
      | none => .error (.unknownImport source)

def ignoredTerminals (statements : List Statement) : List Expression :=
  statements.filterMap fun
    | .ignored e => some e
    | _ => none

-- The terminals that have names, in the order of their definitions.
def namedTerminals (definitions : List Definition) (imports : List (String × Pattern)) :
    Except GrammarFault (List (String × Pattern)) := do
  let own ← definitions.mapM fun d =>
    match resolve definitions imports (definitions.length + 1) d.name with
    | some p => .ok (d.name, p)
    | none => .error (.undefinedTerminal d.name d.name)
  .ok (own ++ imports)

end ParseKit.Written

namespace ParseKit.Grammar

open Written in
-- The grammar of some statements, without the rules and terminals that are of no use to its
-- starts.
def ofStatements (starts : List String) (placeholders : Bool) (statements : List Statement) :
    Except GrammarFault Grammar := do
  let (terminalDefinitions, rules) := (definitions statements).partition (isTerminalName ·.name)
  let terminals ← namedTerminals terminalDefinitions (← importedTerminals statements)
  let work : Flatten (List String) := do
    rules.forM (Flatten.definition placeholders)
    (ignoredTerminals statements).mapM Flatten.ignore
  let (ignored, flat) := work.run { terminals := terminals }
  let names := flat.terminals.map (·.1)
  match undefined? (rules.map (·.name) ++ flat.repetitions.map (·.2)) names flat.productions with
  | some fault => .error fault
  | none =>
    let productions := dropUnused starts flat.productions.length flat.productions
    match starts.find? fun s => !productions.any (·.rule == s) with
    | some s => .error (.undefinedStart s)
    | none =>
      let used (name : String) : Bool :=
        ignored.contains name || productions.any (·.symbols.contains (.terminal name))
      .ok
        { productions := productions.toArray
          terminals := flat.terminals.filter (used ·.1)
          ignored := ignored
          starts := starts }

def ofText (starts : List String) (placeholders : Bool) (source : String) :
    Except GrammarFault Grammar := do
  ofStatements starts placeholders (← Written.readStatements source)

end ParseKit.Grammar
