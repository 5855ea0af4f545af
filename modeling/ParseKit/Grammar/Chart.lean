import ParseKit.Grammar.Basic
import ParseKit.SyntaxTree.Basic

namespace ParseKit

-- A production that is recognised up to a dot, from an offset on, with the trees of its
-- symbols, the newest first.
structure ChartItem where
  production : Nat
  rule : String
  next : Option GrammarSymbol
  dot : Nat
  origin : Nat
  parts : List SyntaxTree
  deriving Inhabited

namespace ChartItem

-- Complete items of one rule from one offset are the same, whatever their productions.
def same (a b : ChartItem) : Bool :=
  a.origin == b.origin && a.next.isNone == b.next.isNone &&
    (if a.next.isNone then a.rule == b.rule
      else a.production == b.production && a.dot == b.dot)

def addTo (item : ChartItem) (items : List ChartItem) : List ChartItem :=
  if items.any item.same then items else items ++ [item]

end ChartItem

-- The items at one offset: those that wait for a terminal, and all others.
structure Column where
  items : List ChartItem := []
  pending : List ChartItem := []
  deriving Inhabited

-- What the matches of one terminal lead to: items, at the offset where the matches end. A terminal
-- that is passed over leads to whatever waits, which may be nothing.
structure Arrival where
  offset : Nat
  items : List ChartItem
  deriving Inhabited

-- The columns of the offsets so far, and what the matches from there lead to later.
structure Chart where
  columns : Array Column := #[]
  coming : List Arrival := []
  deriving Inhabited

namespace Chart

def start (g : Grammar) (origin production : Nat) : List ChartItem :=
  match g.productions[production]? with
  | some p => [⟨production, p.rule, p.next? 0, 0, origin, []⟩]
  | none => []

-- An item after one more symbol.
def advance (g : Grammar) (item : ChartItem) (tree : SyntaxTree) : ChartItem :=
  let next := g.productions[item.production]?.bind (·.next? (item.dot + 1))
  { item with next := next, dot := item.dot + 1, parts := tree :: item.parts }

def treeOf (g : Grammar) (item : ChartItem) : SyntaxTree :=
  match g.productions[item.production]? with
  | some p => p.build item.parts.reverse
  | none => .absent

def waitsForTerminal (item : ChartItem) : Bool :=
  match item.next with
  | some (.terminal _) => true
  | _ => false

-- What an item at an offset gives rise to there, given the items of the earlier offsets and
-- those that are already there.
def consequences (g : Grammar) (earlier : Array Column) (offset : Nat) (here : List ChartItem)
    (item : ChartItem) : List ChartItem :=
  match item.next with
  | none =>
    let tree := treeOf g item
    let waiting :=
      if item.origin = offset then here else (earlier[item.origin]?.map (·.items)).getD []
    (waiting.filter (·.next == some (.rule item.rule))).map (advance g · tree)
  | some (.rule name) =>
    let predicted := (g.productionsOf name).flatMap (start g offset)
    let complete := here.find? fun i => i.next.isNone && i.rule == name && i.origin == offset
    match complete with
    | some i => predicted ++ [advance g item (treeOf g i)]
    | none => predicted
  | some (.terminal _) => []

-- Adds items and all that follow from them, in at most the given number of steps.
def closeWithin (g : Grammar) (earlier : Array Column) (offset : Nat) :
    Nat → List ChartItem → Column → Column
  | 0, _, column => column
  | _, [], column => column
  | steps + 1, item :: waiting, column =>
    if waitsForTerminal item then
      closeWithin g earlier offset steps waiting
        { column with pending := item.addTo column.pending }
    else if column.items.any item.same then closeWithin g earlier offset steps waiting column
    else
      let items := column.items ++ [item]
      closeWithin g earlier offset steps
        (waiting ++ consequences g earlier offset items item) { column with items := items }

-- There are at most so many different items at an offset, and each makes at most as many
-- others wait.
def close (g : Grammar) (earlier : Array Column) (offset : Nat) (items : List ChartItem) : Column :=
  let places := g.productions.foldl (fun n p => n + p.symbols.length + 1) 0
  let bound := places * (offset + 1) + 1
  closeWithin g earlier offset (items.length + bound * (bound + 1)) items {}

-- What the matches at an offset lead to. Terminals are matched at their longest, wherever an item
-- waits for them.
def scan (g : Grammar) (column : Column) (start : String) (at_ : Cursor) (text : List Char) :
    List Arrival :=
  let read := column.pending.filterMap fun item =>
    match item.next with
    | some (.terminal name) =>
      match (g.pattern name).longest? text with
      | some (n + 1) =>
        let lexeme := text.take (n + 1)
        let tree := .token name (String.ofList lexeme) ⟨at_, at_.advance lexeme⟩
        some ⟨at_.offset + n + 1, [advance g item tree]⟩
      | _ => none
    | _ => none
  let finished := column.items.filter fun i => i.next.isNone && i.rule == start
  let skipped := g.ignored.filterMap fun name =>
    match (g.pattern name).longest? text with
    | some (n + 1) => some ⟨at_.offset + n + 1, column.pending ++ finished⟩
    | _ => none
  read ++ skipped

def terminalNames (items : List ChartItem) : List String :=
  items.filterMap fun i =>
    match i.next with
    | some (.terminal name) => some name
    | _ => none

-- The tree of a text whose end was reached.
def finish (g : Grammar) (start : String) (column : Column) : Except Rejection SyntaxTree :=
  match column.items.find? fun i => i.next.isNone && i.rule == start && i.origin == 0 with
  | some item => .ok (treeOf g item)
  | none => .error (.ending (terminalNames column.pending))

-- Goes on from a column to the rest of the text, as long as items or matches are left.
def run (g : Grammar) (start : String) (chart : Chart) (column : Column) (at_ : Cursor) :
    List Char → Except Rejection SyntaxTree
  | [] => finish g start column
  | c :: rest =>
    let columns := chart.columns.push column
    let all := chart.coming ++ scan g column start at_ (c :: rest)
    let (now, later) := all.partition (·.offset == at_.offset + 1)
    let items := now.flatMap (·.items)
    if items.isEmpty && later.isEmpty then
      .error (.character c at_ (terminalNames column.pending).eraseDups)
    else
      let next := close g columns (at_.offset + 1) items
      run g start { columns := columns, coming := later } next (at_.step c) rest

-- Parses a text from a start, following all productions at once.
def parse (g : Grammar) (rule text : String) : Except Rejection SyntaxTree :=
  let first := (g.productionsOf rule).flatMap (start g 0)
  run g rule {} (close g #[] 0 first) {} text.toList

end Chart

end ParseKit
