import ParseKit.Grammar.Automaton
import ParseKit.SyntaxTree.Basic

namespace ParseKit.Automaton

structure Frame where
  state : Nat
  tree : SyntaxTree
  deriving Inhabited

-- The open frames of a parse, the newest first, over the state that it began in.
structure Stack where
  bottom : Nat
  frames : List Frame := []
  deriving Inhabited

namespace Stack

def top (s : Stack) : Nat := (s.frames.head?.map (·.state)).getD s.bottom

def push (s : Stack) (state : Nat) (tree : SyntaxTree) : Stack :=
  { s with frames := ⟨state, tree⟩ :: s.frames }

end Stack

def state (a : Automaton) (s : Stack) : LrState := a.states[s.top]?.getD ⟨[], []⟩

-- Closes a production: its trees become one.
def reduce (a : Automaton) (s : Stack) (production : Nat) : Option Stack := do
  let p ← a.productions[production]?
  let n := p.symbols.length
  let rest : Stack := { s with frames := s.frames.drop n }
  let next ← (a.state rest).shifts.lookup (.rule p.rule)
  return rest.push next (p.build ((s.frames.take n).reverse.map (·.tree)))

-- Closes productions until a terminal can be read, and gives the state to read it in. Without
-- one, gives the stack where there was nothing more to do.
def reduceFor (a : Automaton) (terminal : String) : Nat → Stack → Except Stack (Stack × Nat)
  | 0, s => .error s
  | steps + 1, s =>
    match (a.state s).action? terminal with
    | some (.shift next) => .ok (s, next)
    | some (.reduce production) =>
      match a.reduce s production with
      | some s => reduceFor a terminal steps s
      | none => .error s
    | none => .error s

-- Between two tokens every open frame is closed at most once by each production in each state.
def reductionBound (a : Automaton) (s : Stack) : Nat :=
  (s.frames.length + 1) * (a.states.size + 1) * (a.productions.size + 1)

def prepare (a : Automaton) (terminal : String) (s : Stack) : Except Stack (Stack × Nat) :=
  a.reduceFor terminal (a.reductionBound s) s

-- The end of the text. It is reported at the last token, or at the beginning of the text.
def finish (a : Automaton) (last : Cursor) (s : Stack) : Except Rejection SyntaxTree :=
  match a.prepare endTerminal s with
  | .ok (s, _) => .ok ((s.frames.head?.map (·.tree)).getD .absent)
  | .error s => .error (.token endTerminal "" last (a.state s).expected)

-- The refusal of a text at a character that no expected terminal matches.
def refuse (a : Automaton) (g : Grammar) (s : Stack) (at_ : Cursor) (c : Char) (text : List Char) :
    Rejection :=
  let expected := (a.state s).expected.filter fun t => !g.ignored.contains t && t != endTerminal
  let expected := if expected.isEmpty then ["<END-OF-FILE>"] else expected
  match g.longestMatch? (g.terminals.map (·.1)) text with
  | some (type, n) => .token type (String.ofList (text.take n)) at_ expected
  | none => .character c at_ expected

-- Parses what is left of a text. `last` is the place of the last token. Which terminals the next
-- token may belong to depends on the state.
def parseFrom (a : Automaton) (g : Grammar) (at_ last : Cursor) (s : Stack) (text : List Char) :
    Except Rejection SyntaxTree :=
  match text with
  | [] => a.finish last s
  | c :: rest =>
    match g.longestMatch? ((a.state s).expected ++ g.ignored) (c :: rest) with
    | none => .error (a.refuse g s at_ c (c :: rest))
    | some (type, n) =>
      let lexeme := (c :: rest).take n
      let stop := at_.advance lexeme
      if g.ignored.contains type then parseFrom a g stop last s (rest.drop (n - 1))
      else
        let lexeme := String.ofList lexeme
        match a.prepare type s with
        | .error s => .error (.token type lexeme at_ (a.state s).expected)
        | .ok (s, next) =>
          let s := s.push next (.token type lexeme ⟨at_, stop⟩)
          parseFrom a g stop at_ s (rest.drop (n - 1))
termination_by text.length
decreasing_by all_goals simp only [List.length_drop, List.length_cons]; omega

-- Parses a text from a start.
def parse (a : Automaton) (g : Grammar) (start text : String) : Except Rejection SyntaxTree :=
  a.parseFrom g {} {} { bottom := (a.starts.lookup start).getD 0 } text.toList

end ParseKit.Automaton
