import ParseKit.Proofs.Run.Basic
import ParseKit.Proofs.Store.Extends
import ParseKit.Proofs.SyntaxTree.Outline
import ParseKit.SyntaxTree.Store

namespace ParseKit

variable {σ : Type}

open Run (Gives)

namespace Store

variable {s s' : Store} {allowed : String → Prop} {vs : List Value} {f g : Forest Heading}

theorem Extends.outlined (h : s.Extends s') (hvs : s.Outlined allowed vs f) :
    s'.Outlined allowed vs f := by
  induction hvs with
  | nil => exact .nil
  | absent _ ih => exact .absent ih
  | token object named _ ih => exact .token (h _ _ object) named ih
  | tree object text named starts _ _ ihb ihs =>
      exact .tree (h _ _ object) (h.text? text) named starts ihb ihs

theorem Outlined.append {us : List Value} (hus : s.Outlined allowed us f)
    (hvs : s.Outlined allowed vs g) : s.Outlined allowed (us ++ vs) (f.append g) := by
  induction hus with
  | nil => exact hvs
  | absent _ ih => exact .absent ih
  | token object named _ ih => exact .token object named ih
  | tree object text named starts inner _ _ ihs => exact .tree object text named starts inner ihs

end Store

namespace TreeName

def text : TreeName → String
  | rule name => name
  | label name => name

theorem alloc_gives (name : TreeName) (s : Store) : ∃ v s',
    Gives (name.alloc : Run σ Value) s v s' ∧ s.Extends s' ∧ s'.text? v = some name.text := by
  cases name with
  | rule name =>
      refine ⟨_, _, .alloc _ s, .alloc s _, ?_⟩
      have hthere := Store.get?_alloc_here s (.token "RULE" name {})
      simp only [Store.alloc] at hthere ⊢
      simp [Store.text?, hthere, text]
  | label name => exact ⟨_, s, .pure _ s, .refl s, rfl⟩

end TreeName

namespace SyntaxTree

-- All names in a tree, of rules and of terminals, are allowed.
inductive Named (allowed : String → Prop) : SyntaxTree → Prop where
  | absent : Named allowed .absent
  | token {type text : String} {extent : Extent} (named : allowed type) :
      Named allowed (.token type text extent)
  | tree {name : TreeName} {children : List SyntaxTree} {own outer : Option Extent}
      (named : allowed name.text) (inner : ∀ t ∈ children, Named allowed t) :
      Named allowed (.tree name children own outer)

theorem named_trivial : (t : SyntaxTree) → Named (fun _ => True) t
  | absent => .absent
  | token _ _ _ => .token trivial
  | tree _ _ _ _ => .tree trivial fun t _ => named_trivial t

-- Values that stand for a parse tree in a store that has grown.
def Built (allowed : String → Prop) (s : Store) (vs : List Value) (s' : Store) : Prop :=
  s.Extends s' ∧ ∃ outline, s'.Outlined allowed vs outline

variable {allowed : String → Prop} {placed : Bool}

theorem heading?_of_extent (placed : Bool) (own : Option Extent) (rule : String) :
    ∃ heading, (if placed then (own.map Extent.place).getD {} else {} : Place).heading? rule =
      some heading := by
  cases placed with
  | false => exact ⟨_, rfl⟩
  | true => cases own <;> exact ⟨_, rfl⟩

theorem allocAll_built {ts : List SyntaxTree}
    (h : ∀ t ∈ ts, ∀ s, ∃ v s', Gives (alloc placed t : Run σ Value) s v s' ∧
      Built allowed s [v] s') (s : Store) :
    ∃ vs s', Gives (allocAll placed ts : Run σ (List Value)) s vs s' ∧ Built allowed s vs s' := by
  induction ts generalizing s with
  | nil => exact ⟨[], s, .pure _ s, .refl s, _, .nil⟩
  | cons t rest ih =>
      obtain ⟨v, s₁, hfirst, h₁, f, hf⟩ := h t (by simp) s
      obtain ⟨vs, s₂, hrest, h₂, g, hg⟩ := ih (fun t ht => h t (by simp [ht])) s₁
      exact ⟨v :: vs, s₂, hfirst.bind (hrest.bind (.pure _ s₂)), h₁.trans h₂, f.append g,
        (h₂.outlined hf).append hg⟩

theorem alloc_tree (placed : Bool) {name : TreeName} {children : List SyntaxTree}
    (own outer : Option Extent) (hname : allowed name.text)
    (h : ∀ t ∈ children, ∀ s, ∃ v s', Gives (alloc placed t : Run σ Value) s v s' ∧
      Built allowed s [v] s') (s : Store) :
    ∃ v s' data values place, Gives (alloc placed (.tree name children own outer) : Run σ Value)
      s v s' ∧ Built allowed s [v] s' ∧ s'.get? v = some (.tree data values place) := by
  obtain ⟨values, s₁, hchildren, h₁, below, hbelow⟩ := allocAll_built h s
  obtain ⟨data, s₂, hdata, h₂, htext⟩ := name.alloc_gives (σ := σ) s₁
  obtain ⟨heading, hheading⟩ := heading?_of_extent placed own name.text
  let place : Place := if placed then (own.map Extent.place).getD {} else {}
  let made : Object := .tree data values place
  have h₃ : s₂.Extends (s₂.alloc made).2 := .alloc s₂ made
  have hmade := Store.get?_alloc_here s₂ made
  refine ⟨(s₂.alloc made).1, (s₂.alloc made).2, data, values, place, ?_, ?_, hmade⟩
  · unfold alloc
    exact hchildren.bind (hdata.bind (.alloc made s₂))
  · exact ⟨h₁.trans (h₂.trans h₃), _, .tree hmade (h₃.text? htext) hname hheading
      ((h₂.trans h₃).outlined hbelow) .nil⟩

-- By induction on how the names in the tree are allowed.
theorem alloc_built {t : SyntaxTree} (h : Named allowed t) (s : Store) :
    ∃ v s', Gives (alloc placed t : Run σ Value) s v s' ∧ Built allowed s [v] s' := by
  induction h generalizing s with
  | absent =>
      unfold alloc
      exact ⟨.null, s, .pure _ s, .refl s, _, .absent .nil⟩
  | token named =>
      unfold alloc
      exact ⟨_, _, .alloc _ s, .alloc s _, _, .token (Store.get?_alloc_here s _) named .nil⟩
  | tree named _ ih =>
      obtain ⟨v, s', _, _, _, hrun, hbuilt, -⟩ := alloc_tree placed _ _ named ih s
      exact ⟨v, s', hrun, hbuilt⟩

end SyntaxTree

end ParseKit
