import Mathlib.Data.List.Forall2
import ParseKit.Proofs.Actions.Groups
import ParseKit.Proofs.Build.Factory
import ParseKit.Proofs.Node.Printable
import ParseKit.Proofs.Node.Traversal
import ParseKit.Proofs.Store.Merge
import ParseKit.Proofs.Value.Inspect

namespace ParseKit

variable {σ : Type}

open Run (Continues Gives)

namespace Store

-- The heading that a node shows with its type and its position.
def heading? (s : Store) (v : Value) : Option Heading := do
  let p ← s.node? v
  match p.type, s.get? p.position with
  | .text rule, some (.position (.int line) (.int column) (.int offset)) =>
    some ⟨rule, line, column, offset⟩
  | _, _ => none

theorem heading?_of_get? {s : Store} {v : Value} {p : NodeParts} {heading : Heading}
    (hnode : s.get? v = some (.node p)) (htype : p.type = .text heading.rule)
    (hposition : s.get? p.position =
      some (.position (.int heading.line) (.int heading.column) (.int heading.offset))) :
    s.heading? v = some heading := by
  simp [heading?, node?_eq_some_iff.mpr hnode, htype, hposition]

theorem Extends.heading? {s s' : Store} (h : s.Extends s') {v : Value} {heading : Heading}
    (hv : s.heading? v = some heading) : s'.heading? v = some heading := by
  simp only [Store.heading?, Option.bind_eq_bind, Option.bind_eq_some_iff] at hv
  obtain ⟨p, hnode, hv⟩ := hv
  split at hv
  · next htype hposition =>
    cases hv
    exact heading?_of_get? (h _ _ (node?_eq_some_iff.mp hnode)) htype (h _ _ hposition)
  · cases hv

end Store

namespace Actions

-- A value that stands for texts: a single one itself, and several as a list.
def Gathers (s : Store) (v : Value) : List String → Prop
  | [one] => v = .text one
  | several => s.get? v = some (.list (several.map .text))

theorem Gathers.extends {s s' : Store} {v : Value} {texts : List String} (h : Gathers s v texts)
    (hext : s.Extends s') : Gathers s' v texts := by
  unfold Gathers at h ⊢
  split at h
  · exact h
  · exact hext _ _ h

theorem Gathers.ordinary {s : Store} {v : Value} {texts : List String} (h : Gathers s v texts) :
    s.Ordinary v := by
  unfold Gathers at h
  split at h
  · exact .text (by rw [h]; rfl)
  · refine .list h fun u hu => ?_
    obtain ⟨t, -, rfl⟩ := List.mem_map.mp hu
    exact .text rfl

theorem groupValue_gives (texts : List String) (s : Store) :
    ∃ v s', Gives (groupValue texts : Run σ Value) s v s' ∧ s.Extends s' ∧ Gathers s' v texts := by
  unfold groupValue
  split
  · exact ⟨_, s, .pure _ _, .refl s, rfl⟩
  · next hseveral =>
    refine ⟨_, _, .alloc _ _, .alloc s _, ?_⟩
    unfold Gathers
    split
    · next one => exact absurd rfl (hseveral one)
    · exact Store.get?_alloc_here s _

-- An entry for a group of texts.
def Gathered (s : Store) (g : String × List String) (e : Value × Value) : Prop :=
  e.1 = .text g.1 ∧ Gathers s e.2 g.2

theorem groupEntries_gives (groups : List (String × List String)) (s : Store) :
    ∃ entries s', Gives (groupEntries groups : Run σ (List (Value × Value))) s entries s' ∧
      s.Extends s' ∧ List.Forall₂ (Gathered s') groups entries := by
  induction groups generalizing s with
  | nil => exact ⟨[], s, .pure _ _, .refl s, .nil⟩
  | cons g rest ih =>
      obtain ⟨v, s₁, hvalue, h₁, hgathers⟩ := groupValue_gives (σ := σ) g.2 s
      obtain ⟨entries, s₂, hrest, h₂, hentries⟩ := ih s₁
      exact ⟨(.text g.1, v) :: entries, s₂, hvalue.bind (hrest.bind (.pure _ _)), h₁.trans h₂,
        .cons ⟨rfl, hgathers.extends h₂⟩ hentries⟩

theorem keys_of_gathered {s : Store} {groups : List (String × List String)}
    {entries : List (Value × Value)} (h : List.Forall₂ (Gathered s) groups entries) :
    entries.map Prod.fst = (groups.map Prod.fst).map .text := by
  induction h with
  | nil => rfl
  | cons hfirst _ ih => rw [List.map_cons, List.map_cons, List.map_cons, hfirst.1, ih]

theorem exists_group {s : Store} {groups : List (String × List String)}
    {entries : List (Value × Value)} (h : List.Forall₂ (Gathered s) groups entries)
    {e : Value × Value} (he : e ∈ entries) : ∃ g ∈ groups, Gathered s g e := by
  induction h with
  | nil => cases he
  | @cons g _ _ _ hfirst _ ih =>
      rcases List.mem_cons.mp he with rfl | he
      · exact ⟨g, List.mem_cons_self, hfirst⟩
      · obtain ⟨g, hg, hgathered⟩ := ih he
        exact ⟨g, List.mem_cons_of_mem _ hg, hgathered⟩

-- Such entries have plain texts for keys, and values that can be shown on a line.
theorem gathered_ordinary {s : Store} {groups : List (String × List String)}
    {entries : List (Value × Value)} (h : List.Forall₂ (Gathered s) groups entries) :
    ∀ e ∈ entries, (∃ t, s.text? e.1 = some t) ∧ s.Ordinary e.2 := by
  intro e he
  obtain ⟨g, -, hkey, hvalue⟩ := exists_group h he
  exact ⟨⟨g.1, by rw [hkey]; rfl⟩, hvalue.ordinary⟩

-- The node of a rule is made from attributes for its tokens, and from a list of what became of its
-- subtrees.
theorem genericNode_continues (host : Host σ) (util : Value) {s : Store} {data tree : Value}
    {children subs : List Value} {place : Place} {rule : String}
    (htree : s.get? tree = some (.tree data subs place)) (hdata : s.text? data = some rule) :
    ∃ item attributes nodes entries s', s.Extends s' ∧
      Continues (genericNode host util data children tree) s
        (node host util item [.text rule, attributes, nodes]) s' ∧
      s'.get? item = some (.place place) ∧ s'.entries? attributes = some entries ∧
      List.Forall₂ (Gathered s') (tokenGroups (children.filterMap (token? s))) entries ∧
      s'.items? nodes = some (subtrees s children) := by
  have hplace : s.placeOf tree = place := (Store.Placed.tree htree).placeOf_eq
  obtain ⟨entries, s₁, hentries, h₁, hfields⟩ :=
    groupEntries_gives (σ := σ) (tokenGroups (children.filterMap (token? s))) s
  let attributes : Object := .dict (.ofEntries entries)
  let nodes : Object := .list (subtrees s children)
  let s₂ := (s₁.alloc attributes).2
  let s₃ := (s₂.alloc nodes).2
  let s₄ := (s₃.alloc (.place place)).2
  have h₂ : s₁.Extends s₂ := .alloc s₁ attributes
  have h₃ : s₂.Extends s₃ := .alloc s₂ nodes
  have h₄ : s₃.Extends s₄ := .alloc s₃ (.place place)
  have hdict : s₄.get? (s₁.alloc attributes).1 = some attributes :=
    h₄ _ _ (h₃ _ _ (Store.get?_alloc_here s₁ attributes))
  have hlist : s₄.get? (s₂.alloc nodes).1 = some nodes :=
    h₄ _ _ (Store.get?_alloc_here s₂ nodes)
  have hentries' : s₄.entries? (s₁.alloc attributes).1 = some entries := by
    unfold Store.entries?
    rw [hdict]
    rfl
  have hlist' : s₄.items? (s₂.alloc nodes).1 = some (subtrees s children) := by
    unfold Store.items?
    rw [hlist]
  have hfields' : List.Forall₂ (Gathered s₄) (tokenGroups (children.filterMap (token? s)))
      entries :=
    hfields.imp fun g e h => ⟨h.1, h.2.extends (h₂.trans (h₃.trans h₄))⟩
  have hdisplay : s₃.display data = .ok rule :=
    Store.display_of_text? ((h₁.trans (h₂.trans h₃)).text? hdata)
  refine ⟨(s₃.alloc (.place place)).1, (s₁.alloc attributes).1, (s₂.alloc nodes).1, entries, s₄,
    h₁.trans (h₂.trans (h₃.trans h₄)), ?_, Store.get?_alloc_here s₃ (.place place), hentries',
    hfields', hlist'⟩
  refine ((Gives.store s).continues _).trans ((hentries.continues _).trans
    (((Gives.alloc attributes s₁).continues _).trans (((Gives.alloc nodes s₂).continues _).trans
      (((Gives.inspect hdisplay).continues _).trans ?_))))
  rw [hplace]
  exact (Gives.alloc (.place place) s₃).continues _

-- The node of a rule: attributes for its tokens, and what became of the subtrees as its children.
theorem genericNode_gives (host : Host σ) {s : Store} {util builder errorClass data tree : Value}
    {children subs : List Value} {place : Place} {rule : String}
    (hutil : s.get? util = some (.helpers builder errorClass))
    (hbuilder : s.get? builder = some (.builder .standard))
    (htree : s.get? tree = some (.tree data subs place)) (hdata : s.text? data = some rule)
    (hnodes : ∀ u ∈ subtrees s children, s.WellFormed u) :
    ∃ v p entries s', Gives (genericNode host util data children tree) s v s' ∧
      Node.MadeOf s s' v p entries (subtrees s children) ∧
      List.Forall₂ (Gathered s') (tokenGroups (children.filterMap (token? s))) entries ∧
      p.type = .text rule ∧
      ∀ heading, place.heading? rule = some heading → s'.get? p.position =
        some (.position (.int heading.line) (.int heading.column) (.int heading.offset)) := by
  obtain ⟨item, attributes, nodes, entries, s₁, hext, hrun, hplace, hentries, hfields, hlist⟩ :=
    genericNode_continues host util htree hdata
  have htext : s₁.text? (.text rule) = some rule := rfl
  have hkeys : ∀ e ∈ entries, ∃ t, s₁.text? e.1 = some t := fun e he =>
    (gathered_ordinary hfields e he).1
  obtain ⟨v, p, s₂, hnode, hmade, hp, hposition⟩ := node_gives host (hext _ _ hutil)
    (hext _ _ hbuilder) hplace htext hentries hkeys hlist
    fun u hu => hext.wellFormed (hnodes u hu)
  have hkeyed : s₁.Keyed ([] ++ entries) :=
    Store.keyed_of_texts (nodup_tokenGroups _) (keys_of_gathered hfields)
  rw [Store.insertAll_append hkeyed] at hmade
  exact ⟨v, p, entries, s₂, hrun.gives hnode, hmade.weaken hext,
    hfields.imp fun g e h => ⟨h.1, h.2.extends hmade.grown⟩, hp, hposition rule⟩

-- Such a node can be shown, if something is recorded of its place.
theorem genericNode_shown (host : Host σ) {s : Store} {util builder errorClass data tree : Value}
    {children subs : List Value} {place : Place} {rule : String} {heading : Heading}
    (hutil : s.get? util = some (.helpers builder errorClass))
    (hbuilder : s.get? builder = some (.builder .standard))
    (htree : s.get? tree = some (.tree data subs place)) (hdata : s.text? data = some rule)
    (hheading : place.heading? rule = some heading)
    (hnodes : ∀ u ∈ subtrees s children, s.WellFormed u) :
    ∃ v p s', Gives (genericNode host util data children tree) s v s' ∧
      Node.Made s s' v p (subtrees s children) ∧ s'.heading? v = some heading ∧
      s'.Printable v := by
  have hrule := rule_of_heading? hheading
  obtain ⟨v, p, entries, s', hrun, hmade, hfields, hp, hplace⟩ :=
    genericNode_gives host hutil hbuilder htree hdata hnodes
  have hposition := hplace heading hheading
  have htype : p.type = .text heading.rule := by rw [hp, hrule]
  have hprintable : s'.Printable v := by
    obtain ⟨d, hd, hdentries⟩ := hmade.entries
    refine .node hmade.node (by rw [hp]; rfl) hd (fun e he => ?_) hmade.children hposition
    exact gathered_ordinary hfields e (hdentries ▸ he)
  exact ⟨v, p, s', hrun, hmade.toMade,
    Store.heading?_of_get? hmade.node htype hposition, hprintable⟩

-- What the results for the items of a parse tree are. The nodes among them are the roots of trees
-- of nodes that have the outline, and of which no node was there before.
structure Images (s s' : Store) (results : List Value) (outline : Forest Heading)
    (nodes : Forest Value) : Prop where
  grown : s.Extends s'
  roots : subtrees s' results = nodes.roots
  inStore : nodes.In s'
  headings : nodes.map s'.heading? = outline.map some
  distinct : nodes.labels.Nodup
  fresh : ∀ v ∈ nodes.labels, s.get? v = none
  printable : ∀ v ∈ nodes.labels, s'.Printable v

theorem Images.wellFormed {s s' : Store} {results : List Value} {outline : Forest Heading}
    {nodes : Forest Value} (h : Images s s' results outline nodes) (v : Value)
    (hv : v ∈ nodes.labels) : s'.WellFormed v :=
  (h.printable v hv).wellFormed

theorem headings_extends {s s' : Store} (h : s.Extends s') {nodes : Forest Value}
    {outline : Forest Heading} (hheadings : nodes.map s.heading? = outline.map some) :
    nodes.map s'.heading? = outline.map some := by
  induction nodes generalizing outline with
  | nil => exact hheadings
  | cons v below beside ihb ihs =>
      cases outline with
      | nil => cases hheadings
      | cons heading below' beside' =>
          simp only [Forest.map, Forest.cons.injEq] at hheadings ⊢
          exact ⟨h.heading? hheadings.1, ihb hheadings.2.1, ihs hheadings.2.2⟩

theorem subtrees_cons_null (s : Store) (results : List Value) :
    subtrees s (.null :: results) = subtrees s results := by
  simp [subtrees]

theorem subtrees_cons_token {s : Store} {v : Value} {type text : String} {place : Place}
    (h : s.get? v = some (.token type text place)) (results : List Value) :
    subtrees s (v :: results) = subtrees s results := by
  simp [subtrees, token?, h]

theorem subtrees_cons_node {s : Store} {v : Value} {p : NodeParts}
    (h : s.get? v = some (.node p)) (results : List Value) :
    subtrees s (v :: results) = v :: subtrees s results := by
  have hnull : v ≠ .null := by
    rintro rfl
    cases h
  simp [subtrees, token?, h, hnull]

theorem subtrees_append (s : Store) (vs us : List Value) :
    subtrees s (vs ++ us) = subtrees s vs ++ subtrees s us := List.filter_append vs us

-- Unless something is no node, it is clear from the start what is a subtree.
theorem subtrees_extends {s s' : Store} (h : s.Extends s') {vs : List Value}
    (hnodes : ∀ v ∈ subtrees s vs, s.WellFormed v) :
    subtrees s' vs = subtrees s vs := by
  refine List.filter_congr fun v hv => ?_
  by_cases hsub : v ∈ subtrees s vs
  · obtain ⟨p, -, -, -, -, -, -, hnode, -⟩ := hnodes v hsub
    simp only [token?, hnode, h _ _ hnode]
  · by_cases hnull : v = .null
    · simp [hnull]
    · have htoken : (token? s v).isSome = true := by
        simpa [subtrees, hv, hnull, Option.isSome_iff_ne_none] using hsub
      unfold token? at htoken ⊢
      split at htoken
      · next heq => rw [h _ _ heq]
      · cases htoken

-- A node over what became of the children.
theorem Images.alone {s s₁ s₂ : Store} {inner : List Value} {v : Value} {p : NodeParts}
    {heading : Heading} {below : Forest Heading} {nodes : Forest Value}
    (hinner : Images s s₁ inner below nodes) (hmade : Node.Made s₁ s₂ v p nodes.roots)
    (hheading : s₂.heading? v = some heading) (hprintable : s₂.Printable v) :
    Images s s₂ [v] (.cons heading below .nil) (.cons v nodes .nil) := by
  have hbelow : v ∉ nodes.labels := fun hv =>
    (hinner.wellFormed v hv).get?_ne_none hmade.newNode
  have hmem : ∀ u ∈ (Forest.cons v nodes .nil).labels, u = v ∨ u ∈ nodes.labels := by
    intro u hu
    simpa only [Forest.labels, List.append_nil, List.mem_cons] using hu
  exact {
    grown := hinner.grown.trans hmade.grown
    roots := by rw [subtrees_cons_node hmade.node]; rfl
    inStore := ⟨⟨p.children, Store.childrenOf?_of_get? hmade.node hmade.children⟩,
      hinner.inStore.keep hmade.grown.keepsChildren, trivial⟩
    headings := by
      simp only [Forest.map, hheading, headings_extends hmade.grown hinner.headings]
    distinct := by
      simp only [Forest.labels, List.append_nil, List.nodup_cons]
      exact ⟨hbelow, hinner.distinct⟩
    fresh := by
      intro u hu
      rcases hmem u hu with rfl | hu
      · exact hinner.grown.get?_eq_none hmade.newNode
      · exact hinner.fresh u hu
    printable := by
      intro u hu
      rcases hmem u hu with rfl | hu
      · exact hprintable
      · exact hmade.grown.printable (hinner.printable u hu) }

-- What became of some items, and of those beside them.
theorem Images.append {s s₁ s' : Store} {first rest : List Value} {shape shape' : Forest Heading}
    {nodes others : Forest Value} (hfirst : Images s s₁ first shape nodes)
    (hrest : Images s₁ s' rest shape' others) :
    Images s s' (first ++ rest) (shape.append shape') (nodes.append others) := by
  have hext := hrest.grown
  have hmem : ∀ u ∈ (nodes.append others).labels, u ∈ nodes.labels ∨ u ∈ others.labels := by
    intro u hu
    simpa only [Forest.labels_append, List.mem_append] using hu
  -- what was there when the items beside came is none of their nodes
  have hdisjoint : ∀ u ∈ nodes.labels, u ∉ others.labels := fun u hu hu' =>
    (hfirst.wellFormed u hu).get?_ne_none (hrest.fresh u hu')
  have hroots : subtrees s' first = nodes.roots := by
    rw [← hfirst.roots]
    refine subtrees_extends hext fun u hu => hfirst.wellFormed u ?_
    rw [hfirst.roots] at hu
    exact Forest.mem_labels_of_mem_roots hu
  exact {
    grown := hfirst.grown.trans hext
    roots := by rw [subtrees_append, hroots, hrest.roots, Forest.roots_append]
    inStore := (hfirst.inStore.keep hext.keepsChildren).append hrest.inStore
    headings := by
      rw [Forest.map_append, Forest.map_append, headings_extends hext hfirst.headings,
        hrest.headings]
    distinct := by
      rw [Forest.labels_append, List.nodup_append]
      refine ⟨hfirst.distinct, hrest.distinct, ?_⟩
      rintro u hu _ hu' rfl
      exact hdisjoint u hu hu'
    fresh := fun u hu => (hmem u hu).elim (hfirst.fresh u) fun hu =>
      hfirst.grown.get?_eq_none (hrest.fresh u hu)
    printable := fun u hu => (hmem u hu).elim
      (fun hu => hext.printable (hfirst.printable u hu)) (hrest.printable u) }

-- Something that is no subtree stands for nothing.
theorem Images.nothing {s s' : Store} {v : Value} (h : s.Extends s')
    (hv : subtrees s' [v] = []) : Images s s' [v] .nil .nil :=
  ⟨h, hv, trivial, rfl, .nil, by simp [Forest.labels], by simp [Forest.labels]⟩

-- A node over what became of the children, and what became of the items beside it.
theorem Images.cons {s s₁ s₂ s' : Store} {inner rest : List Value} {v : Value} {p : NodeParts}
    {heading : Heading} {below beside : Forest Heading} {nodes others : Forest Value}
    (hinner : Images s s₁ inner below nodes) (hmade : Node.Made s₁ s₂ v p nodes.roots)
    (hheading : s₂.heading? v = some heading) (hprintable : s₂.Printable v)
    (hrest : Images s₂ s' rest beside others) :
    Images s s' (v :: rest) (.cons heading below beside) (.cons v nodes others) :=
  (hinner.alone hmade hheading hprintable).append hrest

-- Without a method of its own a rule goes on with what becomes of all others.
theorem applyRule_free {actions : Actions σ} {s : Store} {util data : Value} {rule : String}
    (hdata : s.text? data = some rule) (hmethod : actions.method? util rule = none)
    (children : List Value) (tree : Value) :
    Continues (applyRule actions util data children tree) s
      (actions.fallback util data children tree) s := by
  have hnone : Gives (methodFor actions util data) s none s := by
    refine (Gives.store s).bind ?_
    rw [hdata, ← hmethod]
    exact .pure _ _
  exact hnone.continues _

theorem applyTerminal_gives {actions : Actions σ} {util token : Value} {type : String} (s : Store)
    (hmethod : actions.method? util type = none) :
    Gives (applyTerminal actions util type token) s token s := by
  unfold applyTerminal
  rw [hmethod]
  exact .pure _ _

theorem Images.nil (s : Store) : Images s s [] .nil .nil :=
  ⟨.refl s, rfl, trivial, rfl, .nil, by simp [Forest.labels], by simp [Forest.labels]⟩

-- A tree becomes a node over what became of its children.
theorem transformTree_gives (host : Host σ) {s s₁ : Store}
    {util builder errorClass v data : Value} {children inner : List Value} {place : Place}
    {rule : String} {heading : Heading} {below : Forest Heading} {nodes : Forest Value}
    {depth : Nat} (hutil : s.get? util = some (.helpers builder errorClass))
    (hbuilder : s.get? builder = some (.builder .standard))
    (hobject : s.get? v = some (.tree data children place)) (hdata : s.text? data = some rule)
    (hmethod : (generic host).method? util rule = none)
    (hheading : place.heading? rule = some heading)
    (hinner : Gives (children.mapM (transformWithin (generic host) util depth)) s inner s₁)
    (himages : Images s s₁ inner below nodes) :
    ∃ made p s₂, Gives (transformWithin (generic host) util (depth + 1) v) s made s₂ ∧
      Node.Made s₁ s₂ made p nodes.roots ∧ s₂.heading? made = some heading ∧
      s₂.Printable made := by
  have hext := himages.grown
  have hwell : ∀ u ∈ subtrees s₁ inner, s₁.WellFormed u := by
    rw [himages.roots]
    exact fun u hu => himages.wellFormed u (Forest.mem_labels_of_mem_roots hu)
  obtain ⟨made, p, s₂, hnode, hmade, hshown, hmadeWell⟩ := genericNode_shown host
    (hext _ _ hutil) (hext _ _ hbuilder) (hext _ _ hobject) (hext.text? hdata) hheading hwell
  rw [himages.roots] at hmade
  refine ⟨made, p, s₂, (Gives.object? v s).bind ?_, hmade, hshown, hmadeWell⟩
  rw [hobject]
  exact hinner.bind ((applyRule_free (hext.text? hdata) hmethod _ _).gives hnode)

-- By induction on how the items are outlined. The store has grown by the nodes made so far when
-- the next item is transformed, but still holds the parse tree as it was.
theorem transformAll_gives (host : Host σ) {s₀ : Store} {util builder errorClass : Value}
    {items : List Value} {outline : Forest Heading}
    (hutil : s₀.get? util = some (.helpers builder errorClass))
    (hbuilder : s₀.get? builder = some (.builder .standard))
    (h : s₀.Outlined (fun name => (generic host).method? util name = none) items outline)
    {s : Store} {depth : Nat} (hext : s₀.Extends s) (hdepth : outline.height < depth) :
    ∃ results s' nodes, Gives (items.mapM (transformWithin (generic host) util depth)) s
      results s' ∧ Images s s' results outline nodes := by
  obtain ⟨depth, rfl⟩ : ∃ d, depth = d + 1 := ⟨depth - 1, by omega⟩
  induction h generalizing s depth with
  | nil => exact ⟨[], s, .nil, .pure _ _, .nil s⟩
  | absent _ ih =>
      obtain ⟨results, s', nodes, hrun, himages⟩ := ih hext depth hdepth
      have hfirst : Gives (transformWithin (generic host) util (depth + 1) .null) s .null s :=
        (Gives.object? .null s).bind (.pure _ _)
      refine ⟨.null :: results, s', nodes, hfirst.mapM_cons hrun, { himages with roots := ?_ }⟩
      rw [subtrees_cons_null, himages.roots]
  | @token v _ _ type text place object named _ ih =>
      obtain ⟨results, s', nodes, hrun, himages⟩ := ih hext depth hdepth
      have hv := hext _ _ object
      have hfirst : Gives (transformWithin (generic host) util (depth + 1) v) s v s := by
        refine (Gives.object? v s).bind ?_
        rw [hv]
        exact applyTerminal_gives s named
      refine ⟨v :: results, s', nodes, hfirst.mapM_cons hrun, { himages with roots := ?_ }⟩
      rw [subtrees_cons_token (himages.grown _ _ hv), himages.roots]
  | tree object text named starts _ _ ihb ihs =>
      simp only [Forest.height] at hdepth
      obtain ⟨depth, rfl⟩ : ∃ d, depth = d + 1 := ⟨depth - 1, by omega⟩
      obtain ⟨inner, s₁, nodes, hinner, hin⟩ := ihb hext depth (by omega)
      obtain ⟨made, p, s₂, hfirst, hmade, hheading, hwell⟩ := transformTree_gives host
        (hext _ _ hutil) (hext _ _ hbuilder) (hext _ _ object) (hext.text? text) named starts
        hinner hin
      obtain ⟨rest, s₃, others, hrest, hrestImages⟩ :=
        ihs (hext.trans (hin.grown.trans hmade.grown)) (depth + 1) (by omega)
      exact ⟨made :: rest, s₃, .cons made nodes others, hfirst.mapM_cons hrest,
        hin.cons hmade hheading hwell hrestImages⟩

-- So it is for the root of a parse tree.
theorem transform_images (host : Host σ) {s : Store} {util builder errorClass tree : Value}
    {heading : Heading} {below : Forest Heading}
    (hutil : s.get? util = some (.helpers builder errorClass))
    (hbuilder : s.get? builder = some (.builder .standard))
    (htree : s.Outlined (fun name => (generic host).method? util name = none) [tree]
      (.cons heading below .nil)) :
    ∃ root inner s', Gives (transform (generic host) util tree) s root s' ∧
      Images s s' [root] (.cons heading below .nil) (.cons root inner .nil) := by
  have hheight := htree.height_le
  cases htree with
  | absent rest => cases rest
  | token _ _ rest => cases rest
  | tree object text named starts inner rest =>
      simp only [Forest.height] at hheight
      have hdepth : below.height < s.size := by omega
      obtain ⟨results, s₁, nodes, hinner, hin⟩ :=
        transformAll_gives host hutil hbuilder inner (.refl s) hdepth
      obtain ⟨root, p, s₂, hrun, hmade, hshown, hprintable⟩ := transformTree_gives host hutil
        hbuilder object text named starts hinner hin
      exact ⟨root, nodes, s₂, (Gives.store s).bind hrun, hin.alone hmade hshown hprintable⟩

-- Every tree becomes one new node, of the type and at the start of the tree, with the nodes of the
-- subtrees as its children. A walk over the result goes through the outline of the parse tree,
-- which itself stays as it was.
theorem transform_generic (host : Host σ) {s : Store} {util builder errorClass tree : Value}
    {heading : Heading} {below : Forest Heading}
    (hutil : s.get? util = some (.helpers builder errorClass))
    (hbuilder : s.get? builder = some (.builder .standard))
    (htree : s.Outlined (fun name => (generic host).method? util name = none) [tree]
      (.cons heading below .nil)) :
    ∃ root inner s',
      let outline := Forest.cons heading below .nil
      let nodes := Forest.cons root inner .nil
      Gives (transform (generic host) util tree) s root s' ∧ s.Extends s' ∧ nodes.In s' ∧
      nodes.map s'.heading? = outline.map some ∧ nodes.labels.Nodup ∧
      (∀ v ∈ nodes.labels, s.get? v = none ∧ s'.WellFormed v) ∧
      (nodes.levels 0).map (fun l => (s'.heading? l.1, l.2)) =
        (outline.levels 0).map (fun l => (some l.1, l.2)) ∧
      ∀ (visit : Value → Nat → Phase → Run σ Unit) (w : World σ), w.store = s' →
        Node.Passive (fun (_ : Unit) => visit) →
        Node.walk (Node.walkBound s') root visit (.text "before") w =
          (do
            forM (nodes.levels 0) fun l => visit l.1 l.2 .before
            return root : Run σ Value) w := by
  have hheight := htree.height_le
  cases htree with
  | absent rest => cases rest
  | token _ _ rest => cases rest
  | @tree _ _ _ children _ _ _ _ _ object text named starts inner rest =>
      simp only [Forest.height] at hheight
      have hdepth : below.height < s.size := by omega
      obtain ⟨results, s₁, nodes, hinner, hin⟩ :=
        transformAll_gives host hutil hbuilder inner (.refl s) hdepth
      obtain ⟨root, p, s₂, hrun, hmade, hshown, hwell⟩ := transformTree_gives host hutil hbuilder
        object text named starts hinner hin
      have himages := hin.cons hmade hshown hwell (.nil s₂)
      refine ⟨root, nodes, s₂, (Gives.store s).bind hrun, himages.grown, himages.inStore,
        himages.headings, himages.distinct,
        fun v hv => ⟨himages.fresh v hv, himages.wellFormed v hv⟩, ?_, ?_⟩
      · rw [← Forest.levels_map, ← Forest.levels_map, himages.headings]
      · rintro visit w rfl hpassive
        have hmode : w.store.text? (.text "before") = some WalkMode.before.name := rfl
        rw [Node.walk_eq_forM hpassive himages.inStore hmode
          (Node.size_le_walkBound himages.inStore himages.distinct), Node.selected,
          Forest.filter_calls_before, List.forM_map]

private def idle : Host Unit where
  call := fun _ _ => pure .null
  build := fun _ _ _ => pure .null
  locate := fun _ => pure .null

-- A sum of one leaf that stands in two places, with a token below it and a gap between its places.
private def sharedLeaf : World Unit where
  store := ⟨#[.builder .standard, .helpers (.ref 0) (.errorClass .grammarError),
    .token "NAME" "x" {}, .tree (.text "leaf") [.ref 2]
      ⟨.int 1, .int 2, .int 1, .null, .null, .null⟩,
    .tree (.text "sum") [.ref 3, .null, .ref 3] {}]⟩
  log := []
  client := ()

-- The leaf becomes two nodes.
theorem transform_generic_sharedLeaf :
    ∃ root left right holder s', transform (generic idle) (.ref 1) (.ref 4) sharedLeaf =
        .ok root { sharedLeaf with store := s' } ∧
      s'.heading? root = some ⟨"sum", 0, 0, 0⟩ ∧
      s'.childrenOf? root = some (holder, [left, right]) ∧ left ≠ right ∧
      s'.heading? left = some ⟨"leaf", 1, 2, 1⟩ ∧ s'.heading? right = some ⟨"leaf", 1, 2, 1⟩ := by
  have htree : sharedLeaf.store.Outlined (fun name => (generic idle).method? (.ref 1) name = none)
      [.ref 4] (.cons ⟨"sum", 0, 0, 0⟩ (.cons ⟨"leaf", 1, 2, 1⟩ .nil
        (.cons ⟨"leaf", 1, 2, 1⟩ .nil .nil)) .nil) :=
    .tree rfl rfl rfl rfl (.tree rfl rfl rfl rfl (.token rfl rfl .nil)
      (.absent (.tree rfl rfl rfl rfl (.token rfl rfl .nil) .nil))) .nil
  obtain ⟨root, inner, s', hrun, -, ⟨⟨holder, hchildren⟩, -⟩, hheadings, hdistinct, -⟩ :=
    transform_generic idle rfl rfl htree
  simp only [Forest.map, Forest.cons.injEq, and_true] at hheadings
  obtain ⟨hroot, hinner⟩ := hheadings
  -- the result has the shape of the outline
  cases inner with
  | nil => cases hinner
  | cons left leftBelow rest =>
      cases rest with
      | nil => simp [Forest.map] at hinner
      | cons right rightBelow rest =>
          simp only [Forest.map, Forest.cons.injEq] at hinner
          obtain ⟨hleft, -, hright, -, hrest⟩ := hinner
          cases rest with
          | cons => cases hrest
          | nil =>
              refine ⟨root, left, right, holder, s', hrun sharedLeaf rfl, hroot, hchildren, ?_,
                hleft, hright⟩
              rintro rfl
              simp [Forest.labels] at hdistinct

end Actions

end ParseKit
