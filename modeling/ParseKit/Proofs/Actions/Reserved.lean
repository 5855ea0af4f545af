import ParseKit.Proofs.Actions.Accepted
import ParseKit.Proofs.Actions.Inherited

namespace ParseKit.Actions

variable {σ : Type}

open Run (Fails Gives)

-- A lower-case letter, and then lower-case letters, digits and underscores.
def isRuleName (name : String) : Bool :=
  match name.toList with
  | [] => false
  | c :: rest => c.isLower && rest.all fun d => d.isLower || d.isDigit || d = '_'

def isTerminalName (name : String) : Bool := !name.toList.any Char.isLower

def reservedNames : List String := ["node", "unroll", "util", "transform"]

theorem method?_of_isTerminalName {name : String} (h : isTerminalName name = true) (host : Host σ)
    (util : Value) : (generic host).method? util name = none :=
  method?_of_named (.inl (by simpa [isTerminalName] using h)) util

-- All other names that stand for something start with an underscore.
theorem method?_eq_none_iff {name : String} (h : isRuleName name = true) (host : Host σ)
    (util : Value) : (generic host).method? util name = none ↔ name ∉ reservedNames := by
  change inherited? host "GenericActions" "GenericActions" util name = none ↔ name ∉ reservedNames
  unfold inherited?
  split
  case h_1 | h_2 | h_3 | h_4 => simp [reservedNames]
  case h_17 hnode hunroll hutil htransform _ _ _ _ _ _ _ _ _ _ _ _ =>
    simp only [reservedNames, List.mem_cons, List.not_mem_nil, or_false, not_or, true_iff]
    exact ⟨hnode, hunroll, hutil, htransform⟩
  all_goals exact absurd h (by decide)

-- A tree with legal names becomes a node of its rule if none of its rules has a reserved name, and
-- so does every tree in it. If a rule has one, there is an error or something that is no node.
theorem transform_reserved (host : Host σ) {s : Store} {util builder errorClass tree : Value}
    {heading : Heading} {below : Forest Heading}
    (hutil : s.get? util = some (.helpers builder errorClass))
    (hbuilder : s.get? builder = some (.builder .standard))
    (htree : s.Parsed (isTerminalName · = true) (isRuleName · = true) [tree]
      (.cons heading below .nil)) :
    let outline := Forest.cons heading below .nil
    ((∀ h ∈ outline.labels, h.rule ∉ reservedNames) → ∃ root inner s',
      let nodes := Forest.cons root inner .nil
      Gives (transform (generic host) util tree) s root s' ∧ s.Extends s' ∧ nodes.In s' ∧
      nodes.map s'.heading? = outline.map some ∧ nodes.labels.Nodup ∧
      ∀ v ∈ nodes.labels, s'.WellFormed v) ∧
    ((∃ h ∈ outline.labels, h.rule ∈ reservedNames) →
      Fails (transform (generic host) util tree) s ∨
      ∃ v s', Gives (transform (generic host) util tree) s v s' ∧ s'.node? v = none) := by
  intro outline
  have hlegal := htree.rule_of_mem
  constructor
  · intro hfree
    have hallowed := htree.outlined (fun name h => method?_of_isTerminalName h host util)
      fun h hh => (method?_eq_none_iff (hlegal h hh) host util).mpr (hfree h hh)
    obtain ⟨root, inner, s', hrun, himages⟩ := transform_images host hutil hbuilder hallowed
    exact ⟨root, inner, s', hrun, himages.grown, himages.inStore, himages.headings,
      himages.distinct, himages.wellFormed⟩
  · rintro ⟨taken, htaken, hreserved⟩
    have hany : s.Outlined (fun _ => True) [tree] outline :=
      htree.outlined (fun _ _ => trivial) fun _ _ => trivial
    rcases transform_ends host hutil hbuilder hany with hfails | ⟨v, s', hrun, hresults⟩
    · exact .inl hfails
    refine .inr ⟨v, s', hrun, ?_⟩
    cases hresults with
    | strange _ member strange =>
        rw [← List.mem_singleton.mp member]
        exact strange.node?_eq_none
    | nodes _ free =>
        rcases free with ⟨h, hh, hname⟩ | hnone
        · have hrule := hlegal h hh
          rw [hname] at hrule
          exact absurd hrule (by decide)
        · exact absurd hreserved
            ((method?_eq_none_iff (hlegal taken htaken) host util).mp (hnone taken htaken))

private def bystander : Host Unit where
  call := fun _ _ => pure .null
  build := fun _ _ _ => pure .null
  locate := fun _ => pure .null

-- A pair of a name and an option, and a pair of a name and a rule for utilities.
private def pairs : World Unit where
  store := ⟨#[.builder .standard, .helpers (.ref 0) (.errorClass .grammarError),
    .token "NAME" "x" {}, .tree (.text "name") [.ref 2] ⟨.int 1, .int 1, .int 0, .null, .null, .null⟩,
    .tree (.text "option_2") [] {}, .tree (.text "pair") [.ref 3, .ref 4] {},
    .tree (.text "util") [.ref 2] {}, .tree (.text "pair") [.ref 3, .ref 6] {}]⟩
  log := []
  client := ()

private theorem pairs_name (vs : List Value) (f : Forest Heading)
    (h : pairs.store.Parsed (isTerminalName · = true) (isRuleName · = true) vs f) :
    pairs.store.Parsed (isTerminalName · = true) (isRuleName · = true) (.ref 3 :: vs)
      (.cons ⟨"name", 1, 1, 0⟩ .nil f) :=
  .tree rfl rfl (by decide) rfl (.token rfl (by decide) .nil) h

-- The first pair becomes a node, and the second one does not.
theorem transform_reserved_pairs :
    (∃ root w', transform (generic bystander) (.ref 1) (.ref 5) pairs = .ok root w' ∧
      w'.store.heading? root = some ⟨"pair", 0, 0, 0⟩) ∧
    ¬∃ root w', transform (generic bystander) (.ref 1) (.ref 7) pairs = .ok root w' ∧
      w'.store.node? root ≠ none := by
  have hfirst : pairs.store.Parsed (isTerminalName · = true) (isRuleName · = true) [.ref 5]
      (.cons ⟨"pair", 0, 0, 0⟩ (.cons ⟨"name", 1, 1, 0⟩ .nil
        (.cons ⟨"option_2", 0, 0, 0⟩ .nil .nil)) .nil) :=
    .tree rfl rfl (by decide) rfl
      (pairs_name _ _ (.tree rfl rfl (by decide) rfl .nil .nil)) .nil
  have hsecond : pairs.store.Parsed (isTerminalName · = true) (isRuleName · = true) [.ref 7]
      (.cons ⟨"pair", 0, 0, 0⟩ (.cons ⟨"name", 1, 1, 0⟩ .nil
        (.cons ⟨"util", 0, 0, 0⟩ .nil .nil)) .nil) :=
    .tree rfl rfl (by decide) rfl
      (pairs_name _ _ (.tree rfl rfl (by decide) rfl (.token rfl (by decide) .nil) .nil)) .nil
  have hutil : pairs.store.get? (.ref 1) =
      some (.helpers (.ref 0) (.errorClass .grammarError)) := rfl
  constructor
  · obtain ⟨root, inner, s', hrun, -, -, hheadings, -⟩ :=
      (transform_reserved bystander hutil rfl hfirst).1 (by decide)
    simp only [Forest.map, Forest.cons.injEq] at hheadings
    exact ⟨root, _, hrun pairs rfl, hheadings.1⟩
  · rintro ⟨root, w', hroot, hnode⟩
    rcases (transform_reserved bystander hutil rfl hsecond).2 (by decide) with
      hfails | ⟨v, s', hrun, hnone⟩
    · obtain ⟨e, w'', herror⟩ := hfails pairs rfl
      rw [hroot] at herror
      cases herror
    · have hv := hrun pairs rfl
      rw [hroot] at hv
      cases hv
      exact hnode hnone

end ParseKit.Actions
