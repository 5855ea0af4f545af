import ParseKit.Proofs.Actions.Generic

namespace ParseKit.Actions

variable {σ : Type} {s : Store}

open Run (Gives)

-- What is in a list, and anything else itself.
def flattened (s : Store) (v : Value) : List Value := (s.list? v).getD [v]

theorem Gathers.flattened_eq {v : Value} {texts : List String} (h : Gathers s v texts) :
    flattened s v = texts.map .text := by
  unfold Gathers at h
  split at h
  · rw [h]
    rfl
  · rw [flattened, Store.list?_eq_some_iff.mpr h]
    rfl

theorem flatMap_flattened {groups : List (String × List String)} {entries : List (Value × Value)}
    (h : List.Forall₂ (Gathered s) groups entries) :
    (entries.flatMap fun e => flattened s e.2) = (groups.flatMap Prod.snd).map .text := by
  induction h with
  | nil => rfl
  | cons hfirst _ ih =>
      rw [List.flatMap_cons, List.flatMap_cons, List.map_append, hfirst.2.flattened_eq, ih]

theorem tokenGroups_of_length {tokens : List (String × String)} (h : 2 ≤ tokens.length) :
    tokenGroups tokens = (tokenKeys tokens).map fun key => (key, textsUnder key tokens) := by
  rw [← groupTokens_eq_map]
  match tokens, h with
  | _ :: _ :: _, _ => rfl

-- Without tokens there are no attributes, and a single token is the value of the node. Several are
-- grouped by their types but for case, in the order of the first of each group. The texts in the
-- attributes are those of the tokens, whatever nodes and nulls stand between them.
theorem genericNode_tokens (host : Host σ) {util builder errorClass data tree : Value}
    {children subs : List Value} {place : Place} {rule : String}
    (hutil : s.get? util = some (.helpers builder errorClass))
    (hbuilder : s.get? builder = some (.builder .standard))
    (htree : s.get? tree = some (.tree data subs place)) (hdata : s.text? data = some rule)
    (hnodes : ∀ u ∈ subtrees s children, s.WellFormed u) :
    let tokens := children.filterMap (token? s)
    ∃ v p d s', Gives (genericNode host util data children tree) s v s' ∧
      s'.get? v = some (.node p) ∧ s'.get? p.attributes = some (.dict d) ∧
      (tokens = [] → d.entries = []) ∧
      (∀ type text, tokens = [(type, text)] → d.entries = [(.text "value", .text text)]) ∧
      (2 ≤ tokens.length → d.entries.map Prod.fst = (tokenKeys tokens).map .text ∧
        ∀ key value, (.text key, value) ∈ d.entries →
          Gathers s' value (textsUnder key tokens) ∧
          flattened s' value = (textsUnder key tokens).map .text) ∧
      (d.entries.flatMap fun e => flattened s' e.2).Perm (tokens.map fun t => .text t.2) ∧
      (d.entries.flatMap fun e => flattened s' e.2).length = tokens.length := by
  intro tokens
  obtain ⟨v, p, entries, s', hrun, hmade, hfields, -, -⟩ :=
    genericNode_gives host hutil hbuilder htree hdata hnodes
  obtain ⟨d, hd, rfl⟩ := hmade.entries
  have hperm : (d.entries.flatMap fun e => flattened s' e.2).Perm
      (tokens.map fun t => .text t.2) := by
    have htexts := (tokenGroups_perm tokens).map Value.text
    rw [List.map_map] at htexts
    rw [flatMap_flattened hfields]
    exact htexts
  refine ⟨v, p, d, s', hrun, hmade.node, hd, ?_, ?_, ?_, hperm, ?_⟩
  · intro hnone
    change List.Forall₂ _ (tokenGroups tokens) _ at hfields
    rw [hnone] at hfields
    exact List.forall₂_nil_left_iff.mp hfields
  · intro type text hone
    change List.Forall₂ _ (tokenGroups tokens) _ at hfields
    rw [hone] at hfields
    obtain ⟨e, rest, ⟨hkey, hvalue⟩, hrest, hentries⟩ := List.forall₂_cons_left_iff.mp hfields
    rw [hentries, List.forall₂_nil_left_iff.mp hrest]
    exact congrArg (fun e => [e]) (Prod.ext hkey hvalue)
  · intro hseveral
    have hgroups := tokenGroups_of_length hseveral
    refine ⟨?_, fun key value hmem => ?_⟩
    · rw [keys_of_gathered hfields, hgroups, List.map_map, List.map_map]
      rfl
    · obtain ⟨g, hg, hkey, hvalue⟩ := exists_group hfields hmem
      rw [hgroups] at hg
      obtain ⟨k, -, rfl⟩ := List.mem_map.mp hg
      cases hkey
      exact ⟨hvalue, hvalue.flattened_eq⟩
  · rw [hperm.length_eq, List.length_map]

private def lost : Host Unit where
  call := fun _ _ => pure .null
  build := fun _ _ _ => pure .null
  locate := fun _ => pure .null

private def mixedCase : World Unit where
  store := ⟨#[.builder .standard, .helpers (.ref 0) (.errorClass .grammarError),
    .token "NAME" "x" {}, .token "SIGN" "+" {}, .token "name" "y" {},
    .node ⟨.text "leaf", .ref 6, .ref 7, .ref 8⟩, .dict {}, .list [],
    .position (.int 0) (.int 0) (.int 0),
    .tree (.text "sum") [] ⟨.text "one", .null, .null, .null, .null, .null⟩]⟩
  log := []
  client := ()

-- Two types that differ in case share a key, with a node, a null and another token between them.
theorem genericNode_tokens_mixedCase :
    ∃ v p d s', genericNode lost (.ref 1) (.text "sum")
        [.ref 2, .ref 5, .null, .ref 3, .ref 4] (.ref 9) mixedCase =
          .ok v { mixedCase with store := s' } ∧
      s'.get? v = some (.node p) ∧ s'.get? p.attributes = some (.dict d) ∧
      d.entries.map Prod.fst = [.text "name", .text "sign"] ∧
      (d.entries.flatMap fun e => flattened s' e.2).length = 3 ∧
      ∀ value, (.text "name", value) ∈ d.entries →
        s'.get? value = some (.list [.text "x", .text "y"]) := by
  have hnodes : ∀ u ∈ subtrees mixedCase.store [.ref 2, .ref 5, .null, .ref 3, .ref 4],
      mixedCase.store.WellFormed u := by decide
  obtain ⟨v, p, d, s', hrun, hnode, hd, -, -, hseveral, -, hlength⟩ :=
    @genericNode_tokens Unit mixedCase.store lost (.ref 1) _ _ (.text "sum") (.ref 9) _ _ _ _
      rfl rfl rfl rfl hnodes
  obtain ⟨hkeys, hvalues⟩ := hseveral (by decide)
  refine ⟨v, p, d, s', hrun mixedCase rfl, hnode, hd, ?_, hlength, fun value hvalue => ?_⟩
  · rw [hkeys]
    decide
  · exact (hvalues "name" value hvalue).1

end ParseKit.Actions
