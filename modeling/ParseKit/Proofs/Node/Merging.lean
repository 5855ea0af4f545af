import ParseKit.Proofs.Node.Construction
import ParseKit.Proofs.Store.Merge
import ParseKit.Proofs.Value.Refusal

namespace ParseKit.Node

variable {σ : Type} {w : World σ} {v value : Value} {p : NodeParts} {d : Dictionary}
  {entries : List (Value × Value)}

open Run (Gives)

theorem get?_putAttributes {s : Store} (hnode : s.get? v = some (.node p))
    (hd : s.get? p.attributes = some (.dict d)) (d' : Dictionary) :
    (s.put p.attributes (.dict d')).get? v = some (.node p) :=
  (Store.get?_put_elsewhere _ _ (Store.ne_of_get? hnode hd (by simp))).trans hnode

theorem setAttribute_apply {key : Value} (hnode : w.store.get? v = some (.node p))
    (hd : w.store.get? p.attributes = some (.dict d)) (hkey : w.store.isText key = true)
    (value : Value) : setAttribute v key value w =
      .ok v { w with store := w.store.put p.attributes (.dict (d.insert w.store key value)) } := by
  obtain ⟨t, ht⟩ := Option.isSome_iff_exists.mp hkey
  have hgives : Gives (setAttribute v key value : Run σ Value) w.store v
      (w.store.put p.attributes (.dict (d.insert w.store key value))) :=
    (parts_gives _ hnode).bind ((requireName_gives ht).bind
      ((assignItem_gives value hd ht).bind (.pure v _)))
  exact hgives w rfl

theorem setEach_apply (hnode : w.store.get? v = some (.node p))
    (hd : w.store.get? p.attributes = some (.dict d))
    (htexts : ∀ e ∈ entries, w.store.isText e.1 = true) :
    ∃ d', d'.entries = w.store.insertAll d.entries entries ∧
      setEach v entries w = .ok () { w with store := w.store.put p.attributes (.dict d') } := by
  induction entries generalizing w d with
  | nil => exact ⟨d, rfl, by rw [Store.put_self hd]; rfl⟩
  | cons e rest ih =>
      let d₁ := d.insert w.store e.1 e.2
      let s₁ := w.store.put p.attributes (.dict d₁)
      have hfirst : setAttribute v e.1 e.2 w = .ok v { w with store := s₁ } :=
        setAttribute_apply hnode hd (htexts e (by simp)) e.2
      have htexts₁ : ∀ e ∈ rest, s₁.isText e.1 = true := by
        intro e he
        rw [Store.isText_put _ hd rfl rfl]
        exact htexts e (by simp [he])
      obtain ⟨d', hd', hrest⟩ := ih (w := { w with store := s₁ })
        (get?_putAttributes hnode hd d₁) (Store.get?_put_here _ hd) htexts₁
      refine ⟨d', ?_, ?_⟩
      · rw [hd', Store.insertAll_put hd rfl rfl d₁.entries fun e he => htexts e (by simp [he])]
        rfl
      · rw [setEach, Run.bind_apply, hfirst]
        dsimp only
        rw [hrest, Store.put_put]

theorem setEach_append (v : Value) (before after : List (Value × Value)) (w : World σ) :
    setEach v (before ++ after) w = (setEach v before >>= fun _ => setEach v after) w := by
  induction before generalizing w with
  | nil => rfl
  | cons e rest ih =>
      rw [List.cons_append, setEach, setEach, Run.bind_apply, Run.bind_apply, Run.bind_apply]
      cases setAttribute v e.1 e.2 w with
      | ok _ w' => exact (ih w').trans (Run.bind_apply _ _ _)
      | error fault w' => rfl

theorem setAttribute_refuses {key : Value} (hnode : w.store.get? v = some (.node p))
    (hkey : w.store.isText key = false) :
    setAttribute v key value w =
      .error (.raised (w.store.refusal .invalidArgument ("Invalid attribute name: " ++ ·) key))
        w := by
  rw [setAttribute, Run.bind_apply, parts_gives _ hnode w rfl]
  have hname : (requireName key : Run σ Unit) w = .error (.raised
      (w.store.refusal .invalidArgument ("Invalid attribute name: " ++ ·) key)) w := by
    rw [requireName, Run.bind_apply, Run.store_apply]
    dsimp only
    rw [hkey, if_neg Bool.false_ne_true]
    exact Run.refusal_apply .invalidArgument ("Invalid attribute name: " ++ ·) key w
  dsimp only
  rw [Run.bind_apply, hname]

-- The names ahead of one that cannot be used are set before that one is refused.
theorem setEach_refuses {before : List (Value × Value)} {e : Value × Value}
    (hnode : w.store.get? v = some (.node p)) (hd : w.store.get? p.attributes = some (.dict d))
    (htexts : ∀ e ∈ before, w.store.isText e.1 = true) (he : w.store.isText e.1 = false)
    (after : List (Value × Value)) :
    ∃ d', d'.entries = w.store.insertAll d.entries before ∧
      let s' := w.store.put p.attributes (.dict d')
      setEach v (before ++ e :: after) w = .error (.raised
        (s'.refusal .invalidArgument ("Invalid attribute name: " ++ ·) e.1))
        { w with store := s' } := by
  obtain ⟨d', hd', hbefore⟩ := setEach_apply hnode hd htexts
  refine ⟨d', hd', ?_⟩
  have he' : (w.store.put p.attributes (.dict d')).isText e.1 = false := by
    rw [Store.isText_put _ hd rfl rfl, he]
  rw [setEach_append, Run.bind_apply, hbefore]
  dsimp only
  rw [setEach, Run.bind_apply, setAttribute_refuses (get?_putAttributes hnode hd d') he']

theorem getAttribute_apply {key : Value} (hnode : w.store.get? v = some (.node p))
    (hd : w.store.get? p.attributes = some (.dict d)) (hkey : w.store.isText key = true) :
    getAttribute v key w = .ok ((w.store.lookup? d.entries key).getD .null) w := by
  obtain ⟨t, ht⟩ := Option.isSome_iff_exists.mp hkey
  rw [getAttribute, Run.bind_apply, parts_gives _ hnode w rfl]
  simp only [Run.bind_apply, requireName_gives ht w rfl, Run.store_apply, Store.entries?, hd]
  rfl

-- A mapping with texts for keys is merged into the attributes, and stays as it is, even if it is
-- these attributes. If another key comes first, the entries before that one are merged, and the
-- failure says which key it is unless that cannot be shown. What is no mapping changes nothing.
theorem setAttributes_merges (hnode : w.store.get? v = some (.node p))
    (hd : w.store.get? p.attributes = some (.dict d)) :
    (∀ entries, w.store.entries? value = some entries → w.store.Keyed entries →
      (∀ e ∈ entries, w.store.isText e.1 = true) → ∃ s' d',
        setAttributes v value w = .ok v { w with store := s' } ∧
        s'.get? p.attributes = some (.dict d') ∧
        (∀ x, x ≠ p.attributes → s'.get? x = w.store.get? x) ∧
        s'.entries? value = some entries ∧
        w.store.Merged d.entries entries d'.entries ∧
        ∀ key, w.store.isText key = true →
          w.store.Settles (key :: (d.entries ++ entries).map Prod.fst) key →
          getAttribute v key { w with store := s' } =
            .ok (((w.store.lookup? entries key).or (w.store.lookup? d.entries key)).getD .null)
              { w with store := s' }) ∧
    (∀ before e after, w.store.entries? value = some (before ++ e :: after) →
      w.store.Keyed (before ++ e :: after) → (∀ e ∈ before, w.store.isText e.1 = true) →
      w.store.isText e.1 = false → ∃ s' d',
        let failure := s'.refusal .invalidArgument ("Invalid attribute name: " ++ ·) e.1
        setAttributes v value w = .error (.raised failure) { w with store := s' } ∧
        s'.get? p.attributes = some (.dict d') ∧
        (∀ x, x ≠ p.attributes → s'.get? x = w.store.get? x) ∧
        w.store.Merged d.entries before d'.entries ∧
        (w.store.WholeNodes →
          (∃ text, failure = .message .invalidArgument ("Invalid attribute name: " ++ text)) ∨
            failure = Store.tooDeep)) ∧
    (w.store.entries? value = none →
      let failure := w.store.refusal .invalidArgument ("Invalid attributes: " ++ ·) value
      setAttributes v value w = .error (.raised failure) w ∧
        (w.store.WholeNodes →
          (∃ text, failure = .message .invalidArgument ("Invalid attributes: " ++ text)) ∨
            failure = Store.tooDeep)) := by
  refine ⟨?_, ?_, ?_⟩
  · intro entries hentries hkeyed htexts
    obtain ⟨d', hd', hrun⟩ := setEach_apply hnode hd htexts
    let s' := w.store.put p.attributes (.dict d')
    have hmerged : w.store.Merged d.entries entries d'.entries :=
      hd' ▸ Store.merged_insertAll d.entries htexts hkeyed
    have hd₁ : s'.get? p.attributes = some (.dict d') := Store.get?_put_here _ hd
    have hnode₁ : s'.get? v = some (.node p) := get?_putAttributes hnode hd d'
    refine ⟨s', d', ?_, hd₁, fun x hx => Store.get?_put_elsewhere _ _ hx, ?_, hmerged, ?_⟩
    · rw [setAttributes, Run.bind_apply, parts_gives _ hnode w rfl]
      simp only [Run.bind_apply, Run.store_apply, hentries, hrun]
      rfl
    · by_cases hown : value = p.attributes
      · -- the mapping is merged into itself
        have hsame : entries = d.entries := by
          rw [hown, Store.entries?, hd] at hentries
          exact (Option.some.inj hentries).symm
        subst hsame
        rw [hown, Store.entries?, hd₁]
        exact congrArg some (hd'.trans (Store.insertAll_of_subset hkeyed fun e he => he))
      · rw [Store.entries?, Store.get?_put_elsewhere _ _ hown]
        exact hentries
    · intro key hkey hsettles
      have hkey₁ : s'.isText key = true := (Store.isText_put _ hd rfl rfl key).trans hkey
      rw [getAttribute_apply (w := { w with store := s' }) hnode₁ hd₁ hkey₁]
      dsimp only
      rw [Store.lookup?_put hd rfl rfl _ hkey, hmerged.values key hkey hsettles]
  · intro before e after hentries hkeyed htexts he
    obtain ⟨d', hd', hrun⟩ := setEach_refuses hnode hd htexts he after
    have hbefore : w.store.Keyed before := (List.pairwise_append.mp hkeyed).1
    refine ⟨w.store.put p.attributes (.dict d'), d', ?_, Store.get?_put_here _ hd,
      fun x hx => Store.get?_put_elsewhere _ _ hx,
      hd' ▸ Store.merged_insertAll d.entries htexts hbefore,
      fun hwhole => Store.refusal_cases (hwhole.put hd rfl rfl) _ _ _⟩
    rw [setAttributes, Run.bind_apply, parts_gives _ hnode w rfl]
    simp only [Run.bind_apply, Run.store_apply, hentries, hrun]
  · intro hnone
    refine ⟨?_, fun hwhole => Store.refusal_cases hwhole _ _ _⟩
    rw [setAttributes, Run.bind_apply, parts_gives _ hnode w rfl]
    dsimp only
    rw [Run.bind_apply, Run.store_apply]
    dsimp only
    rw [hnone]
    exact Run.refusal_bind_apply .invalidArgument ("Invalid attributes: " ++ ·) value _ w

private def mixedNames : World Unit where
  store := ⟨#[
    .node ⟨.text "root", .ref 1, .ref 2, .ref 3⟩, .dict {}, .list [],
    .position (.int 0) (.int 0) (.int 0),
    .dict (.ofEntries [(.text "x", .int 1), (.int 2, .int 3), (.text "y", .int 4)])]⟩
  log := []
  client := ()

-- The first name is set although the second one is refused. The third one is not reached.
theorem setAttributes_merges_mixedNames :
    ∃ s' d', setAttributes (.ref 0) (.ref 4) mixedNames = .error (.raised (.message
        .invalidArgument "Invalid attribute name: 2")) { mixedNames with store := s' } ∧
      s'.get? (.ref 1) = some (.dict d') ∧ d'.entries.map Prod.fst = [.text "x"] ∧
      mixedNames.store.lookup? d'.entries (.text "x") = some (.int 1) := by
  let rest : List (Value × Value) := [(.text "y", .int 4)]
  have hkeyed : mixedNames.store.Keyed
      ([(.text "x", .int 1)] ++ (.int 2, .int 3) :: rest) := by
    unfold Store.Keyed
    decide
  have hsettles : mixedNames.store.Settles [.text "x", .text "x"] (.text "x") := by
    unfold Store.Settles
    decide
  obtain ⟨s', d', hrun, hd', -, hmerged, -⟩ :=
    (@setAttributes_merges Unit mixedNames (.ref 0) (.ref 4) _ _ rfl rfl).2.1
      [(.text "x", .int 1)] (.int 2, .int 3) rest rfl hkeyed (by decide) (by decide)
  have hfailure : s'.refusal .invalidArgument ("Invalid attribute name: " ++ ·) (.int 2) =
      .message .invalidArgument "Invalid attribute name: 2" := rfl
  refine ⟨s', d', hfailure ▸ hrun, hd', hmerged.places, ?_⟩
  exact hmerged.values (.text "x") rfl hsettles

end ParseKit.Node
