import ParseKit.Proofs.Node.Snapshot

namespace ParseKit

open Node (commaFields commaFields_cons toList_commas_cons)

-- What there is to say about a node, with the attributes in their order.
structure Account where
  type : String
  fields : List (String × Datum)
  line : String
  column : String

namespace Account

def At (s : Store) (v : Value) (a : Account) : Prop :=
  ∃ c : Node.Content, c.At s v ∧ c.type = a.type ∧
    List.Forall₂ (fun e f => s.text? e.1 = some f.1 ∧ f.2.At s e.2) c.fields a.fields ∧
    s.display c.line = .ok a.line ∧ s.display c.column = .ok a.column

def fieldShown (f : String × Datum) : String := f.1 ++ ": " ++ f.2.shown

def fieldsShown (a : Account) : List String := a.fields.map fieldShown

-- The line of a node.
def shown (a : Account) (depth : Nat) : String :=
  Node.lineText depth a.type a.fieldsShown a.line a.column

-- The same said in another order.
structure Rearranges (a b : Account) : Prop where
  type : a.type = b.type
  fields : a.fields.Perm b.fields
  line : a.line = b.line
  column : a.column = b.column

-- The attributes have different names, none of which has a colon in it.
structure Named (a : Account) : Prop where
  distinct : (a.fields.map Prod.fst).Nodup
  plain : ∀ f ∈ a.fields, ':' ∉ f.1.toList

end Account

-- The tree below a node, with what there is to say about its nodes.
def Store.Tells (s : Store) (root : Value) (picture : Forest Account) : Prop :=
  ∃ (below : Forest Value) (about : Value → Account), (Forest.cons root below .nil).In s ∧
    (Forest.cons root below .nil).labels.Nodup ∧
    (∀ v ∈ (Forest.cons root below .nil).labels, (about v).At s v) ∧
    picture = (Forest.cons root below .nil).map about

-- The lines of all nodes.
def Forest.told (picture : Forest Account) : String :=
  "".intercalate ((picture.levels 0).map fun l => l.1.shown l.2)

theorem commaFields_eq {texts : List String} (h : texts ≠ []) :
    commaFields texts = ", ".toList ++ (", ".intercalate texts).toList := by
  cases texts with
  | nil => exact absurd rfl h
  | cons t ts => rw [commaFields_cons, toList_commas_cons]

theorem commas_eq_iff {texts texts' : List String} (h : texts.length = texts'.length) :
    ", ".intercalate texts = ", ".intercalate texts' ↔ commaFields texts = commaFields texts' := by
  cases texts with
  | nil =>
      obtain rfl := List.length_eq_zero_iff.mp h.symm
      exact ⟨fun _ => rfl, fun _ => rfl⟩
  | cons t ts =>
      cases texts' with
      | nil => cases h
      | cons u us =>
          rw [commaFields_eq (List.cons_ne_nil t ts), commaFields_eq (List.cons_ne_nil u us),
            List.append_cancel_left_eq, String.toList_inj]

theorem fieldList_eq_iff {texts texts' : List String} (h : texts.length = texts'.length) :
    Node.fieldList texts = Node.fieldList texts' ↔
      ", ".intercalate texts = ", ".intercalate texts' := by
  cases texts with
  | nil =>
      obtain rfl := List.length_eq_zero_iff.mp h.symm
      exact ⟨fun _ => rfl, fun _ => rfl⟩
  | cons t ts =>
      cases texts' with
      | nil => cases h
      | cons u us => simp [Node.fieldList, String.append_left_inj, String.append_right_inj]

-- Two sequences of texts are the same if all texts are that stand in the same place, provided that
-- these have the same length.
theorem forall_eq_of_flatMap_eq {α β : Type} {f g : α → List β} {items : List α}
    (hlength : ∀ a ∈ items, (f a).length = (g a).length) (h : items.flatMap f = items.flatMap g) :
    ∀ a ∈ items, f a = g a := by
  induction items with
  | nil => simp
  | cons a items ih =>
      rw [List.flatMap_cons, List.flatMap_cons] at h
      obtain ⟨hfirst, hrest⟩ := List.append_inj h (hlength a (by simp))
      exact List.forall_mem_cons.mpr ⟨hfirst, ih (fun b hb => hlength b (by simp [hb])) hrest⟩

namespace Account

variable {a b : Account}

theorem toList_fieldShown (f : String × Datum) :
    (fieldShown f).toList = f.1.toList ++ ':' :: ' ' :: f.2.shown.toList := by
  simp [fieldShown]

-- Names without a colon end with the first one, so that different names have different attributes
-- after them.
theorem eq_of_fieldsShown {fields fields' : List (String × Datum)} (hperm : fields.Perm fields')
    (hdistinct : (fields.map Prod.fst).Nodup) (hplain : ∀ f ∈ fields, ':' ∉ f.1.toList)
    (h : commaFields (fields.map fieldShown) = commaFields (fields'.map fieldShown)) :
    fields = fields' := by
  induction fields generalizing fields' with
  | nil => rw [List.nil_perm.mp hperm]
  | cons f fields ih =>
      cases fields' with
      | nil => exact absurd hperm.symm (List.not_perm_nil_cons f fields)
      | cons g fields' =>
          have hg : g ∈ f :: fields := hperm.mem_iff.mpr List.mem_cons_self
          rw [List.map_cons, List.map_cons, commaFields_cons, commaFields_cons,
            List.append_cancel_left_eq] at h
          have hname : f.1 = g.1 := by
            have hchars := h
            simp only [toList_fieldShown, List.append_assoc, List.cons_append] at hchars
            have hword : ∀ x ∈ f :: fields, ∀ c ∈ x.1.toList, (c != ':') = true := by
              intro x hx c hc
              exact bne_iff_ne.mpr (ne_of_mem_of_not_mem hc (hplain x hx))
            exact String.toList_inj.mp (Text.span_unique (hword f List.mem_cons_self) (hword g hg)
              (by simp) (by simp) hchars).1
          obtain rfl : f = g :=
            List.inj_on_of_nodup_map hdistinct List.mem_cons_self hg hname
          rw [List.append_cancel_left_eq] at h
          rw [ih (List.Perm.cons_inv hperm) (List.nodup_cons.mp hdistinct).2
            (fun x hx => hplain x (List.mem_cons_of_mem _ hx)) h]

theorem Rearranges.fieldsShown_perm (h : a.Rearranges b) :
    a.fieldsShown.Perm b.fieldsShown := h.fields.map fieldShown

theorem Rearranges.length_shown (h : a.Rearranges b) (depth : Nat) :
    (a.shown depth).toList.length = (b.shown depth).toList.length := by
  have hfields : (Node.fieldList a.fieldsShown).toList.length =
      (Node.fieldList b.fieldsShown).toList.length := by
    have hperm := h.fieldsShown_perm
    by_cases hnil : a.fieldsShown = []
    · have hnil' : b.fieldsShown = [] := List.nil_perm.mp (hnil ▸ hperm)
      rw [hnil, hnil']
    · have hnil' : b.fieldsShown ≠ [] := fun hb => hnil (List.perm_nil.mp (hb ▸ hperm))
      have hcommas : (commaFields a.fieldsShown).length = (commaFields b.fieldsShown).length :=
        (hperm.flatMap_right _).length_eq
      rw [commaFields_eq hnil, commaFields_eq hnil', List.length_append, List.length_append] at hcommas
      simp only [Node.fieldList, List.isEmpty_iff, hnil, hnil', if_false, String.toList_append,
        List.length_append]
      omega
  simp only [shown, Node.lineText, h.type, h.line, h.column, String.toList_append,
    List.length_append, hfields]

theorem Rearranges.shown_eq_iff (h : a.Rearranges b) (depth : Nat) :
    a.shown depth = b.shown depth ↔
      ", ".intercalate a.fieldsShown = ", ".intercalate b.fieldsShown := by
  rw [← fieldList_eq_iff h.fieldsShown_perm.length_eq]
  simp [shown, Node.lineText, h.type, h.line, h.column, String.append_left_inj,
    String.append_right_inj]

theorem Rearranges.fields_eq_iff (h : a.Rearranges b) (hnamed : a.Named) :
    ", ".intercalate a.fieldsShown = ", ".intercalate b.fieldsShown ↔ a.fields = b.fields := by
  rw [commas_eq_iff h.fieldsShown_perm.length_eq]
  exact ⟨eq_of_fieldsShown h.fields hnamed.distinct hnamed.plain, fun hfields => by
    rw [fieldsShown, fieldsShown, hfields]⟩

theorem lineOf_eq {s : Store} {v : Value} (h : a.At s v) (depth : Nat) :
    Node.lineOf s v depth = .ok (a.shown depth) := by
  obtain ⟨c, hc, htype, hfields, hline, hcolumn⟩ := h
  have htexts : c.fields.mapM (Node.fieldText s) = .ok a.fieldsShown := by
    refine mapM_ok (List.forall₂_map_right_iff.mpr (hfields.imp fun e f hf => ?_))
    rw [Node.fieldText, Store.display_of_text? hf.1, formatValue_eq hf.2]
    rfl
  rw [hc.lineOf, htexts, hline, hcolumn, htype]
  rfl

end Account

namespace Node

variable {σ : Type}

theorem dump_of_tells {w : World σ} {root : Value} {picture : Forest Account}
    (h : w.store.Tells root picture) : dump root w = .ok picture.told w := by
  obtain ⟨below, about, htree, hdistinct, habout, rfl⟩ := h
  have hlines : linesOf w.store ((Forest.cons root below .nil).levels 0) =
      .ok (((Forest.cons root below .nil).levels 0).map fun l => (about l.1).shown l.2) :=
    mapM_eq_map fun l hl => (about l.1).lineOf_eq (habout l.1 (Forest.mem_labels_of_mem_levels hl)) l.2
  rw [dump_eq htree hdistinct, hlines, Forest.told, Forest.levels_map, List.map_map]
  rfl

theorem told_toList (pairs : Forest (Account × Account)) (side : Account × Account → Account) :
    (pairs.map side).told.toList =
      (pairs.levels 0).flatMap fun l => ((side l.1).shown l.2).toList := by
  rw [Forest.told, Forest.levels_map, Text.toList_intercalate_empty, List.map_map, List.flatMap_map]
  rfl

theorem told_eq_iff {pairs : Forest (Account × Account)}
    (hpairs : ∀ p ∈ pairs.labels, p.1.Rearranges p.2) :
    (pairs.map Prod.fst).told = (pairs.map Prod.snd).told ↔
      ∀ p ∈ pairs.labels, ", ".intercalate p.1.fieldsShown = ", ".intercalate p.2.fieldsShown := by
  have hlevels : ∀ l ∈ pairs.levels 0, l.1.1.Rearranges l.1.2 := fun l hl =>
    hpairs l.1 (Forest.mem_labels_of_mem_levels hl)
  rw [← String.toList_inj, told_toList, told_toList]
  constructor
  · intro hsame p hp
    obtain ⟨depth, hl⟩ := Forest.exists_mem_levels hp 0
    have hline := forall_eq_of_flatMap_eq (fun l hl => (hlevels l hl).length_shown l.2) hsame _ hl
    exact ((hpairs p hp).shown_eq_iff depth).mp (String.toList_inj.mp hline)
  · intro hfields
    refine List.flatMap_congr fun l hl => ?_
    rw [((hlevels l hl).shown_eq_iff l.2).mpr (hfields l.1 (Forest.mem_labels_of_mem_levels hl))]

-- Trees of the same shape whose nodes in the same place differ in nothing but the order of their
-- attributes have dumps of the same length. These are the same if and only if the texts of the
-- attributes of every node are, one after the other in their order. Where no name of an attribute
-- has a colon in it, this means that there is no difference in order at all.
theorem dump_rearranged {w w' : World σ} {root root' : Value} {pairs : Forest (Account × Account)}
    (h : w.store.Tells root (pairs.map Prod.fst)) (h' : w'.store.Tells root' (pairs.map Prod.snd))
    (hpairs : ∀ p ∈ pairs.labels, p.1.Rearranges p.2) :
    ∃ t t', dump root w = .ok t w ∧ dump root' w' = .ok t' w' ∧ t.length = t'.length ∧
      (t = t' ↔ ∀ p ∈ pairs.labels, ", ".intercalate p.1.fieldsShown = ", ".intercalate p.2.fieldsShown) ∧
      ((∀ p ∈ pairs.labels, p.1.Named) →
        (t = t' ↔ ∀ p ∈ pairs.labels, p.1.fields = p.2.fields)) := by
  refine ⟨_, _, dump_of_tells h, dump_of_tells h', ?_, told_eq_iff hpairs, fun hnamed => ?_⟩
  · rw [← String.length_toList, ← String.length_toList, told_toList, told_toList,
      List.length_flatMap, List.length_flatMap]
    refine congrArg List.sum (List.map_congr_left fun l hl => ?_)
    exact (hpairs l.1 (Forest.mem_labels_of_mem_levels hl)).length_shown l.2
  · rw [told_eq_iff hpairs]
    exact forall₂_congr fun p hp => (hpairs p hp).fields_eq_iff (hnamed p hp)

-- A sum over a leaf with the given attributes.
private def sumOver (entries : List (Value × Value)) : World Unit where
  store := ⟨#[.list [], .dict ⟨entries, {}⟩, .position (.int 1) (.int 2) (.int 1),
    .node ⟨.text "Leaf", .ref 1, .ref 0, .ref 2⟩, .list [.ref 3], .dict ⟨[], {}⟩,
    .node ⟨.text "Sum", .ref 5, .ref 4, .ref 2⟩]⟩
  log := []
  client := ()

private def leafAccount (fields : List (String × Datum)) : Account := ⟨"Leaf", fields, "1", "2"⟩

private def sumAccount : Account := ⟨"Sum", [], "1", "2"⟩

private theorem sumOver_tells {entries : List (Value × Value)} {fields : List (String × Datum)}
    (h : List.Forall₂ (fun e f => (sumOver entries).store.text? e.1 = some f.1 ∧
      f.2.At (sumOver entries).store e.2) entries fields) :
    (sumOver entries).store.Tells (.ref 6)
      (.cons sumAccount (.cons (leafAccount fields) .nil .nil) .nil) := by
  refine ⟨.cons (.ref 3) .nil .nil, fun v => if v = .ref 6 then sumAccount else leafAccount fields,
    ⟨⟨.ref 4, rfl⟩, ⟨⟨.ref 0, rfl⟩, trivial, trivial⟩, trivial⟩, by decide, fun v hv => ?_, rfl⟩
  simp only [Forest.labels, List.append_nil, List.mem_cons, List.not_mem_nil, or_false] at hv
  rcases hv with rfl | rfl
  · exact ⟨⟨"Sum", [], .int 1, .int 2⟩, ⟨_, _, .int 1, rfl, rfl, rfl, rfl, rfl⟩, rfl, .nil, rfl, rfl⟩
  · exact ⟨⟨"Leaf", entries, .int 1, .int 2⟩, ⟨_, _, .int 1, rfl, rfl, rfl, rfl, rfl⟩, rfl, h, rfl, rfl⟩

-- Two attributes in one order and in the other one.
theorem dump_rearranged_twoOrders : ∃ t t',
    dump (.ref 6) (sumOver [(.text "a", .int 1), (.text "b", .int 2)]) =
        .ok t (sumOver [(.text "a", .int 1), (.text "b", .int 2)]) ∧
      dump (.ref 6) (sumOver [(.text "b", .int 2), (.text "a", .int 1)]) =
        .ok t' (sumOver [(.text "b", .int 2), (.text "a", .int 1)]) ∧
      t.length = t'.length ∧ t ≠ t' := by
  let pairs : Forest (Account × Account) := .cons (sumAccount, sumAccount)
    (.cons (leafAccount [("a", .int 1), ("b", .int 2)],
      leafAccount [("b", .int 2), ("a", .int 1)]) .nil .nil) .nil
  have hpairs : ∀ p ∈ pairs.labels, p.1.Rearranges p.2 ∧ p.1.Named := by
    intro p hp
    simp only [pairs, Forest.labels, List.append_nil, List.mem_cons, List.not_mem_nil,
      or_false] at hp
    rcases hp with rfl | rfl
    · exact ⟨⟨rfl, .refl _, rfl, rfl⟩, by decide, by decide⟩
    · exact ⟨⟨rfl, .swap _ _ _, rfl, rfl⟩, by decide, by decide⟩
  have hone : (sumOver [(.text "a", .int 1), (.text "b", .int 2)]).store.Tells (.ref 6)
      (pairs.map Prod.fst) := sumOver_tells (.cons ⟨rfl, rfl⟩ (.cons ⟨rfl, rfl⟩ .nil))
  have hother : (sumOver [(.text "b", .int 2), (.text "a", .int 1)]).store.Tells (.ref 6)
      (pairs.map Prod.snd) := sumOver_tells (.cons ⟨rfl, rfl⟩ (.cons ⟨rfl, rfl⟩ .nil))
  obtain ⟨t, t', ht, ht', hlength, -, horder⟩ :=
    dump_rearranged hone hother fun p hp => (hpairs p hp).1
  refine ⟨t, t', ht, ht', hlength, fun hsame => ?_⟩
  have hfields := (horder fun p hp => (hpairs p hp).2).mp hsame
    (leafAccount [("a", .int 1), ("b", .int 2)], leafAccount [("b", .int 2), ("a", .int 1)])
    (by simp [pairs, Forest.labels])
  simp [leafAccount] at hfields

end Node

end ParseKit
