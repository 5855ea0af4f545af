import ParseKit.Proofs.Node.Dump
import ParseKit.Proofs.Node.WellFormed
import ParseKit.Proofs.Value.Format
import ParseKit.Proofs.Value.Inspect

namespace ParseKit

namespace Node

variable {σ : Type} {s : Store} {v : Value} {c : Content} {f : Failure} {depth : Nat}

theorem exists_content (h : s.WellFormed v) : ∃ c : Content, c.At s v := by
  obtain ⟨p, t, d, items, line, column, offset, hnode, ht, hd, -, hp⟩ :=
    h
  exact ⟨⟨t, d.entries, line, column⟩, p, d, offset, hnode, ht, hd, rfl, hp⟩

theorem Content.At.unique {c' : Content} (h : c.At s v) (h' : c'.At s v) : c = c' := by
  obtain ⟨type, fields, line, column⟩ := c
  obtain ⟨type', fields', line', column'⟩ := c'
  obtain ⟨p, d, offset, hnode, ht, hd, hfields, hp⟩ := h
  obtain ⟨p', d', offset', hnode', ht', hd', hfields', hp'⟩ := h'
  cases hnode.symm.trans hnode'
  cases ht.symm.trans ht'
  cases hd.symm.trans hd'
  cases hp.symm.trans hp'
  cases hfields.symm.trans hfields'
  rfl

-- What the line of a node is made of: the names of its attributes, what the literals of their
-- values come to, the line and the column.
inductive Holds (s : Store) (v : Value) : Value → Prop where
  | name {c : Content} {e : Value × Value} (content : c.At s v) (member : e ∈ c.fields) :
      Holds s v e.1
  | value {c : Content} {e : Value × Value} {u : Value} (content : c.At s v)
      (member : e ∈ c.fields) (reached : s.Reached e.2 u) : Holds s v u
  | line {c : Content} (content : c.At s v) : Holds s v c.line
  | column {c : Content} (content : c.At s v) : Holds s v c.column

-- An expression over bytes is the value of an attribute.
def HasBytesPattern (s : Store) (v : Value) : Prop :=
  ∃ c : Content, c.At s v ∧ ∃ e ∈ c.fields, s.isBytesPattern e.2 = true

-- A line of the type, the attributes with their names and values, the line and the column.
def Content.Line (s : Store) (c : Content) (depth : Nat) (line : String) : Prop :=
  ∃ fields l k, line = lineText depth c.type fields l k ∧
    List.Forall₂ (fun e text => ∃ name value, text = name ++ ": " ++ value ∧
      s.display e.1 = .ok name ∧ s.Rendered e.2 value) c.fields fields ∧
    s.display c.line = .ok l ∧ s.display c.column = .ok k

theorem fieldText_error {e : Value × Value} (h : fieldText s e = .error f) :
    s.display e.1 = .error f ∨ s.formatValue e.2 = .error f := by
  rcases bind_eq_error_iff.mp h with hname | ⟨_, -, h⟩
  · exact .inl hname
  · rcases bind_eq_error_iff.mp h with hvalue | ⟨_, -, h⟩
    · exact .inr hvalue
    · cases h

theorem lineOf_error (hc : c.At s v) (h : lineOf s v depth = .error f) :
    (f = Store.bytesRefusal ∧ HasBytesPattern s v) ∨ ∃ u, Holds s v u ∧ s.display u = .error f := by
  rw [hc.lineOf, bind_eq_error_iff] at h
  rcases h with hfields | ⟨_, -, h⟩
  · obtain ⟨e, he, hfield⟩ := exists_error_of_mapM hfields
    rcases fieldText_error hfield with hname | hvalue
    · exact .inr ⟨e.1, .name hc he, hname⟩
    · rcases Store.formatValue_error hvalue with ⟨hf, hbytes⟩ | ⟨u, hu, hfail⟩
      · exact .inl ⟨hf, c, hc, e, he, hbytes⟩
      · exact .inr ⟨u, .value hc he hu, hfail⟩
  · rcases bind_eq_error_iff.mp h with hline | ⟨_, -, h⟩
    · exact .inr ⟨c.line, .line hc, hline⟩
    · rcases bind_eq_error_iff.mp h with hcolumn | ⟨_, -, h⟩
      · exact .inr ⟨c.column, .column hc, hcolumn⟩
      · cases h

theorem exists_lineOf (hc : c.At s v) (hbytes : ¬HasBytesPattern s v)
    (hholds : ∀ u, Holds s v u → ∃ t, s.display u = .ok t) (depth : Nat) :
    ∃ line, lineOf s v depth = .ok line ∧ c.Line s depth line := by
  have hfield : ∀ e ∈ c.fields, ∃ text, fieldText s e = .ok text ∧ ∃ name value,
      text = name ++ ": " ++ value ∧ s.display e.1 = .ok name ∧ s.Rendered e.2 value := by
    intro e he
    have hplain : s.isBytesPattern e.2 = false :=
      Bool.eq_false_iff.mpr fun h => hbytes ⟨c, hc, e, he, h⟩
    obtain ⟨name, hname⟩ := hholds e.1 (.name hc he)
    obtain ⟨value, hvalue, hrendered⟩ :=
      Store.exists_formatValue hplain fun u hu => hholds u (.value hc he hu)
    exact ⟨_, by rw [fieldText, hname, hvalue]; rfl, name, value, rfl, hname, hrendered⟩
  obtain ⟨l, hl⟩ := hholds _ (.line hc)
  obtain ⟨k, hk⟩ := hholds _ (.column hc)
  obtain ⟨texts, htexts⟩ := exists_mapM_eq_ok fun e he => (hfield e he).imp fun _ h => h.1
  refine ⟨_, by rw [hc.lineOf, htexts, hl, hk]; rfl, texts, l, k, rfl, ?_, hl, hk⟩
  refine ((List.forall₂_and_left _ _).mpr ⟨hfield, mapM_eq_ok_iff.mp htexts⟩).imp ?_
  rintro e text ⟨⟨_, htext, hparts⟩, htext'⟩
  cases htext.symm.trans htext'
  exact hparts

section Tree

variable {w : World σ} {root : Value} {below : Forest Value}

theorem dump_apply (htree : (Forest.cons root below .nil).In w.store)
    (hdistinct : (Forest.cons root below .nil).labels.Nodup) :
    dump root w = match linesOf w.store ((Forest.cons root below .nil).levels 0) with
      | .ok lines => .ok ("".intercalate lines) w
      | .error f => .error (.raised f) w := by
  rw [dump_eq htree hdistinct]
  cases linesOf w.store ((Forest.cons root below .nil).levels 0) <;> rfl

-- The first line that cannot be made ends a dump.
theorem linesOf_error {levels : List (Value × Nat)}
    (hnodes : ∀ l ∈ levels, s.WellFormed l.1) (h : linesOf s levels = .error f) :
    ∃ l ∈ levels, (f = Store.bytesRefusal ∧ HasBytesPattern s l.1) ∨
      ∃ u, Holds s l.1 u ∧ s.display u = .error f := by
  obtain ⟨l, hl, hline⟩ := exists_error_of_mapM h
  obtain ⟨c, hc⟩ := exists_content (hnodes l hl)
  exact ⟨l, hl, lineOf_error hc hline⟩

theorem exists_linesOf {levels : List (Value × Nat)}
    (hnodes : ∀ l ∈ levels, s.WellFormed l.1)
    (hbytes : ∀ l ∈ levels, ¬HasBytesPattern s l.1)
    (hholds : ∀ l ∈ levels, ∀ u, Holds s l.1 u → ∃ t, s.display u = .ok t) :
    ∃ lines, linesOf s levels = .ok lines ∧
      List.Forall₂ (fun l line => ∃ c : Content, c.At s l.1 ∧ c.Line s l.2 line) levels lines := by
  have hline : ∀ l ∈ levels, ∃ line, lineOf s l.1 l.2 = .ok line ∧
      ∃ c : Content, c.At s l.1 ∧ c.Line s l.2 line := by
    intro l hl
    obtain ⟨c, hc⟩ := exists_content (hnodes l hl)
    obtain ⟨line, hline, hshape⟩ := exists_lineOf hc (hbytes l hl) (hholds l hl) l.2
    exact ⟨line, hline, c, hc, hshape⟩
  obtain ⟨lines, hlines⟩ := exists_mapM_eq_ok fun l hl => (hline l hl).imp fun _ h => h.1
  refine ⟨lines, hlines, ((List.forall₂_and_left _ _).mpr ⟨hline, mapM_eq_ok_iff.mp hlines⟩).imp ?_⟩
  rintro l line ⟨⟨_, hok, hshape⟩, hok'⟩
  cases hok.symm.trans hok'
  exact hshape

-- Where all else can be shown, one expression over bytes is enough to end a dump, with its refusal.
theorem linesOf_bytes {levels : List (Value × Nat)}
    (hnodes : ∀ l ∈ levels, s.WellFormed l.1)
    (hholds : ∀ l ∈ levels, ∀ u, Holds s l.1 u → ∃ t, s.display u = .ok t)
    {l : Value × Nat} (hl : l ∈ levels) (hbytes : HasBytesPattern s l.1) :
    linesOf s levels = .error Store.bytesRefusal := by
  obtain ⟨c, hc, e, he, hbytes⟩ := hbytes
  cases hlines : linesOf s levels with
  | ok lines =>
      -- all lines were made, and with them the text of the expression
      obtain ⟨line, hline⟩ := exists_ok_of_mapM hlines l hl
      obtain ⟨texts, htexts, -⟩ := bind_eq_ok_iff.mp ((hc.lineOf l.2).symm.trans hline)
      obtain ⟨text, htext⟩ := exists_ok_of_mapM htexts e he
      obtain ⟨name, -, hvalue⟩ := bind_eq_ok_iff.mp htext
      obtain ⟨value, hvalue, -⟩ := bind_eq_ok_iff.mp hvalue
      cases (Store.formatValue_bytes hbytes).symm.trans hvalue
  | error f =>
      obtain ⟨l', hl', ⟨rfl, -⟩ | ⟨u, hu, hfail⟩⟩ := linesOf_error hnodes hlines
      · rfl
      · obtain ⟨t, ht⟩ := hholds l' hl' u hu
        cases ht.symm.trans hfail

-- A dump of well-formed nodes leaves everything as it is. It fails with an expression over bytes
-- that is an attribute value, or because something in the tree cannot be shown, which among nodes
-- that can all be shown happens only to what is nested too deep. If all that is in the tree can be
-- shown, the dump fails exactly if there is such an expression, and otherwise it has a line for
-- every node.
theorem dump_fails (htree : (Forest.cons root below .nil).In w.store)
    (hdistinct : (Forest.cons root below .nil).labels.Nodup)
    (hnodes : ∀ v ∈ (Forest.cons root below .nil).labels, w.store.WellFormed v) :
    let tree := Forest.cons root below .nil
    (dump root).after w = w ∧
    (∀ fault w', dump root w = .error fault w' → ∃ f, fault = .raised f ∧
      ((f = Store.bytesRefusal ∧ ∃ v ∈ tree.labels, HasBytesPattern w.store v) ∨
        ∃ v ∈ tree.labels, ∃ u, Holds w.store v u ∧ w.store.display u = .error f ∧
          (w.store.WholeNodes → f = Store.tooDeep))) ∧
    ((∀ v ∈ tree.labels, ∀ u, Holds w.store v u → ∃ t, w.store.display u = .ok t) →
      ((∃ v ∈ tree.labels, HasBytesPattern w.store v) →
        dump root w = .error (.raised Store.bytesRefusal) w) ∧
      ((∀ v ∈ tree.labels, ¬HasBytesPattern w.store v) →
        ∃ lines, dump root w = .ok ("".intercalate lines) w ∧
          List.Forall₂ (fun l line => ∃ c : Content, c.At w.store l.1 ∧ c.Line w.store l.2 line)
            (tree.levels 0) lines)) := by
  intro tree
  have hdump := dump_apply htree hdistinct
  have hlevels : ∀ l ∈ tree.levels 0, w.store.WellFormed l.1 := fun l hl =>
    hnodes l.1 (Forest.mem_labels_of_mem_levels hl)
  refine ⟨?_, fun fault w' h => ?_, fun hholds => ⟨?_, fun hbytes => ?_⟩⟩
  · rw [Run.after, hdump]
    cases linesOf w.store (tree.levels 0) <;> rfl
  · cases hlines : linesOf w.store (tree.levels 0) with
    | ok lines =>
        rw [hdump, hlines] at h
        cases h
    | error f =>
        rw [hdump, hlines] at h
        cases h
        obtain ⟨l, hl, hfault⟩ := linesOf_error hlevels hlines
        have hv := Forest.mem_labels_of_mem_levels hl
        refine ⟨f, rfl, ?_⟩
        rcases hfault with ⟨hf, hbytes⟩ | ⟨u, hu, hfail⟩
        · exact .inl ⟨hf, l.1, hv, hbytes⟩
        · exact .inr ⟨l.1, hv, u, hu, hfail, fun hwhole =>
            Store.display_onlyTooDeep hwhole u f hfail⟩
  · rintro ⟨v, hv, hbytes⟩
    obtain ⟨d, hd⟩ := Forest.exists_mem_levels hv 0
    rw [hdump, linesOf_bytes hlevels
      (fun l hl => hholds l.1 (Forest.mem_labels_of_mem_levels hl)) hd hbytes]
  · obtain ⟨lines, hlines, hshape⟩ := exists_linesOf hlevels
      (fun l hl => hbytes l.1 (Forest.mem_labels_of_mem_levels hl))
      fun l hl => hholds l.1 (Forest.mem_labels_of_mem_levels hl)
    exact ⟨lines, by rw [hdump, hlines], hshape⟩

-- A sum over a leaf with one attribute. There are a list that stands inside itself and an
-- expression over bytes for it.
private def leafWith (value : Value) : World Unit where
  store := ⟨#[.list [.ref 0], .pattern ⟨.bytes, ['a']⟩, .list [], .dict ⟨[(.text "m", value)], {}⟩,
    .position (.int 1) (.int 2) (.int 1), .node ⟨.text "Leaf", .ref 3, .ref 2, .ref 4⟩,
    .list [.ref 5], .dict ⟨[], {}⟩, .node ⟨.text "Sum", .ref 7, .ref 6, .ref 4⟩]⟩
  log := []
  client := ()

private theorem holds_leafWith {value v u : Value}
    (hvalue : ∀ x ∈ (leafWith value).store.inner value, x = value)
    (hv : v = .ref 8 ∨ v = .ref 5) (hu : Holds (leafWith value).store v u) :
    u ∈ [.text "m", value, .int 1, .int 2] := by
  have hreached : ∀ x, (leafWith value).store.Reached value x → x = value := by
    intro x hx
    induction hx with
    | refl => rfl
    | tail _ hstep ih => exact hvalue _ (ih ▸ hstep)
  have hroot : (⟨"Sum", [], .int 1, .int 2⟩ : Content).At (leafWith value).store (.ref 8) :=
    ⟨_, _, .int 1, rfl, rfl, rfl, rfl, rfl⟩
  have hleaf : (⟨"Leaf", [(.text "m", value)], .int 1, .int 2⟩ : Content).At
      (leafWith value).store (.ref 5) := ⟨_, _, .int 1, rfl, rfl, rfl, rfl, rfl⟩
  rcases hv with rfl | rfl
  · cases hu with
    | name content member | value content member => cases content.unique hroot ▸ member
    | line content | column content => simp [content.unique hroot]
  · cases hu with
    | name content member =>
        rw [content.unique hleaf] at member
        cases List.mem_singleton.mp member
        simp
    | value content member reached =>
        rw [content.unique hleaf] at member
        cases List.mem_singleton.mp member
        simp [hreached _ reached]
    | line content | column content => simp [content.unique hleaf]

-- The expression over bytes has no text, and the list has one.
theorem dump_fails_leafWith :
    dump (.ref 8) (leafWith (.ref 1)) =
        .error (.raised Store.bytesRefusal) (leafWith (.ref 1)) ∧
      ∃ lines, dump (.ref 8) (leafWith (.ref 0)) =
        .ok ("".intercalate lines) (leafWith (.ref 0)) ∧ lines.length = 2 := by
  have htree : ∀ value, (Forest.cons (.ref 8) (.cons (.ref 5) .nil .nil) .nil).In
      (leafWith value).store := fun value =>
    ⟨⟨.ref 6, rfl⟩, ⟨⟨.ref 2, rfl⟩, trivial, trivial⟩, trivial⟩
  have hlabels : ∀ v ∈ (Forest.cons (.ref 8) (.cons (.ref 5) .nil .nil) .nil).labels,
      v = .ref 8 ∨ v = Value.ref 5 := by
    simp [Forest.labels]
  constructor
  · obtain ⟨-, -, hdump⟩ := dump_fails (htree (.ref 1)) (by decide) (by decide)
    refine (hdump fun v hv u hu => ?_).1 ⟨.ref 5, by simp [Forest.labels], ?_⟩
    · have hmem := holds_leafWith (by decide) (hlabels v hv) hu
      simp only [List.mem_cons, List.not_mem_nil, or_false] at hmem
      rcases hmem with rfl | rfl | rfl | rfl <;> exact ⟨_, rfl⟩
    · exact ⟨⟨"Leaf", [(.text "m", .ref 1)], .int 1, .int 2⟩, ⟨_, _, .int 1, rfl, rfl, rfl, rfl, rfl⟩,
        _, List.mem_singleton_self _, rfl⟩
  · obtain ⟨-, -, hdump⟩ := dump_fails (htree (.ref 0)) (by decide) (by decide)
    have hholds : ∀ {v u : Value},
        v ∈ (Forest.cons (.ref 8) (.cons (.ref 5) .nil .nil) .nil).labels →
        Holds (leafWith (.ref 0)).store v u → u ∈ [.text "m", .ref 0, .int 1, .int 2] :=
      fun hv hu => holds_leafWith (by decide) (hlabels _ hv) hu
    have hdisplay : ∀ u ∈ [Value.text "m", .ref 0, .int 1, .int 2],
        ∃ t, (leafWith (.ref 0)).store.display u = .ok t := by
      intro u hu
      simp only [List.mem_cons, List.not_mem_nil, or_false] at hu
      rcases hu with rfl | rfl | rfl | rfl <;> exact ⟨_, rfl⟩
    have hbytes : ∀ u ∈ [Value.text "m", .ref 0, .int 1, .int 2],
        (leafWith (.ref 0)).store.isBytesPattern u = false := by decide
    have hnone : ∀ v ∈ (Forest.cons (.ref 8) (.cons (.ref 5) .nil .nil) .nil).labels,
        ¬HasBytesPattern (leafWith (.ref 0)).store v := by
      rintro v hv ⟨c, hc, e, he, hpattern⟩
      cases (hbytes _ (hholds hv (.value hc he .refl))).symm.trans hpattern
    obtain ⟨lines, hlines, hshape⟩ := (hdump fun v hv u hu => hdisplay u (hholds hv hu)).2 hnone
    exact ⟨lines, hlines, hshape.length_eq.symm⟩

-- A node without a position that is the value of an attribute.
private def strippedValue : World Unit where
  store := ⟨#[.dict ⟨[], {}⟩, .list [], .node ⟨.text "a", .ref 0, .ref 1, .null⟩,
    .dict ⟨[(.text "k", .ref 2)], {}⟩, .position (.int 0) (.int 0) (.int 0),
    .node ⟨.text "r", .ref 3, .ref 1, .ref 4⟩]⟩
  log := []
  client := ()

-- It cannot be shown, and nothing keeps that from ending the dump.
example : dump (.ref 5) strippedValue = .error (.raised (.message .attributeError
    "'NoneType' object has no attribute 'line'")) strippedValue := by
  rfl

end Tree

end Node

end ParseKit
