import ParseKit.Proofs.Node.Merging
import ParseKit.Proofs.Node.Unprintable
import ParseKit.Proofs.Text.Code
import ParseKit.Proofs.Value.Mention

namespace ParseKit

namespace Store

variable {s : Store}

-- All that the text of a value comes to, the value itself among it.
def Involves (s : Store) : Value → Value → Prop := Relation.ReflTransGen s.Mentions

-- A change of an object can only be seen in texts that come to it.
theorem alike_put (s : Store) (x : Value) (o : Object) :
    Alike s (s.put x o) fun v => ¬s.Involves v x where
  size := size_put s x o
  same _ hv := get?_put_elsewhere s o fun h => hv (h ▸ .refl)
  closed _ _ hv hstep hu := hv (.head hstep hu)

theorem keepsChildren_putDict {x : Value} {d : Dictionary} (hx : s.get? x = some (.dict d))
    (d' : Dictionary) : KeepsChildren s (s.put x (.dict d')) := by
  rintro v ⟨holder, items⟩ hv
  obtain ⟨p, hnode, rfl, hlist⟩ := childrenOf?_eq_some hv
  have hnode' : (s.put x (.dict d')).get? v = some (.node p) := by
    rw [get?_put_elsewhere s _ (ne_of_get? hnode hx (by simp)), hnode]
  refine childrenOf?_of_get? hnode' ?_
  rw [get?_put_elsewhere s _ (ne_of_get? hlist hx (by simp)), hlist]

theorem not_involves {v x : Value} (hv : s.get? v = none) (hne : v ≠ x) : ¬s.Involves v x := by
  intro h
  rcases h.cases_head with h | ⟨u, hstep, -⟩
  · exact hne h
  · cases hstep with
    | written object | place object => cases hv.symm.trans object

theorem Alike.formatValue_eq {s' : Store} {known : Value → Prop} {v : Value}
    (h : Alike s s' known) (hv : known v) : s'.formatValue v = s.formatValue v := by
  simp only [formatValue, h.text?_eq hv, h.same v hv, h.json_eq hv, h.display_eq hv]

-- A new value has its place among the entries whatever it is.
theorem exists_insert (s : Store) (entries : List (Value × Value)) (key : Value) :
    ∃ before k after, (∀ value, s.insert entries key value = before ++ (k, value) :: after) ∧
      (k = key ∨ ∃ e ∈ entries, k = e.1) ∧ (∀ e ∈ before, e ∈ entries) ∧
      ∀ e ∈ after, e ∈ entries := by
  induction entries with
  | nil => exact ⟨[], key, [], fun _ => rfl, .inl rfl, by simp, by simp⟩
  | cons e rest ih =>
      by_cases hsame : s.same e.1 key = true
      · exact ⟨[], e.1, rest, fun value => by rw [insert, if_pos hsame]; rfl,
          .inr ⟨e, by simp, rfl⟩, by simp, fun _ h => .tail _ h⟩
      · obtain ⟨before, k, after, hinsert, hk, hbefore, hafter⟩ := ih
        refine ⟨e :: before, k, after, fun value => by rw [insert, if_neg hsame, hinsert]; rfl, ?_,
          List.forall_mem_cons.mpr ⟨by simp, fun e he => .tail _ (hbefore e he)⟩,
          fun e he => .tail _ (hafter e he)⟩
        rcases hk with hk | ⟨old, hold, hk⟩
        · exact .inl hk
        · exact .inr ⟨old, .tail _ hold, hk⟩

end Store

-- A text that is made by putting a part between two others, whatever the part is, or that cannot be
-- made, whatever it is.
def Frames (make : String → Except Failure String) : Prop :=
  ∃ r : Except Failure (String × String), ∀ t, make t = (fun p => p.1 ++ t ++ p.2) <$> r

namespace Frames

variable {α : Type} {make : String → Except Failure String}

theorem ok (front back : String) :
    Frames fun t => (pure (front ++ t ++ back) : Except Failure String) :=
  ⟨.ok (front, back), fun _ => rfl⟩

theorem bind {x : Except Failure α} {make : α → String → Except Failure String}
    (h : ∀ a, Frames (make a)) : Frames fun t => x >>= fun a => make a t := by
  cases x with
  | error f => exact ⟨.error f, fun _ => rfl⟩
  | ok a => exact h a

theorem andThen (h : Frames make) (front : String) {x : Except Failure α} (back : α → String) :
    Frames fun t => do
      let u ← make t
      let a ← x
      return front ++ u ++ back a := by
  obtain ⟨r, hr⟩ := h
  cases r with
  | error f => exact ⟨.error f, fun t => by dsimp only; rw [hr]; rfl⟩
  | ok p =>
      cases x with
      | error f => exact ⟨.error f, fun t => by dsimp only; rw [hr]; rfl⟩
      | ok a =>
          refine ⟨.ok (front ++ p.1, p.2 ++ back a), fun t => ?_⟩
          dsimp only
          rw [hr]
          simp only [Functor.map, Except.map, ok_bind, pure, Except.pure, String.append_assoc]

end Frames

namespace Node

-- None of the texts in the line of a node comes to a value.
structure Content.Free (s : Store) (c : Content) (x : Value) : Prop where
  fields : ∀ e ∈ c.fields, ¬s.Involves e.1 x ∧ ¬s.Involves e.2 x
  line : ¬s.Involves c.line x
  column : ¬s.Involves c.column x

-- One of several texts with commas between them, and a line with it.
theorem exists_commas (before after : List String) :
    ∃ front back, ∀ t, ", ".intercalate (before ++ t :: after) = front ++ t ++ back := by
  cases before with
  | nil =>
      refine ⟨"", String.ofList (commaFields after), fun t => ?_⟩
      rw [← String.toList_inj, List.nil_append, toList_commas_cons]
      simp
  | cons first before =>
      refine ⟨first ++ String.ofList (commaFields before) ++ ", ", String.ofList (commaFields after),
        fun t => ?_⟩
      rw [← String.toList_inj, List.cons_append, toList_commas_cons]
      simp [commaFields]

theorem exists_lineText (depth : Nat) (type : String) (before after : List String)
    (name line column : String) : ∃ front back, ∀ t,
      lineText depth type (before ++ (name ++ ": " ++ t) :: after) line column =
        front ++ t ++ back := by
  obtain ⟨front, back, h⟩ := exists_commas before after
  refine ⟨String.ofList (List.replicate (4 * depth) ' ') ++ type ++ " " ++ "(" ++ front ++ name ++
      ": ",
    back ++ ") " ++ "[" ++ line ++ "/" ++ column ++ "]\n", fun t => ?_⟩
  have hfields : fieldList (before ++ (name ++ ": " ++ t) :: after) =
      "(" ++ (front ++ (name ++ ": " ++ t) ++ back) ++ ") " := by
    rw [fieldList, h, if_neg (by simp)]
  rw [lineText, hfields]
  simp only [String.append_assoc]

section Put

variable {s : Store} {v x : Value} {d d' : Dictionary} {c : Content}

theorem fieldText_put {e : Value × Value} (h : ¬s.Involves e.1 x ∧ ¬s.Involves e.2 x) (o : Object) :
    fieldText (s.put x o) e = fieldText s e := by
  have halike := Store.alike_put s x o
  rw [fieldText, fieldText, halike.display_eq h.1, halike.formatValue_eq h.2]

theorem mapM_fieldText_put {entries : List (Value × Value)}
    (h : ∀ e ∈ entries, ¬s.Involves e.1 x ∧ ¬s.Involves e.2 x) (o : Object) :
    entries.mapM (fieldText (s.put x o)) = entries.mapM (fieldText s) :=
  mapM_congr fun e he => fieldText_put (h e he) o

-- A change of a dictionary is only seen in a node if its attributes are there.
theorem Content.At.put {p : NodeParts} {fields : List (Value × Value)} (hc : c.At s v)
    (hnode : s.get? v = some (.node p)) (hx : s.get? x = some (.dict d)) (d' : Dictionary)
    (hfields : ∃ a : Dictionary, (s.put x (.dict d')).get? p.attributes = some (.dict a) ∧
      a.entries = fields) :
    Content.At (s.put x (.dict d')) v { c with fields := fields } := by
  obtain ⟨_, _, offset, hnode', htype, -, -, hposition⟩ := hc
  cases hnode.symm.trans hnode'
  obtain ⟨a, ha, hentries⟩ := hfields
  refine ⟨p, a, offset, ?_, ?_, ha, hentries, ?_⟩
  · rw [Store.get?_put_elsewhere s _ (Store.ne_of_get? hnode hx (by simp)), hnode]
  · rw [Store.text?_put _ hx rfl rfl, htype]
  · rw [Store.get?_put_elsewhere s _ (Store.ne_of_get? hposition hx (by simp)), hposition]

-- A node whose attributes are not in the dictionary that is changed keeps its line.
theorem lineOf_put (hc : c.At s v) (hfree : c.Free s x) (hx : s.get? x = some (.dict d))
    (hown : ∀ p, s.get? v = some (.node p) → p.attributes ≠ x) (d' : Dictionary) (depth : Nat) :
    lineOf (s.put x (.dict d')) v depth = lineOf s v depth := by
  have hc' : c.At (s.put x (.dict d')) v := by
    obtain ⟨p, a, -, hnode, -, ha, hfields, -⟩ := id hc
    exact hc.put hnode hx d'
      ⟨a, (Store.get?_put_elsewhere s _ (hown p hnode)).trans ha, hfields⟩
  have halike := Store.alike_put s x (.dict d')
  rw [hc'.lineOf, hc.lineOf, mapM_fieldText_put hfree.fields, halike.display_eq hfree.line,
    halike.display_eq hfree.column]

-- The line of a node with a text under a name: the text stands in quotes between two others.
theorem frames_lineOf {p : NodeParts} {key : Value} (hc : c.At s v)
    (hnode : s.get? v = some (.node p)) (hd : s.get? p.attributes = some (.dict d))
    (hkey : s.isText key = true) (hfree : c.Free s p.attributes) (depth : Nat) :
    ∃ make, Frames make ∧ ∀ value t, s.text? value = some t →
      lineOf (s.put p.attributes (.dict (d.insert s key value))) v depth =
        make (doubleQuoted t) := by
  obtain ⟨_, _, -, hnode', -, hd', hfields, -⟩ := id hc
  cases hnode.symm.trans hnode'
  cases hd.symm.trans hd'
  obtain ⟨before, k, after, hinsert, hk, hbefore, hafter⟩ := Store.exists_insert s d.entries key
  rw [hfields] at hbefore hafter hk
  refine ⟨fun t => do
    let bs ← before.mapM (fieldText s)
    let name ← s.display k
    let as ← after.mapM (fieldText s)
    let line ← s.display c.line
    let column ← s.display c.column
    return lineText depth c.type (bs ++ (name ++ ": " ++ t) :: as) line column, ?_, ?_⟩
  · refine .bind fun bs => .bind fun name => .bind fun as => .bind fun line => .bind fun column => ?_
    obtain ⟨front, back, hline⟩ := exists_lineText depth c.type bs as name line column
    simp only [hline]
    exact .ok front back
  · intro value t hvalue
    let d' := d.insert s key value
    have hentries : d'.entries = before ++ (k, value) :: after := hinsert value
    have halike := Store.alike_put s p.attributes (.dict d')
    have hc' : Content.At (s.put p.attributes (.dict d')) v { c with fields := d'.entries } :=
      hc.put hnode hd d' ⟨d', Store.get?_put_here _ hd, rfl⟩
    have hname : (s.put p.attributes (.dict d')).display k = s.display k := by
      rcases hk with rfl | ⟨e, he, rfl⟩
      · obtain ⟨u, hu⟩ := Option.isSome_iff_exists.mp hkey
        rw [Store.display_of_text? hu,
          Store.display_of_text? ((Store.text?_put _ hd rfl rfl k).trans hu)]
      · exact halike.display_eq (hfree.fields e he).1
    have hshown : (s.put p.attributes (.dict d')).formatValue value = .ok (doubleQuoted t) :=
      Store.formatValue_text ((Store.text?_put _ hd rfl rfl value).trans hvalue)
    rw [hc'.lineOf, hentries, List.mapM_append, List.mapM_cons,
      mapM_fieldText_put (fun e he => hfree.fields e (hbefore e he)),
      mapM_fieldText_put (fun e he => hfree.fields e (hafter e he)),
      halike.display_eq hfree.line, halike.display_eq hfree.column, fieldText, hname, hshown]
    simp only [bind_assoc, pure_bind, ok_bind]

end Put

theorem intercalate_middle (before after : List String) (t : String) :
    "".intercalate (before ++ t :: after) =
      "".intercalate before ++ t ++ "".intercalate after := by
  rw [← String.toList_inj]
  simp only [String.toList_append, Text.toList_intercalate_empty, List.flatMap_append,
    List.flatMap_cons, List.append_assoc]

theorem linesOf_append (s : Store) (levels more : List (Value × Nat)) :
    linesOf s (levels ++ more) = (do return (← linesOf s levels) ++ (← linesOf s more)) := by
  simp [linesOf]

section Tree

variable {σ : Type} {w : World σ} {root v key : Value} {below : Forest Value} {p : NodeParts}
  {d : Dictionary}

-- The dump of a tree with a text under a name of one of its nodes: the text stands in quotes
-- between two others. There is one line for the node, and the other lines do not depend on the
-- text.
theorem frames_dump (htree : (Forest.cons root below .nil).In w.store)
    (hdistinct : (Forest.cons root below .nil).labels.Nodup)
    (hnodes : ∀ u ∈ (Forest.cons root below .nil).labels, w.store.WellFormed u)
    (hv : v ∈ (Forest.cons root below .nil).labels) (hnode : w.store.get? v = some (.node p))
    (hd : w.store.get? p.attributes = some (.dict d)) (hkey : w.store.isText key = true)
    (hown : ∀ u ∈ (Forest.cons root below .nil).labels, ∀ q,
      w.store.get? u = some (.node q) → q.attributes = p.attributes → u = v)
    (hfree : ∀ u ∈ (Forest.cons root below .nil).labels, ∀ c : Content, c.At w.store u →
      c.Free w.store p.attributes) :
    ∃ make, Frames make ∧ ∀ value t, w.store.text? value = some t →
      ∃ w', setAttribute v key value w = .ok v w' ∧
        dump root w' = (Run.ofExcept (make (doubleQuoted t)) : Run σ String) w' := by
  obtain ⟨depth, hlevel⟩ := Forest.exists_mem_levels hv 0
  obtain ⟨before, after, hsplit⟩ := List.append_of_mem hlevel
  have hlabels := (Forest.cons root below .nil).map_fst_levels 0
  rw [hsplit, List.map_append, List.map_cons] at hlabels
  have hapart : v ∉ before.map Prod.fst ∧ v ∉ after.map Prod.fst := by
    have hnodup := hlabels ▸ hdistinct
    rw [List.nodup_middle, List.nodup_cons, List.mem_append, not_or] at hnodup
    exact hnodup.1
  have hkept : ∀ (d' : Dictionary) (levels : List (Value × Nat)),
      (∀ l ∈ levels, l ∈ (Forest.cons root below .nil).levels 0) → v ∉ levels.map Prod.fst →
      linesOf (w.store.put p.attributes (.dict d')) levels = linesOf w.store levels := by
    intro d' levels hlevels hnot
    refine mapM_congr fun l hl => ?_
    have hu := Forest.mem_labels_of_mem_levels (hlevels l hl)
    obtain ⟨c, hc⟩ := exists_content (hnodes l.1 hu)
    refine lineOf_put hc (hfree l.1 hu c hc) hd (fun q hq hsame => ?_) d' l.2
    exact hnot (List.mem_map.mpr ⟨l, hl, hown l.1 hu q hq hsame⟩)
  obtain ⟨c, hc⟩ := exists_content (hnodes v hv)
  obtain ⟨make, hmake, hline⟩ := frames_lineOf hc hnode hd hkey (hfree v hv c hc) depth
  refine ⟨fun t => do
    let lines ← linesOf w.store before
    let line ← make t
    let more ← linesOf w.store after
    return "".intercalate lines ++ line ++ "".intercalate more, ?_, fun value t hvalue => ?_⟩
  · exact .bind fun lines => hmake.andThen _ _
  · refine ⟨_, setAttribute_apply hnode hd hkey value, ?_⟩
    rw [dump_eq (htree.keep (Store.keepsChildren_putDict hd _)) hdistinct, hsplit, linesOf_append,
      linesOf_cons, hkept _ before (fun l hl => by rw [hsplit]; simp [hl]) hapart.1,
      hkept _ after (fun l hl => by rw [hsplit]; simp [hl]) hapart.2, hline value t hvalue]
    simp only [map_eq_pure_bind, bind_assoc, pure_bind, intercalate_middle]

-- Two dumps of a tree with different texts for one attribute of one of its nodes, where no other
-- text comes to the attributes of this node. If one of them fails, so does the other one. Otherwise
-- they are the same if and only if the texts are as soon as their line ends are written as a
-- backslash with an n after it. So the texts can be told from the dumps if neither of them has
-- these two characters in it.
theorem dump_quotes {value value' : Value} {t t' : String}
    (htree : (Forest.cons root below .nil).In w.store)
    (hdistinct : (Forest.cons root below .nil).labels.Nodup)
    (hnodes : ∀ u ∈ (Forest.cons root below .nil).labels, w.store.WellFormed u)
    (hv : v ∈ (Forest.cons root below .nil).labels) (hnode : w.store.get? v = some (.node p))
    (hd : w.store.get? p.attributes = some (.dict d)) (hkey : w.store.isText key = true)
    (hown : ∀ u ∈ (Forest.cons root below .nil).labels, ∀ q,
      w.store.get? u = some (.node q) → q.attributes = p.attributes → u = v)
    (hfree : ∀ u ∈ (Forest.cons root below .nil).labels, ∀ c : Content, c.At w.store u →
      c.Free w.store p.attributes)
    (hvalue : w.store.text? value = some t) (hvalue' : w.store.text? value' = some t') :
    ∃ w₁ w₂, setAttribute v key value w = .ok v w₁ ∧ setAttribute v key value' w = .ok v w₂ ∧
      ((∃ f, dump root w₁ = .error (.raised f) w₁ ∧ dump root w₂ = .error (.raised f) w₂) ∨
        ∃ text text', dump root w₁ = .ok text w₁ ∧ dump root w₂ = .ok text' w₂ ∧
          (text = text' ↔ onOneLine t.toList = onOneLine t'.toList) ∧
          (¬['\\', 'n'] <:+: t.toList → ¬['\\', 'n'] <:+: t'.toList → (text = text' ↔ t = t'))) := by
  obtain ⟨make, ⟨r, hr⟩, hmake⟩ := frames_dump htree hdistinct hnodes hv hnode hd hkey hown hfree
  obtain ⟨w₁, hset, hdump⟩ := hmake value t hvalue
  obtain ⟨w₂, hset', hdump'⟩ := hmake value' t' hvalue'
  refine ⟨w₁, w₂, hset, hset', ?_⟩
  rw [hr] at hdump hdump'
  cases r with
  | error f => exact .inl ⟨f, hdump, hdump'⟩
  | ok p =>
      have hsame : p.1 ++ doubleQuoted t ++ p.2 = p.1 ++ doubleQuoted t' ++ p.2 ↔
          onOneLine t.toList = onOneLine t'.toList := by
        rw [String.append_left_inj, String.append_right_inj, doubleQuoted_eq_iff]
      refine .inr ⟨_, _, hdump, hdump', hsame, fun ht ht' => hsame.trans ⟨fun h => ?_, fun h => ?_⟩⟩
      · exact String.toList_inj.mp (onOneLine_inj ht ht' h)
      · rw [h]

-- A sum over a leaf.
private def plainSum : World Unit where
  store := ⟨#[.list [], .dict ⟨[], {}⟩, .position (.int 1) (.int 2) (.int 1),
    .node ⟨.text "Leaf", .ref 1, .ref 0, .ref 2⟩, .list [.ref 3], .dict ⟨[], {}⟩,
    .node ⟨.text "Sum", .ref 5, .ref 4, .ref 2⟩]⟩
  log := []
  client := ()

-- A line end, and a backslash with an n after it.
theorem dump_quotes_lineEnd : ∃ w₁ w₂ text,
    setAttribute (.ref 3) (.text "m") (.text "a\nb") plainSum = .ok (.ref 3) w₁ ∧
      setAttribute (.ref 3) (.text "m") (.text "a\\nb") plainSum = .ok (.ref 3) w₂ ∧
      dump (.ref 6) w₁ = .ok text w₁ ∧ dump (.ref 6) w₂ = .ok text w₂ := by
  have htree : (Forest.cons (.ref 6) (.cons (.ref 3) .nil .nil) .nil).In plainSum.store :=
    ⟨⟨.ref 4, rfl⟩, ⟨⟨.ref 0, rfl⟩, trivial, trivial⟩, trivial⟩
  have hlabels : ∀ u ∈ (Forest.cons (.ref 6) (.cons (.ref 3) .nil .nil) .nil).labels,
      u = .ref 6 ∨ u = Value.ref 3 := by
    simp [Forest.labels]
  have hown : ∀ u ∈ (Forest.cons (.ref 6) (.cons (.ref 3) .nil .nil) .nil).labels, ∀ q,
      plainSum.store.get? u = some (.node q) → q.attributes = .ref 1 → u = .ref 3 := by
    intro u hu q hq hsame
    rcases hlabels u hu with rfl | rfl
    · cases hq
      cases hsame
    · rfl
  have hfree : ∀ u ∈ (Forest.cons (.ref 6) (.cons (.ref 3) .nil .nil) .nil).labels,
      ∀ c : Content, c.At plainSum.store u → c.Free plainSum.store (.ref 1) := by
    intro u hu c hc
    have hline : ¬plainSum.store.Involves (.int 1) (.ref 1) := Store.not_involves rfl (by simp)
    have hcolumn : ¬plainSum.store.Involves (.int 2) (.ref 1) := Store.not_involves rfl (by simp)
    rcases hlabels u hu with rfl | rfl
    · have hroot : (⟨"Sum", [], .int 1, .int 2⟩ : Content).At plainSum.store (.ref 6) :=
        ⟨_, _, .int 1, rfl, rfl, rfl, rfl, rfl⟩
      exact hc.unique hroot ▸ ⟨by simp, hline, hcolumn⟩
    · have hleaf : (⟨"Leaf", [], .int 1, .int 2⟩ : Content).At plainSum.store (.ref 3) :=
        ⟨_, _, .int 1, rfl, rfl, rfl, rfl, rfl⟩
      exact hc.unique hleaf ▸ ⟨by simp, hline, hcolumn⟩
  obtain ⟨w₁, w₂, hset, hset', hdump⟩ :=
    @dump_quotes Unit plainSum (.ref 6) (.ref 3) (.text "m") _ _ _ (.text "a\nb") (.text "a\\nb")
      _ _ htree (by decide) (by decide) (by simp [Forest.labels]) rfl rfl rfl hown hfree rfl rfl
  rcases hdump with ⟨f, hfail, -⟩ | ⟨text, text', htext, htext', hsame, -⟩
  · -- the dump does not fail, as it shows when it is made
    cases hset
    cases hfail
  · refine ⟨w₁, w₂, text, hset, hset', htext, ?_⟩
    rw [hsame.mpr (by decide), htext']

end Tree

end Node

end ParseKit
