import ParseKit.Value.Inspect

namespace ParseKit.Store

theorem display_of_text? {s : Store} {v : Value} {t : String} (h : s.text? v = some t) :
    s.display v = .ok t := by
  unfold text? at h
  split at h
  · cases h
    exact display_text s _
  · split at h
    · next heq =>
      cases h
      cases v with
      | ref id => simp [display, textAt, heq, objectText]
      | _ => cases heq
    · cases h

theorem display_int (s : Store) (i : Int) : s.display (.int i) = .ok (toString i) := by
  simp only [display, textAt]

theorem display_natCast (s : Store) (n : Nat) : s.display (.int n) = .ok (toString n) :=
  display_int s n

theorem exists_display_of_isText {s : Store} {v : Value} (h : s.isText v = true) :
    ∃ t, s.display v = .ok t := by
  obtain ⟨t, ht⟩ := Option.isSome_iff_exists.mp h
  exact ⟨t, display_of_text? ht⟩

theorem exists_textAt_of_text? {s : Store} {v : Value} {t : String} (h : s.text? v = some t)
    (depth : Nat) (path : List Value) (style : TextStyle) :
    ∃ shown, s.textAt (depth + 1) path style v = .ok shown := by
  unfold text? at h
  split at h
  · exact ⟨_, rfl⟩
  · split at h
    · next heq =>
      cases v with
      | ref id => exact ⟨_, by simp only [textAt, heq]; rfl⟩
      | _ => cases heq
    · cases h

theorem textAt_object {s : Store} {v : Value} {o : Object} (h : s.get? v = some o) (depth : Nat)
    (path : List Value) (style : TextStyle) :
    s.textAt (depth + 1) path style v = s.objectText (s.textAt depth) path style v o := by
  cases v with
  | ref id => simp only [textAt, h]
  | _ => cases h

-- A node that has lost its line cannot be shown.
theorem inspect_node_error {s : Store} {v : Value} {p : NodeParts} {t : String} {n : Nat}
    {f : Failure} (hnode : s.get? v = some (.node p)) (htype : s.text? p.type = some t)
    (hcount : s.length p.children = .ok n) (hline : s.requirePart p.position "line" = .error f) :
    s.inspect v = .error f := by
  have hlevels : 0 < s.textLevels :=
    Nat.lt_min.mpr ⟨Nat.mul_pos (Nat.succ_pos _) (Nat.succ_pos _), by decide⟩
  obtain ⟨depth, hdepth⟩ := Nat.exists_eq_add_one.mpr hlevels
  obtain ⟨shown, hshown⟩ := exists_textAt_of_text? htype depth [] .inspect
  rw [inspect, textAt_object hnode, objectText, nodeText, hdepth, hshown, hcount, hline]
  rfl

def tooDeep : Failure := .message .recursionError "maximum recursion depth exceeded"

-- A text that is there unless it is nested too deep.
def OnlyTooDeep {α : Type} (x : Except Failure α) : Prop := ∀ f, x = .error f → f = tooDeep

namespace OnlyTooDeep

variable {α β : Type} {x : Except Failure α}

theorem ok (a : α) : OnlyTooDeep (.ok a) := by
  intro f h
  cases h

theorem of_eq_ok {a : α} (h : x = .ok a) : OnlyTooDeep x := by
  rw [h]
  exact ok a

theorem bind {g : α → Except Failure β} (hx : OnlyTooDeep x) (hg : ∀ a, OnlyTooDeep (g a)) :
    OnlyTooDeep (x >>= g) := by
  intro f h
  cases x with
  | ok a => exact hg a f h
  | error e => exact hx f (by simpa [Bind.bind, Except.bind] using h)

theorem map (g : α → β) (hx : OnlyTooDeep x) : OnlyTooDeep (g <$> x) := by
  intro f h
  cases x with
  | ok a => cases h
  | error e => exact hx f (by simpa [Functor.map, Except.map] using h)

theorem mapM {g : α → Except Failure β} (hg : ∀ a, OnlyTooDeep (g a)) (items : List α) :
    OnlyTooDeep (items.mapM g) := by
  induction items with
  | nil => exact ok []
  | cons a rest ih =>
      rw [List.mapM_cons]
      exact (hg a).bind fun _ => ih.bind fun _ => ok _

theorem ite {p : Prop} [Decidable p] {y : Except Failure α} (hx : OnlyTooDeep x)
    (hy : OnlyTooDeep y) : OnlyTooDeep (if p then x else y) := by
  by_cases h : p
  · rw [if_pos h]
    exact hx
  · rw [if_neg h]
    exact hy

end OnlyTooDeep

-- All nodes have what their texts are made of: children that can be counted, and a line and a
-- column.
structure WholeNodes (s : Store) : Prop where
  children : ∀ v p, s.get? v = some (.node p) → ∃ n, s.length p.children = .ok n
  line : ∀ v p, s.get? v = some (.node p) → ∃ l, s.requirePart p.position "line" = .ok l
  column : ∀ v p, s.get? v = some (.node p) → ∃ c, s.requirePart p.position "column" = .ok c

section

variable {inner : List Value → TextStyle → Value → Except Failure String} {path : List Value}
  {v : Value}

theorem marking_onlyTooDeep {mark : String} {text : List Value → Except Failure String}
    (h : ∀ path, OnlyTooDeep (text path)) : OnlyTooDeep (marking path v mark text) :=
  (OnlyTooDeep.ok mark).ite (h _)

variable (hinner : ∀ path style u, OnlyTooDeep (inner path style u))
include hinner

theorem itemsText_onlyTooDeep (path items : List Value) :
    OnlyTooDeep (itemsText inner path items) :=
  (OnlyTooDeep.mapM (fun u => hinner path .inspect u) items).map _

theorem tupleText_onlyTooDeep (items : List Value) :
    OnlyTooDeep (tupleText inner path v items) := by
  refine marking_onlyTooDeep fun path => ?_
  split
  · exact (hinner _ _ _).bind fun _ => .ok _
  · exact (itemsText_onlyTooDeep hinner path _).bind fun _ => .ok _

theorem entriesText_onlyTooDeep (entries : List (Value × Value)) :
    OnlyTooDeep (entriesText inner path v entries) :=
  marking_onlyTooDeep fun path => (OnlyTooDeep.mapM (fun e => (hinner path .inspect e.1).bind fun _ =>
    (hinner path .inspect e.2).bind fun _ => .ok _) entries).bind fun _ => .ok _

theorem fieldsText_onlyTooDeep (mark name : String) (fields : List (String × Value)) :
    OnlyTooDeep (fieldsText inner path v mark name fields) :=
  marking_onlyTooDeep fun path => (OnlyTooDeep.mapM (fun f =>
    (hinner path .inspect f.2).bind fun _ => .ok _) fields).bind fun _ => .ok _

theorem nodeText_onlyTooDeep {s : Store} (h : s.WholeNodes) {p : NodeParts}
    (hnode : s.get? v = some (.node p)) : OnlyTooDeep (s.nodeText inner path p) := by
  obtain ⟨n, hn⟩ := h.children v p hnode
  obtain ⟨l, hl⟩ := h.line v p hnode
  obtain ⟨c, hc⟩ := h.column v p hnode
  exact (hinner _ _ _).bind fun _ => (OnlyTooDeep.of_eq_ok hn).bind fun _ =>
    (OnlyTooDeep.of_eq_ok hl).bind fun _ => (hinner _ _ _).bind fun _ =>
    (OnlyTooDeep.of_eq_ok hc).bind fun _ => (hinner _ _ _).bind fun _ => .ok _

theorem treeText_onlyTooDeep (data : Value) (children : List Value) :
    OnlyTooDeep (treeText inner path v data children) :=
  (hinner _ _ _).bind fun _ => (marking_onlyTooDeep fun path =>
    (itemsText_onlyTooDeep hinner path children).bind fun _ => .ok _).bind fun _ => .ok _

theorem errorText_onlyTooDeep (style : TextStyle) (e : Failure) :
    OnlyTooDeep (errorText inner path style v e) := by
  unfold errorText
  split
  · exact .ok _
  · exact hinner _ _ _
  · exact tupleText_onlyTooDeep hinner _
  · exact (hinner _ _ _).bind fun _ => .ok _
  · exact (tupleText_onlyTooDeep hinner _).bind fun _ => .ok _

theorem objectText_onlyTooDeep {s : Store} (h : s.WholeNodes) {o : Object}
    (hobject : s.get? v = some o) (style : TextStyle) :
    OnlyTooDeep (s.objectText inner path style v o) := by
  have hlist : ∀ (mark before after : String) (items : List Value),
      OnlyTooDeep (marking path v mark fun path => do
        return before ++ (← itemsText inner path items) ++ after) :=
    fun _ _ _ items => marking_onlyTooDeep fun path =>
      (itemsText_onlyTooDeep hinner path items).bind fun _ => .ok _
  cases o with
  | lone atom => exact hinner _ _ _
  | list items => exact hlist _ _ _ _
  | tuple items => exact tupleText_onlyTooDeep hinner _
  | dict d => exact entriesText_onlyTooDeep hinner _
  | mapping entries =>
      exact (entriesText_onlyTooDeep hinner _).ite
        ((entriesText_onlyTooDeep hinner _).bind fun _ => .ok _)
  | set items | frozenset items =>
      cases items with
      | nil => exact .ok _
      | cons => exact hlist _ _ _ _
  | record fields => exact fieldsText_onlyTooDeep hinner _ _ _
  | node p => exact nodeText_onlyTooDeep hinner h hobject
  | position => exact fieldsText_onlyTooDeep hinner _ _ _
  | span => exact fieldsText_onlyTooDeep hinner _ _ _
  | tree data children place => exact treeText_onlyTooDeep hinner _ _
  | failure e => exact errorText_onlyTooDeep hinner _ _
  | _ => exact .ok _

end

-- By induction on the depth.
theorem textAt_onlyTooDeep {s : Store} (h : s.WholeNodes) (depth : Nat) (path : List Value)
    (style : TextStyle) (v : Value) : OnlyTooDeep (s.textAt depth path style v) := by
  induction depth generalizing path style v with
  | zero =>
      intro f hf
      cases hf
      rfl
  | succ depth ih =>
      cases hget : s.get? v with
      | some o =>
          rw [textAt_object hget]
          exact objectText_onlyTooDeep ih h hget style
      | none =>
          cases v with
          | ref id =>
              rw [textAt, hget]
              exact .ok _
          | _ => exact .ok _

theorem display_onlyTooDeep {s : Store} (h : s.WholeNodes) (v : Value) :
    OnlyTooDeep (s.display v) := textAt_onlyTooDeep h _ _ _ v

theorem inspect_onlyTooDeep {s : Store} (h : s.WholeNodes) (v : Value) :
    OnlyTooDeep (s.inspect v) := textAt_onlyTooDeep h _ _ _ v

theorem failureText_onlyTooDeep {s : Store} (h : s.WholeNodes) (e : Failure) :
    OnlyTooDeep (s.failureText e) := by
  unfold failureText
  split
  · exact .ok _
  · exact (inspect_onlyTooDeep h _).ite (display_onlyTooDeep h _)
  · unfold inspectTuple
    split
    · exact (inspect_onlyTooDeep h _).bind fun _ => .ok _
    · exact (OnlyTooDeep.mapM (inspect_onlyTooDeep h) _).bind fun _ => .ok _

end ParseKit.Store
