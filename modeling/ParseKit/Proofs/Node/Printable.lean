import ParseKit.Proofs.Node.Lines
import ParseKit.Proofs.Node.WellFormed

namespace ParseKit

namespace Store

theorem Extends.ordinary {s s' : Store} (h : s.Extends s') {v : Value} (hv : s.Ordinary v) :
    s'.Ordinary v := by
  induction hv with
  | text content => exact .text (h.text? content)
  | null => exact .null
  | bool b => exact .bool b
  | int i => exact .int i
  | float bits => exact .float bits
  | notANumber object => exact .notANumber (h _ _ object)
  | pattern object => exact .pattern (h _ _ object)
  | list object _ ih => exact .list (h _ _ object) ih
  | dict object keys _ ih =>
      exact .dict (h _ _ object) (fun e he => (keys e he).imp fun _ ht => h.text? ht) ih

-- A well-formed node with ordinary values under texts as its attributes, and with a position in
-- whole numbers.
inductive Printable (s : Store) (v : Value) : Prop where
  | node {p : NodeParts} {t : String} {d : Dictionary} {items : List Value}
      {line column offset : Int} (object : s.get? v = some (.node p))
      (type : s.text? p.type = some t) (attributes : s.get? p.attributes = some (.dict d))
      (fields : ∀ e ∈ d.entries, (∃ t, s.text? e.1 = some t) ∧ s.Ordinary e.2)
      (children : s.get? p.children = some (.list items))
      (position : s.get? p.position = some (.position (.int line) (.int column) (.int offset))) :
      Printable s v

theorem Printable.wellFormed {s : Store} {v : Value} (h : s.Printable v) : s.WellFormed v := by
  cases h with
  | node object type attributes fields children position =>
      exact ⟨_, _, _, _, _, _, _, object, type, attributes, children, position⟩

theorem Extends.printable {s s' : Store} (h : s.Extends s') {v : Value} (hv : s.Printable v) :
    s'.Printable v := by
  cases hv with
  | node object type attributes fields children position =>
      refine .node (h _ _ object) (h.text? type) (h _ _ attributes) (fun e he => ?_)
        (h _ _ children) (h _ _ position)
      exact (fields e he).imp (fun ⟨t, ht⟩ => ⟨t, h.text? ht⟩) h.ordinary

end Store

namespace Node

variable {σ : Type} {s : Store}

theorem fieldTexts_ok {fields : List (Value × Value)}
    (h : ∀ e ∈ fields, (∃ t, s.text? e.1 = some t) ∧ s.Ordinary e.2) :
    ∃ texts, fields.mapM (fieldText s) = .ok texts := by
  refine exists_mapM_eq_ok fun e he => ?_
  obtain ⟨⟨t, ht⟩, hordinary⟩ := h e he
  obtain ⟨shown, hshown, -⟩ := hordinary.formatValue
  exact ⟨t ++ ": " ++ shown, by rw [fieldText, Store.display_of_text? ht, hshown]; rfl⟩

theorem lineOf_printable {v : Value} (h : s.Printable v) (depth : Nat) :
    ∃ line, lineOf s v depth = .ok (line ++ "]" ++ "\n") := by
  cases h with
  | @node p t d items line column offset object type attributes fields children position =>
      have hcontent : Content.At s v ⟨t, d.entries, .int line, .int column⟩ :=
        ⟨p, d, .int offset, object, type, attributes, rfl, position⟩
      obtain ⟨texts, htexts⟩ := fieldTexts_ok fields
      refine ⟨String.ofList (List.replicate (4 * depth) ' ') ++ t ++ " " ++ fieldList texts ++
        "[" ++ toString line ++ "/" ++ toString column, ?_⟩
      rw [hcontent.lineOf, htexts, Store.display_int, Store.display_int, ← lineText_eq]
      rfl

theorem linesOf_printable {levels : List (Value × Nat)} (h : ∀ l ∈ levels, s.Printable l.1) :
    ∃ lines : List String, linesOf s levels = .ok (lines.map (· ++ "]" ++ "\n")) ∧
      lines.length = levels.length := by
  induction levels with
  | nil => exact ⟨[], rfl, rfl⟩
  | cons l levels ih =>
      obtain ⟨line, hline⟩ := lineOf_printable (h l (by simp)) l.2
      obtain ⟨lines, hlines, hlength⟩ := ih fun l hl => h l (by simp [hl])
      refine ⟨line :: lines, ?_, by simp [hlength]⟩
      rw [linesOf_cons, hline, hlines]
      rfl

-- The dump of a tree of such nodes ends in a single line end, as the last of its lines does.
theorem dump_printable {w : World σ} {root : Value} {below : Forest Value}
    (htree : (Forest.cons root below .nil).In w.store)
    (hdistinct : (Forest.cons root below .nil).labels.Nodup)
    (hprintable : ∀ v ∈ (Forest.cons root below .nil).labels, w.store.Printable v) :
    ∃ body, dump root w = .ok (body ++ "]" ++ "\n") w := by
  have hlevels : ∀ l ∈ (Forest.cons root below .nil).levels 0, w.store.Printable l.1 :=
    fun l hl => hprintable l.1 (Forest.mem_labels_of_mem_levels hl)
  obtain ⟨lines, hlines, hlength⟩ := linesOf_printable hlevels
  have hnonempty : lines ≠ [] := by
    rintro rfl
    simp [Forest.levels] at hlength
  obtain ⟨init, last, rfl⟩ : ∃ init last, lines = init ++ [last] :=
    ⟨_, _, (List.dropLast_append_getLast hnonempty).symm⟩
  refine ⟨"".intercalate (init.map (· ++ "]" ++ "\n")) ++ last, ?_⟩
  have hjoin : "".intercalate ((init ++ [last]).map (· ++ "]" ++ "\n")) =
      "".intercalate (init.map (· ++ "]" ++ "\n")) ++ last ++ "]" ++ "\n" := by
    rw [← String.toList_inj, Text.toList_intercalate_empty]
    simp only [String.toList_append, Text.toList_intercalate_empty, List.map_append,
      List.flatMap_append, List.map_cons, List.map_nil, List.flatMap_singleton, List.append_assoc]
  rw [dump_eq htree hdistinct, hlines, ← hjoin]
  rfl

end Node

end ParseKit
