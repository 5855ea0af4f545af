import ParseKit.Proofs.Node.Snapshot
import ParseKit.Proofs.Value.OneLine

namespace ParseKit

open Text (lineEnds lineEnds_append lineEnds_ofList)

-- The line ends that the text of an attribute value has: those in the source of an expression.
def Store.lineEndsOf (s : Store) (v : Value) : Nat :=
  match s.get? v with
  | some (.pattern source) => source.chars.count '\n'
  | _ => 0

-- What the line of a node is made of.
structure Label where
  type : String
  fields : List (Value × Value)
  line : Int
  column : Int

namespace Label

-- A node whose type and whose attribute names stand on one line.
structure At (s : Store) (v : Value) (a : Label) : Prop where
  node : ∃ p d offset, s.get? v = some (.node p) ∧ s.text? p.type = some a.type ∧
    s.get? p.attributes = some (.dict d) ∧ d.entries = a.fields ∧
    s.get? p.position = some (.position (.int a.line) (.int a.column) offset)
  type : lineEnds a.type = 0
  names : ∀ e ∈ a.fields, ∃ name, s.text? e.1 = some name ∧ lineEnds name = 0
  values : ∀ e ∈ a.fields, s.Ordinary e.2

def lineEnds (s : Store) (a : Label) : Nat := (a.fields.map fun e => s.lineEndsOf e.2).sum

-- A text that begins and ends like the line of the node.
def Framed (a : Label) (depth : Nat) (line : String) : Prop :=
  ∃ fields, line = String.ofList (List.replicate (4 * depth) ' ') ++ a.type ++ " " ++ fields ++
    "[" ++ toString a.line ++ "/" ++ toString a.column ++ "]"

end Label

theorem count_quoted (cs : List Char) : (cs.flatMap quoteChar).count '\n' = 0 := by
  rw [List.count_eq_zero]
  intro h
  obtain ⟨c, -, hc⟩ := List.mem_flatMap.mp h
  unfold quoteChar at hc
  split at hc
  · simp at hc
  split at hc
  · simp at hc
  · next hne _ => exact hne (List.mem_singleton.mp hc).symm

theorem lineEnds_slashed (cs : List Char) : lineEnds (slashed cs) = cs.count '\n' := by
  have hchars : (cs.flatMap fun c => if c = '/' then ['\\', '/'] else [c]).count '\n' =
      cs.count '\n' := by
    induction cs with
    | nil => rfl
    | cons c cs ih =>
        rw [List.flatMap_cons, List.count_append, ih]
        by_cases h : c = '/'
        · subst h
          simp
        · simp [h, List.count_cons, Nat.add_comm]
  have hslash : lineEnds "/" = 0 := by decide
  simp [slashed, hchars, hslash]

namespace Store

variable {s : Store} {v : Value}

theorem lineEndsOf_eq_zero (h : ∀ source, s.get? v ≠ some (.pattern source)) :
    s.lineEndsOf v = 0 := by
  unfold lineEndsOf
  split
  · next source object => exact absurd object (h source)
  · rfl

theorem formatValue_of_text? {t : String} (h : s.text? v = some t) :
    ∃ shown, s.formatValue v = .ok shown ∧ lineEnds shown = s.lineEndsOf v := by
  have hpattern : ∀ source, s.get? v ≠ some (.pattern source) := by
    intro source object
    cases (text?_of_get? object rfl).symm.trans h
  refine ⟨_, formatValue_text h, ?_⟩
  rw [lineEndsOf_eq_zero hpattern, doubleQuoted, lineEnds_ofList, List.count_append,
    List.count_cons, count_quoted]
  rfl

theorem formatValue_of_pattern {source : List Char}
    (h : s.get? v = some (.pattern ⟨.characters, source⟩)) :
    ∃ shown, s.formatValue v = .ok shown ∧ lineEnds shown = s.lineEndsOf v := by
  exact ⟨_, formatValue_pattern h, by simp [lineEndsOf, h, lineEnds_slashed]⟩

theorem formatValue_of_json (htext : s.text? v = none)
    (hpattern : ∀ source, s.get? v ≠ some (.pattern source)) (hjson : OneLine (s.json v)) :
    ∃ shown, s.formatValue v = .ok shown ∧ lineEnds shown = s.lineEndsOf v := by
  obtain ⟨t, ht, hline⟩ := hjson
  exact ⟨t, formatValue_json htext hpattern ht, by rw [lineEndsOf_eq_zero hpattern, hline]⟩

-- An ordinary value has a text. Only an expression brings line ends into it.
theorem Ordinary.formatValue (h : s.Ordinary v) :
    ∃ shown, s.formatValue v = .ok shown ∧ lineEnds shown = s.lineEndsOf v := by
  have hjson := h.json
  cases h with
  | text content => exact formatValue_of_text? content
  | pattern object => exact formatValue_of_pattern object
  | notANumber object | list object | dict object =>
      exact formatValue_of_json (text?_of_get? object rfl) (by simp [object]) hjson
  | _ => exact formatValue_of_json rfl (by simp [get?]) hjson

end Store

namespace Node

variable {σ : Type} {s : Store}

theorem fieldTexts_lineEnds {fields : List (Value × Value)}
    (hnames : ∀ e ∈ fields, ∃ name, s.text? e.1 = some name ∧ lineEnds name = 0)
    (hvalues : ∀ e ∈ fields, s.Ordinary e.2) :
    ∃ texts, fields.mapM (fieldText s) = .ok texts ∧
      (texts.map lineEnds).sum = (fields.map fun e => s.lineEndsOf e.2).sum := by
  have hcolon : lineEnds ": " = 0 := by decide
  induction fields with
  | nil => exact ⟨[], rfl, rfl⟩
  | cons e rest ih =>
      obtain ⟨name, hname, hline⟩ := hnames e (by simp)
      obtain ⟨shown, hshown, hends⟩ := (hvalues e (by simp)).formatValue
      obtain ⟨texts, htexts, hsum⟩ := ih (fun e he => hnames e (by simp [he]))
        fun e he => hvalues e (by simp [he])
      refine ⟨(name ++ ": " ++ shown) :: texts, ?_, ?_⟩
      · rw [List.mapM_cons, fieldText, Store.display_of_text? hname, hshown, htexts]
        rfl
      · simp [hline, hcolon, hends, hsum]

theorem lineEnds_fieldList (texts : List String) :
    lineEnds (fieldList texts) = (texts.map lineEnds).sum := by
  have hcomma : lineEnds ", " = 0 := by decide
  have hpunctuation : ∀ t ∈ ["", "(", ") "], lineEnds t = 0 := by decide
  cases texts with
  | nil => exact hpunctuation "" (by simp)
  | cons first rest =>
      simp only [fieldList, List.isEmpty_cons, Bool.false_eq_true, if_false, lineEnds_append,
        Text.lineEnds_intercalate hcomma]
      simp [hpunctuation]

-- The line of a node ends the lines that its expressions have, and one more.
theorem lineOf_lineEnds {v : Value} {a : Label} (h : a.At s v) (depth : Nat) :
    ∃ line, lineOf s v depth = .ok (line ++ "\n") ∧ a.Framed depth line ∧
      lineEnds line = a.lineEnds s := by
  have hcontent : Content.At s v ⟨a.type, a.fields, .int a.line, .int a.column⟩ := h.node
  obtain ⟨texts, htexts, hsum⟩ := fieldTexts_lineEnds h.names h.values
  have hspaces : lineEnds (String.ofList (List.replicate (4 * depth) ' ')) = 0 := by
    simp [List.count_eq_zero]
  have hpunctuation : ∀ t ∈ [" ", "[", "/", "]"], lineEnds t = 0 := by decide
  refine ⟨_, ?_, ⟨fieldList texts, rfl⟩, ?_⟩
  · rw [hcontent.lineOf, htexts, Store.display_int, Store.display_int, ← lineText_eq]
    rfl
  · simp only [lineEnds_append, hspaces, h.type, lineEnds_fieldList, hsum,
      Text.lineEnds_toString_int, Label.lineEnds]
    simp [hpunctuation]

theorem linesOf_lineEnds {label : Value → Label} {levels : List (Value × Nat)}
    (h : ∀ l ∈ levels, (label l.1).At s l.1) :
    ∃ lines : List String, linesOf s levels = .ok (lines.map (· ++ "\n")) ∧
      List.Forall₂ (fun l line => (label l.1).Framed l.2 line ∧
        lineEnds line = (label l.1).lineEnds s) levels lines ∧
      lines.map lineEnds = levels.map fun l => (label l.1).lineEnds s := by
  induction levels with
  | nil => exact ⟨[], rfl, .nil, rfl⟩
  | cons l levels ih =>
      obtain ⟨line, hline, hframed, hends⟩ := lineOf_lineEnds (h l (by simp)) l.2
      obtain ⟨lines, hlines, hall, hcounts⟩ := ih fun l hl => h l (by simp [hl])
      refine ⟨line :: lines, ?_, .cons ⟨hframed, hends⟩ hall, by simp [hends, hcounts]⟩
      rw [linesOf_cons, hline, hlines]
      rfl

-- The dump of a tree has the lines of its nodes in their order, each of them with a line end behind
-- it. It has as many line ends as there are nodes, and those in the sources of the expressions that
-- are attribute values on top of these.
theorem dump_lines {w : World σ} {root : Value} {below : Forest Value} {label : Value → Label}
    (htree : (Forest.cons root below .nil).In w.store)
    (hdistinct : (Forest.cons root below .nil).labels.Nodup)
    (hlabels : ∀ v ∈ (Forest.cons root below .nil).labels, (label v).At w.store v) :
    let levels := (Forest.cons root below .nil).levels 0
    ∃ lines : List String,
      dump root w = .ok ("".intercalate (lines.map (· ++ "\n"))) w ∧
      List.Forall₂ (fun l line => (label l.1).Framed l.2 line ∧
        ('\n' ∉ line.toList ↔ ∀ e ∈ (label l.1).fields, w.store.lineEndsOf e.2 = 0)) levels lines ∧
      lineEnds ("".intercalate (lines.map (· ++ "\n"))) =
        levels.length + (levels.map fun l => (label l.1).lineEnds w.store).sum := by
  intro levels
  have hall : ∀ l ∈ levels, (label l.1).At w.store l.1 := fun l hl =>
    hlabels l.1 (Forest.mem_labels_of_mem_levels hl)
  obtain ⟨lines, hlines, hframed, hcounts⟩ := linesOf_lineEnds hall
  have hdump : dump root w = .ok ("".intercalate (lines.map (· ++ "\n"))) w := by
    rw [dump_eq htree hdistinct, hlines]
    rfl
  have hcount : lineEnds ("".intercalate (lines.map (· ++ "\n"))) =
      levels.length + (levels.map fun l => (label l.1).lineEnds w.store).sum := by
    rw [Text.lineEnds_ended, hframed.length_eq, hcounts]
  refine ⟨lines, hdump, hframed.imp fun l line hline => ⟨hline.1, ?_⟩, hcount⟩
  rw [← Text.lineEnds_eq_zero, hline.2, Label.lineEnds, List.sum_eq_zero_iff_forall_eq_nat]
  simp only [List.mem_map, forall_exists_index, and_imp, forall_apply_eq_imp_iff₂]

-- A sum over a leaf with an expression of two lines.
private def brokenLeaf : World Unit where
  store := ⟨#[.list [], .pattern ⟨.characters, ['a', '\n', 'b']⟩, .dict ⟨[(.text "re", .ref 1)], {}⟩,
    .position (.int 1) (.int 2) (.int 1), .node ⟨.text "Leaf", .ref 2, .ref 0, .ref 3⟩,
    .list [.ref 4], .dict ⟨[], {}⟩, .position (.int 1) (.int 1) (.int 0),
    .node ⟨.text "Sum", .ref 6, .ref 5, .ref 7⟩]⟩
  log := []
  client := ()

private def brokenLabel (v : Value) : Label :=
  if v = .ref 8 then ⟨"Sum", [], 1, 1⟩ else ⟨"Leaf", [(.text "re", .ref 1)], 1, 2⟩

-- Two nodes, and three lines.
theorem dump_lines_brokenLeaf : ∃ lines : List String,
    dump (.ref 8) brokenLeaf = .ok ("".intercalate (lines.map (· ++ "\n"))) brokenLeaf ∧
      lines.length = 2 ∧ lineEnds ("".intercalate (lines.map (· ++ "\n"))) = 3 := by
  have htree : (Forest.cons (.ref 8) (.cons (.ref 4) .nil .nil) .nil).In brokenLeaf.store :=
    ⟨⟨.ref 5, rfl⟩, ⟨⟨.ref 0, rfl⟩, trivial, trivial⟩, trivial⟩
  have hleaf : (brokenLabel (.ref 4)).At brokenLeaf.store (.ref 4) := {
    node := ⟨_, _, .int 1, rfl, rfl, rfl, rfl, rfl⟩
    type := by decide
    names := by
      intro e he
      obtain rfl := List.mem_singleton.mp he
      exact ⟨"re", rfl, by decide⟩
    values := by
      intro e he
      obtain rfl := List.mem_singleton.mp he
      exact .pattern rfl }
  have hroot : (brokenLabel (.ref 8)).At brokenLeaf.store (.ref 8) := {
    node := ⟨_, _, .int 0, rfl, rfl, rfl, rfl, rfl⟩
    type := by decide
    names := fun e he => by cases he
    values := fun e he => by cases he }
  have hlabels : ∀ v ∈ (Forest.cons (.ref 8) (.cons (.ref 4) .nil .nil) .nil).labels,
      (brokenLabel v).At brokenLeaf.store v := by
    intro v hv
    simp only [Forest.labels, List.append_nil, List.mem_cons, List.not_mem_nil, or_false] at hv
    rcases hv with rfl | rfl
    · exact hroot
    · exact hleaf
  obtain ⟨lines, hdump, hframed, hcount⟩ := dump_lines htree (by decide) hlabels
  exact ⟨lines, hdump, hframed.length_eq.symm, hcount⟩

end Node

end ParseKit
