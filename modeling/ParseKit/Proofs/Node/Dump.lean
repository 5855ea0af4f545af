import ParseKit.Node.Dump
import ParseKit.Proofs.Node.Traversal
import ParseKit.Proofs.Run.Except
import ParseKit.Proofs.Text.Code

namespace ParseKit.Node

variable {σ : Type}

-- The attributes in parentheses, each with a text for it, or nothing if there are none.
def fieldList (texts : List String) : String :=
  if texts.isEmpty then "" else "(" ++ ", ".intercalate texts ++ ") "

-- Attributes with a comma in front of each of them.
def commaFields (texts : List String) : List Char := texts.flatMap fun u => ", ".toList ++ u.toList

theorem commaFields_cons (t : String) (ts : List String) :
    commaFields (t :: ts) = ", ".toList ++ (t.toList ++ commaFields ts) := by
  rw [commaFields, List.flatMap_cons, List.append_assoc]
  rfl

theorem toList_commas_cons (t : String) (ts : List String) :
    (", ".intercalate (t :: ts)).toList = t.toList ++ commaFields ts := by
  rw [Text.toList_intercalate_cons]
  rfl

-- A line with these texts in it.
def lineText (depth : Nat) (type : String) (fields : List String) (line column : String) : String :=
  String.ofList (List.replicate (4 * depth) ' ') ++ type ++ " " ++ fieldList fields ++
    "[" ++ line ++ "/" ++ column ++ "]\n"

theorem lineText_eq (depth : Nat) (type : String) (fields : List String) (line column : String) :
    lineText depth type fields line column =
      String.ofList (List.replicate (4 * depth) ' ') ++ type ++ " " ++ fieldList fields ++
        "[" ++ line ++ "/" ++ column ++ "]" ++ "\n" := by
  have hend : "]\n" = "]" ++ "\n" := rfl
  rw [lineText, hend, ← String.append_assoc]

def fieldText (s : Store) (e : Value × Value) : Except Failure String := do
  return (← s.display e.1) ++ ": " ++ (← s.formatValue e.2)

theorem fieldTexts_eq_mapM (s : Store) (entries : List (Value × Value)) :
    fieldTexts s entries = entries.mapM (fieldText s) := by
  induction entries with
  | nil => rfl
  | cons e rest ih => simp [fieldTexts, fieldText, ih]

theorem attributesText_dict {s : Store} {v : Value} {d : Dictionary}
    (hd : s.get? v = some (.dict d)) :
    attributesText s v = fieldList <$> d.entries.mapM (fieldText s) := by
  have htruthy : s.truthy v = !d.entries.isEmpty := by
    cases v with
    | ref id => simp [Store.truthy, hd]
    | _ => cases hd
  have hentries : s.entries? v = some d.entries := by
    unfold Store.entries?
    rw [hd]
  simp only [attributesText, htruthy, hentries, fieldTexts_eq_mapM]
  cases hfields : d.entries with
  | nil => rfl
  | cons e rest =>
      simp only [List.isEmpty_cons, Bool.not_false, if_true]
      cases htexts : (e :: rest).mapM (fieldText s) with
      | error f => rfl
      | ok texts =>
          cases mapM_eq_ok_iff.mp htexts
          rfl

-- What the line of a node is made from.
structure Content where
  type : String
  fields : List (Value × Value)
  line : Value
  column : Value

def Content.At (s : Store) (v : Value) (c : Content) : Prop :=
  ∃ p d offset, s.get? v = some (.node p) ∧ s.text? p.type = some c.type ∧
    s.get? p.attributes = some (.dict d) ∧ d.entries = c.fields ∧
    s.get? p.position = some (.position c.line c.column offset)

theorem Content.At.lineOf {s : Store} {v : Value} {c : Content} (h : c.At s v) (depth : Nat) :
    lineOf s v depth = (do
      let fields ← c.fields.mapM (fieldText s)
      let line ← s.display c.line
      let column ← s.display c.column
      return lineText depth c.type fields line column) := by
  obtain ⟨p, d, offset, hnode, htype, hd, hfields, hposition⟩ := h
  have hparts : s.requirePart v "type" = .ok p.type ∧
      s.requirePart v "attributes" = .ok p.attributes ∧
      s.requirePart v "position" = .ok p.position ∧
      s.requirePart p.position "line" = .ok c.line ∧
      s.requirePart p.position "column" = .ok c.column := by
    simp [Store.requirePart, Store.part?, hnode, hposition]
  simp only [Node.lineOf, hparts, ok_bind, htype, attributesText_dict hd, hfields, map_eq_pure_bind,
    bind_assoc, pure_bind, indent, lineText]

-- The lines of nodes at the given depths.
def linesOf (s : Store) (levels : List (Value × Nat)) : Except Failure (List String) :=
  levels.mapM fun l => lineOf s l.1 l.2

theorem linesOf_cons (s : Store) (v : Value) (depth : Nat) (levels : List (Value × Nat)) :
    linesOf s ((v, depth) :: levels) =
      (do return (← lineOf s v depth) :: (← linesOf s levels)) := by
  simp [linesOf]

-- A visitor that puts the line of every node in front of those that it has.
def collectLine : Visitor σ (List String) := fun acc v depth _ => do
  return (← Run.inspect (lineOf · v depth)) :: acc

theorem collectLine_apply (acc : List String) (v : Value) (depth : Nat) (phase : Phase)
    (w : World σ) :
    collectLine acc v depth phase w =
      (Run.ofExcept ((· :: acc) <$> lineOf w.store v depth) : Run σ (List String)) w := by
  rw [collectLine, Run.bind_apply, Run.inspect_apply]
  cases lineOf w.store v depth <;> rfl

theorem passive_collectLine : Passive (collectLine : Visitor σ (List String)) := by
  intro acc v depth phase w acc' w' h
  rw [collectLine_apply] at h
  cases hline : lineOf w.store v depth with
  | error e =>
      rw [hline] at h
      cases h
  | ok line =>
      rw [hline] at h
      cases h
      exact .refl _

theorem visitAll_collectLine (levels : List (Value × Nat)) (acc : List String) (w : World σ) :
    visitAll collectLine acc (levels.map fun l => ⟨l.1, l.2, .before⟩) w =
      (Run.ofExcept ((fun lines => lines.reverse ++ acc) <$> linesOf w.store levels) :
        Run σ (List String)) w := by
  induction levels generalizing acc with
  | nil => rfl
  | cons l levels ih =>
      rw [linesOf_cons]
      simp only [visitAll, List.map_cons, List.foldlM_cons, Run.bind_apply, collectLine_apply]
      cases hline : lineOf w.store l.1 l.2 with
      | error e => rfl
      | ok line =>
          refine (ih (line :: acc)).trans ?_
          cases linesOf w.store levels with
          | error e => rfl
          | ok lines =>
              simp [Functor.map, Except.map, bind, Except.bind, pure, Except.pure]

theorem dump_eq {w : World σ} {root : Value} {below : Forest Value}
    (htree : (Forest.cons root below .nil).In w.store)
    (hdistinct : (Forest.cons root below .nil).labels.Nodup) :
    dump root w = (Run.ofExcept
      ("".intercalate <$> linesOf w.store ((Forest.cons root below .nil).levels 0)) :
        Run σ String) w := by
  obtain ⟨p, hnode, -, -⟩ := Store.childrenOf?_eq_some htree.1.choose_spec
  have hparts : (parts root "dump" : Run σ NodeParts) w = .ok p w := by
    simp [parts, Run.bind_apply, Store.node?_eq_some_iff.mpr hnode]
  have hwalk : walkNode .before collectLine (walkBound w.store) [] root 0 w = _ :=
    walkNode_eq_visitAll passive_collectLine .before (size_le_walkBound htree hdistinct) htree
  rw [selected, Forest.filter_calls_before, visitAll_collectLine] at hwalk
  have hdump : dump root w =
      ((fun lines => "".intercalate lines.reverse) <$>
        walkNode .before collectLine (walkBound w.store) [] root 0 : Run σ String) w := by
    rw [dump, Run.bind_apply, hparts]
    rfl
  rw [hdump, Run.map_apply, hwalk]
  cases linesOf w.store ((Forest.cons root below .nil).levels 0) with
  | error e => rfl
  | ok lines => simp [Functor.map, Except.map]

-- A dump of a tree ends, and changes nothing.
theorem dump_ne_outOfFuel {w w' : World σ} {root : Value} {below : Forest Value}
    (htree : (Forest.cons root below .nil).In w.store)
    (hdistinct : (Forest.cons root below .nil).labels.Nodup) :
    dump root w ≠ .error .outOfFuel w' := by
  rw [dump_eq htree hdistinct]
  cases linesOf w.store ((Forest.cons root below .nil).levels 0) <;> rintro ⟨⟩

end ParseKit.Node
