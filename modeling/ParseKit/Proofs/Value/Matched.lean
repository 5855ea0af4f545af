import ParseKit.Build.Builder
import ParseKit.Proofs.Run.Except
import ParseKit.Proofs.Store.Matched
import ParseKit.Proofs.Store.Merge
import ParseKit.Proofs.Value.Inspect

namespace ParseKit.Matching

variable {m : Matching} {s s' : Store} {v v' : Value}

theorem Values.null : m.Values .null .null := .atom fun _ h => nomatch h

theorem Values.int (i : Int) : m.Values (.int i) (.int i) := .atom fun _ h => nomatch h

theorem Values.text (t : String) : m.Values (.text t) (.text t) := .atom fun _ h => nomatch h

theorem Values.eq_null_iff (hv : m.Values v v') : v = .null ↔ v' = .null := by
  cases hv with
  | atom => rfl
  | ref => exact iff_of_false nofun nofun

theorem Values.atomClass_eq (hv : m.Values v v') : v'.atomClass = v.atomClass := by
  cases hv <;> rfl

theorem Failures.message (c : ErrorClass) (text : String) :
    m.Failures (.message c text) (.message c text) :=
  ⟨rfl, .cons (.text text) .nil, .nil, .nil⟩

theorem Fields.find? {fs fs' : List (String × Value)} (h : m.Fields fs fs') (name : String) :
    Option.Rel m.Values ((fs.reverse.find? (·.1 == name)).map (·.2))
      ((fs'.reverse.find? (·.1 == name)).map (·.2)) := by
  have hreverse : m.Fields fs.reverse fs'.reverse := List.rel_reverse h
  generalize fs.reverse = gs at hreverse
  generalize fs'.reverse = gs' at hreverse
  induction hreverse with
  | nil => exact .none
  | @cons f f' _ _ hf _ ih =>
      rw [List.find?_cons, List.find?_cons, hf.1]
      cases f'.1 == name with
      | true => exact .some hf.2
      | false => exact ih

theorem Places.field? {p p' : Place} (h : m.Places p p') (name : String) :
    Option.Rel m.Values (p.field? name) (p'.field? name) := by
  unfold Place.field?
  split
  · exact .some h.line
  · exact .some h.column
  · exact .some h.startPos
  · exact .some h.endLine
  · exact .some h.endColumn
  · exact .some h.endPos
  · exact .none

-- Both are left out if they are null, or neither is.
theorem Values.filter_ne_null {x x' : Option Value} (h : Option.Rel m.Values x x') :
    Option.Rel m.Values (x.filter (· ≠ .null)) (x'.filter (· ≠ .null)) := by
  cases h with
  | none => exact .none
  | @some a b hab =>
      by_cases hnull : a = .null
      · rw [Option.filter_some_neg (by simp [hnull]),
          Option.filter_some_neg (by simp [hab.eq_null_iff.mp hnull])]
        exact .none
      · rw [Option.filter_some_pos (by simpa using hnull),
          Option.filter_some_pos (by simpa using mt hab.eq_null_iff.mpr hnull)]
        exact .some hab

theorem Values.beq_eq (hm : m.OneToOne) {u u' : Value} (hv : m.Values v v')
    (hu : m.Values u u') : (v' == u') = (v == u) := by
  cases hv with
  | atom noReference =>
      cases hu with
      | atom => rfl
      | ref =>
          rw [beq_eq_false_iff_ne.mpr (noReference _), beq_eq_false_iff_ne.mpr (noReference _)]
  | ref hij =>
      cases hu with
      | atom noReference =>
          rw [beq_eq_false_iff_ne.mpr (noReference _).symm,
            beq_eq_false_iff_ne.mpr (noReference _).symm]
      | @ref a b hab =>
          rw [Bool.eq_iff_iff, beq_iff_eq, beq_iff_eq, Value.ref.injEq, Value.ref.injEq]
          constructor
          · rintro rfl
            exact hm.right hij hab
          · rintro rfl
            exact hm.left hij hab

theorem Lists.contains_eq (hm : m.OneToOne) {vs vs' : List Value} (h : m.Lists vs vs')
    (hv : m.Values v v') : vs'.contains v' = vs.contains v := by
  induction h with
  | nil => rfl
  | cons hu _ ih => rw [List.contains_cons, List.contains_cons, hv.beq_eq hm hu, ih]

-- Readings that give the same, or that fail alike. If the first one goes too deep, nothing is said
-- of the second one.
inductive Results (m : Matching) {α β : Type} (Q : α → β → Prop) :
    Except Failure α → Except Failure β → Prop where
  | ok {a : α} {b : β} (h : Q a b) : Results m Q (.ok a) (.ok b)
  | error {e e' : Failure} (h : m.Failures e e') : Results m Q (.error e) (.error e')
  | tooDeep (y : Except Failure β) : Results m Q (.error Store.tooDeep) y

namespace Results

variable {α β γ δ : Type} {Q : α → β → Prop} {R : γ → δ → Prop} {x : Except Failure α}
  {y : Except Failure β}

theorem bind {f : α → Except Failure γ} {g : β → Except Failure δ} (h : m.Results Q x y)
    (hfg : ∀ a b, Q a b → m.Results R (f a) (g b)) : m.Results R (x >>= f) (y >>= g) := by
  cases h with
  | ok hab => exact hfg _ _ hab
  | error he => exact .error he
  | tooDeep => exact .tooDeep _

theorem map {f : α → γ} {g : β → δ} (h : m.Results Q x y) (hfg : ∀ a b, Q a b → R (f a) (g b)) :
    m.Results R (f <$> x) (g <$> y) := by
  cases h with
  | ok hab => exact .ok (hfg _ _ hab)
  | error he => exact .error he
  | tooDeep => exact .tooDeep _

theorem mapM {ι κ : Type} {P : ι → κ → Prop} {is : List ι} {ks : List κ}
    {f : ι → Except Failure α} {g : κ → Except Failure β} (h : List.Forall₂ P is ks)
    (hfg : ∀ i k, P i k → m.Results Q (f i) (g k)) :
    m.Results (List.Forall₂ Q) (is.mapM f) (ks.mapM g) := by
  induction h with
  | nil => exact .ok .nil
  | cons hik _ ih =>
      rw [List.mapM_cons, List.mapM_cons]
      exact (hfg _ _ hik).bind fun a b hab => ih.bind fun as bs habs => .ok (.cons hab habs)

end Results

structure Points (m : Matching) (p p' : Point) : Prop where
  line : m.Values p.line p'.line
  column : m.Values p.column p'.column
  offset : m.Values p.offset p'.offset

namespace Stores

section Values

variable (h : m.Stores s s') (hv : m.Values v v')
include h hv

theorem text?_eq : s'.text? v' = s.text? v := by
  cases hv with
  | atom noReference =>
      cases v with
      | ref id => exact absurd rfl (noReference id)
      | _ => rfl
  | ref matched =>
      obtain ⟨o, o', ho, ho', hobjects⟩ := h.objects _ _ matched
      simp only [Store.text?, ho, ho']
      cases hobjects <;> rfl

theorem isText_eq : s'.isText v' = s.isText v := by
  rw [Store.isText, Store.isText, h.text?_eq hv]

theorem tokenType?_eq : s'.tokenType? v' = s.tokenType? v := by
  have hget := h.get? hv
  unfold Store.tokenType?
  generalize s.get? v = x at hget
  generalize s'.get? v' = x' at hget
  cases hget with
  | none => rfl
  | some ho => cases ho <;> rfl

theorem className_eq : s'.className v' = s.className v := by
  have hget := h.get? hv
  unfold Store.className
  generalize s.get? v = x at hget
  generalize s'.get? v' = x' at hget
  cases hget with
  | none => exact hv.atomClass_eq
  | some ho =>
      cases ho with
      | lone atom => exact atom.atomClass_eq
      | builder hb => cases hb <;> rfl
      | failure he => simp only [he.errorClass]
      | _ => rfl

theorem kindName_eq : s'.kindName v' = s.kindName v := by
  have hclass := h.className_eq hv
  have hget := h.get? hv
  unfold Store.kindName
  rw [hclass]
  generalize s.get? v = x at hget
  generalize s'.get? v' = x' at hget
  cases hget with
  | none => rfl
  | some ho => cases ho <;> rfl

theorem truthy_eq : s'.truthy v' = s.truthy v := by
  cases hv with
  | atom noReference =>
      cases v with
      | ref id => exact absurd rfl (noReference id)
      | _ => rfl
  | ref matched =>
      obtain ⟨o, o', ho, ho', hobjects⟩ := h.objects _ _ matched
      simp only [Store.truthy, ho, ho']
      cases hobjects with
      | list items | tuple items | set items | frozenset items => cases items <;> rfl
      | dict layout entries => cases entries <;> rfl
      | mapping entries => cases entries <;> rfl
      | _ => rfl

theorem entries? : Option.Rel m.Entries (s.entries? v) (s'.entries? v') := by
  have hget := h.get? hv
  unfold Store.entries?
  generalize s.get? v = x at hget
  generalize s'.get? v' = x' at hget
  cases hget with
  | none => exact .none
  | some ho =>
      cases ho with
      | dict layout entries => exact .some entries
      | mapping entries => exact .some entries
      | _ => exact .none

theorem items? : Option.Rel m.Lists (s.items? v) (s'.items? v') := by
  have hget := h.get? hv
  unfold Store.items?
  generalize s.get? v = x at hget
  generalize s'.get? v' = x' at hget
  cases hget with
  | none => exact .none
  | some ho =>
      cases ho with
      | list items => exact .some items
      | tuple items => exact .some items
      | _ => exact .none

theorem list? : Option.Rel m.Lists (s.list? v) (s'.list? v') := by
  have hget := h.get? hv
  unfold Store.list?
  generalize s.get? v = x at hget
  generalize s'.get? v' = x' at hget
  cases hget with
  | none => exact .none
  | some ho =>
      cases ho with
      | list items => exact .some items
      | _ => exact .none

theorem node? : Option.Rel m.Parts (s.node? v) (s'.node? v') := by
  have hget := h.get? hv
  unfold Store.node?
  generalize s.get? v = x at hget
  generalize s'.get? v' = x' at hget
  cases hget with
  | none => exact .none
  | some ho =>
      cases ho with
      | node parts => exact .some parts
      | _ => exact .none

theorem part? (name : String) : Option.Rel m.Values (s.part? v name) (s'.part? v' name) := by
  have hget := h.get? hv
  unfold Store.part?
  generalize s.get? v = x at hget
  generalize s'.get? v' = x' at hget
  cases hget with
  | none => exact .none
  | some ho =>
      cases ho with
      | record fields => exact fields.find? name
      | node parts =>
          dsimp only
          split
          · exact .some parts.type
          · exact .some parts.attributes
          · exact .some parts.children
          · exact .some parts.position
          · exact .none
      | position line column offset =>
          dsimp only
          split
          · exact .some line
          · exact .some column
          · exact .some offset
          · exact .none
      | span start stop =>
          dsimp only
          split
          · exact .some start
          · exact .some stop
          · exact .none
      | token type text place =>
          dsimp only
          split
          · exact .some (.text type)
          · exact .some (.text text)
          · exact place.field? name
      | tree data =>
          dsimp only
          split
          · exact .some data
          · exact .none
      | place place => exact Values.filter_ne_null (place.field? name)
      | helpers builder errorClass =>
          dsimp only
          split
          · exact .some builder
          · exact .some errorClass
          · exact .none
      | failure he => exact he.fields.find? name
      | _ => exact .none

theorem part (name : String) : m.Values (s.part v name) (s'.part v' name) := by
  have hpart := h.part? hv name
  unfold Store.part
  generalize s.part? v name = x at hpart
  generalize s'.part? v' name = x' at hpart
  cases hpart with
  | none => exact .null
  | some hvalue => exact hvalue

theorem missingPart_eq (name : String) : s'.missingPart v' name = s.missingPart v name := by
  have hkind := h.kindName_eq hv
  unfold Store.missingPart
  rw [hkind]
  cases hv <;> rfl

theorem missingMethod (name : String) :
    m.Failures (s.missingMethod v name) (s'.missingMethod v' name) := by
  have hmissing := h.missingPart_eq hv name
  have hpart := h.part? hv name
  unfold Store.missingMethod
  rw [hmissing]
  generalize s.part? v name = x at hpart
  generalize s'.part? v' name = x' at hpart
  cases hpart with
  | none => exact .message _ _
  | some hvalue =>
      dsimp only
      rw [h.kindName_eq hvalue]
      exact .message _ _

theorem placeOf : m.Places (s.placeOf v) (s'.placeOf v') := by
  have hread : m.Places
      { line := s.part v "line", column := s.part v "column", startPos := s.part v "start_pos",
        endLine := s.part v "end_line", endColumn := s.part v "end_column",
        endPos := s.part v "end_pos" }
      { line := s'.part v' "line", column := s'.part v' "column",
        startPos := s'.part v' "start_pos", endLine := s'.part v' "end_line",
        endColumn := s'.part v' "end_column", endPos := s'.part v' "end_pos" } :=
    ⟨h.part hv _, h.part hv _, h.part hv _, h.part hv _, h.part hv _, h.part hv _⟩
  have hget := h.get? hv
  unfold Store.placeOf
  generalize s.get? v = x at hget
  generalize s'.get? v' = x' at hget
  cases hget with
  | none => exact hread
  | some ho =>
      cases ho with
      | tree data children place => exact place
      | _ => exact hread

theorem elements? : Option.Rel m.Lists (s.elements? v) (s'.elements? v') := by
  have htexts : ∀ cs : List Char, m.Lists (cs.map fun c => .text (String.singleton c))
      (cs.map fun c => .text (String.singleton c)) := fun cs =>
    List.forall₂_map_left_iff.mpr (List.forall₂_map_right_iff.mpr
      (List.forall₂_same.mpr fun c _ => .text _))
  have hkeys : ∀ {es es' : List (Value × Value)}, m.Entries es es' →
      m.Lists (es.map (·.1)) (es'.map (·.1)) := fun hes =>
    List.forall₂_map_left_iff.mpr (List.forall₂_map_right_iff.mpr
      (List.Forall₂.imp (fun _ _ he => he.1) hes))
  cases hv with
  | atom noReference =>
      cases v with
      | ref id => exact absurd rfl (noReference id)
      | text t => exact .some (htexts _)
      | _ => exact .none
  | ref matched =>
      obtain ⟨o, o', ho, ho', hobjects⟩ := h.objects _ _ matched
      simp only [Store.elements?, ho, ho']
      cases hobjects with
      | list items | tuple items | set items | frozenset items => exact .some items
      | dict layout entries => exact .some (hkeys entries)
      | mapping entries => exact .some (hkeys entries)
      | bytes content =>
          exact .some (List.forall₂_map_left_iff.mpr (List.forall₂_map_right_iff.mpr
            (List.forall₂_same.mpr fun b _ => .int _)))
      | token type text place => exact .some (htexts _)
      | _ => exact .none

theorem length : m.Results Eq (s.length v) (s'.length v') := by
  have helements := h.elements? hv
  have hkind := h.kindName_eq hv
  unfold Store.length
  rw [hkind]
  generalize s.elements? v = x at helements
  generalize s'.elements? v' = x' at helements
  cases helements with
  | none => exact .error (.message _ _)
  | some items => exact .ok items.length_eq

theorem requirePart (name : String) :
    m.Results m.Values (s.requirePart v name) (s'.requirePart v' name) := by
  have hpart := h.part? hv name
  have hmissing := h.missingPart_eq hv name
  unfold Store.requirePart
  rw [hmissing]
  generalize s.part? v name = x at hpart
  generalize s'.part? v' name = x' at hpart
  cases hpart with
  | none => exact .error (.message _ _)
  | some hvalue => exact .ok hvalue

theorem orElse {u u' : Value} (hu : m.Values u u') : m.Values (s.orElse v u) (s'.orElse v' u') := by
  unfold Store.orElse
  rw [h.truthy_eq hv]
  split
  · exact hv
  · exact hu

theorem startPoint : m.Points (s.startPoint v) (s'.startPoint v') := by
  have hplace := h.placeOf hv
  exact ⟨h.orElse hplace.line (.int 0), h.orElse hplace.column (.int 0),
    h.orElse hplace.startPos (.int 0)⟩

theorem endPoint : m.Points (s.endPoint v) (s'.endPoint v') := by
  have hplace := h.placeOf hv
  have hstart := h.startPoint hv
  exact ⟨h.orElse hplace.endLine hstart.line, h.orElse hplace.endColumn hstart.column,
    h.orElse hplace.endPos hstart.offset⟩

theorem isPosition_eq : s'.isPosition v' = s.isPosition v := by
  have hget := h.get? hv
  unfold Store.isPosition
  generalize s.get? v = x at hget
  generalize s'.get? v' = x' at hget
  cases hget with
  | none => rfl
  | some ho => cases ho <;> rfl

theorem dict?_isSome_eq : (s'.dict? v').isSome = (s.dict? v).isSome := by
  have hget := h.get? hv
  unfold Store.dict?
  generalize s.get? v = x at hget
  generalize s'.get? v' = x' at hget
  cases hget with
  | none => rfl
  | some ho => cases ho <;> rfl

theorem isWellFormedNode_eq : s'.isWellFormedNode v' = s.isWellFormedNode v := by
  have hnode := h.node? hv
  unfold Store.isWellFormedNode
  generalize s.node? v = x at hnode
  generalize s'.node? v' = x' at hnode
  cases hnode with
  | none => rfl
  | some parts =>
      have hlist := h.list? parts.children
      dsimp only
      rw [h.isText_eq parts.type, h.dict?_isSome_eq parts.attributes,
        h.isPosition_eq parts.position]
      generalize s.list? _ = y at hlist ⊢
      generalize s'.list? _ = y' at hlist ⊢
      cases hlist <;> rfl

end Values

end Stores

end ParseKit.Matching
