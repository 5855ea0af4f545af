import ParseKit.Proofs.Forest.Basic
import ParseKit.Proofs.Store.Basic

namespace ParseKit

structure Heading where
  rule : String
  line : Int
  column : Int
  offset : Int
  deriving DecidableEq, Repr, Inhabited

-- A part of a position, zero where nothing was recorded.
def Value.recorded? : Value → Option Int
  | .null => some 0
  | .int i => some i
  | _ => none

def Place.heading? (p : Place) (rule : String) : Option Heading := do
  return ⟨rule, ← p.line.recorded?, ← p.column.recorded?, ← p.startPos.recorded?⟩

theorem rule_of_heading? {p : Place} {rule : String} {heading : Heading}
    (h : p.heading? rule = some heading) : heading.rule = rule := by
  simp only [Place.heading?, Option.bind_eq_bind, Option.bind_eq_some_iff, Option.pure_def,
    Option.some.injEq] at h
  obtain ⟨_, -, _, -, _, -, rfl⟩ := h
  rfl

-- Trees, tokens and nulls of which the trees have the given outline. Nothing is named in a way that
-- is not allowed.
inductive Store.Outlined (s : Store) (allowed : String → Prop) :
    List Value → Forest Heading → Prop where
  | nil : Outlined s allowed [] .nil
  | absent {vs : List Value} {f : Forest Heading} (rest : Outlined s allowed vs f) :
      Outlined s allowed (.null :: vs) f
  | token {v : Value} {vs : List Value} {f : Forest Heading} {type text : String} {place : Place}
      (object : s.get? v = some (.token type text place)) (named : allowed type)
      (rest : Outlined s allowed vs f) : Outlined s allowed (v :: vs) f
  | tree {v data : Value} {vs children : List Value} {below beside : Forest Heading}
      {rule : String} {place : Place} {heading : Heading}
      (object : s.get? v = some (.tree data children place)) (text : s.text? data = some rule)
      (named : allowed rule) (starts : place.heading? rule = some heading)
      (inner : Outlined s allowed children below) (rest : Outlined s allowed vs beside) :
      Outlined s allowed (v :: vs) (.cons heading below beside)

-- How many trees there are at most on the way down to a leaf.
def Forest.height {α : Type} : Forest α → Nat
  | nil => 0
  | cons _ below beside => max (below.height + 1) beside.height

namespace Store.Outlined

variable {s : Store} {allowed : String → Prop} {vs : List Value} {f g : Forest Heading}

theorem unique (hf : s.Outlined allowed vs f) (hg : s.Outlined allowed vs g) : f = g := by
  induction hf generalizing g with
  | nil => cases hg; rfl
  | absent _ ih =>
      cases hg with
      | absent hg => exact ih hg
      | token object => cases object
      | tree object => cases object
  | token object _ _ ih =>
      cases hg with
      | absent => cases object
      | token _ _ hg => exact ih hg
      | tree object' => cases object.symm.trans object'
  | tree object text _ starts _ _ ihb ihs =>
      cases hg with
      | absent => cases object
      | token object' => cases object.symm.trans object'
      | tree object' text' _ starts' hb hs =>
          cases object.symm.trans object'
          cases text.symm.trans text'
          cases starts.symm.trans starts'
          rw [ihb hb, ihs hs]

theorem weaken {allowed' : String → Prop} (h : s.Outlined allowed vs f)
    (hallowed : ∀ name, allowed name → allowed' name) : s.Outlined allowed' vs f := by
  induction h with
  | nil => exact .nil
  | absent _ ih => exact .absent ih
  | token object named _ ih => exact .token object (hallowed _ named) ih
  | tree object text named starts _ _ ihb ihs =>
      exact .tree object text (hallowed _ named) starts ihb ihs

-- On the way down to a leaf no tree is met again, because what is below a tree has a smaller
-- outline than the tree. The trees on the way are therefore as many objects.
private theorem height_below (h : s.Outlined allowed vs f) {path : List Value}
    (hdistinct : path.Nodup)
    (habove : ∀ u ∈ path, ∃ data children place g, s.get? u = some (.tree data children place) ∧
      s.Outlined allowed children g ∧ f.size ≤ g.size) : f.height + path.length ≤ s.size := by
  induction h generalizing path with
  | nil =>
      have hthere : ∀ u ∈ path, s.get? u ≠ none := by
        intro u hu
        obtain ⟨data, children, place, g, hget, -⟩ := habove u hu
        rw [hget]
        simp
      have := length_le_size hdistinct hthere
      simp only [Forest.height]
      omega
  | absent _ ih => exact ih hdistinct habove
  | token _ _ _ ih => exact ih hdistinct habove
  | @tree v data vs children below beside rule place heading object text named starts inner rest
      ihb ihs =>
      simp only [Forest.size] at habove
      have hnew : v ∉ path := by
        intro hv
        obtain ⟨_, _, _, g, hget, hg, hsize⟩ := habove v hv
        cases object.symm.trans hget
        rw [inner.unique hg] at hsize
        omega
      have hb : below.height + (v :: path).length ≤ s.size := by
        refine ihb (List.nodup_cons.mpr ⟨hnew, hdistinct⟩) fun u hu => ?_
        rcases List.mem_cons.mp hu with rfl | hu
        · exact ⟨data, children, place, below, object, inner, Nat.le_refl _⟩
        · obtain ⟨data, children, place, g, hget, hg, hsize⟩ := habove u hu
          exact ⟨data, children, place, g, hget, hg, by omega⟩
      have hs : beside.height + path.length ≤ s.size := by
        refine ihs hdistinct fun u hu => ?_
        obtain ⟨data, children, place, g, hget, hg, hsize⟩ := habove u hu
        exact ⟨data, children, place, g, hget, hg, by omega⟩
      simp only [Forest.height, List.length_cons] at hb hs ⊢
      omega

theorem height_le (h : s.Outlined allowed vs f) : f.height ≤ s.size := by
  have hempty : ([] : List Value).Nodup := List.nodup_nil
  simpa using height_below h hempty (by simp)

end Store.Outlined

-- Trees, tokens and nulls as a grammar with such names of terminals and of rules gives them.
inductive Store.Parsed (s : Store) (terminal rule : String → Prop) :
    List Value → Forest Heading → Prop where
  | nil : Parsed s terminal rule [] .nil
  | absent {vs : List Value} {f : Forest Heading} (rest : Parsed s terminal rule vs f) :
      Parsed s terminal rule (.null :: vs) f
  | token {v : Value} {vs : List Value} {f : Forest Heading} {type text : String} {place : Place}
      (object : s.get? v = some (.token type text place)) (named : terminal type)
      (rest : Parsed s terminal rule vs f) : Parsed s terminal rule (v :: vs) f
  | tree {v data : Value} {vs children : List Value} {below beside : Forest Heading}
      {name : String} {place : Place} {heading : Heading}
      (object : s.get? v = some (.tree data children place)) (text : s.text? data = some name)
      (named : rule name) (starts : place.heading? name = some heading)
      (inner : Parsed s terminal rule children below)
      (rest : Parsed s terminal rule vs beside) :
      Parsed s terminal rule (v :: vs) (.cons heading below beside)

namespace Store.Parsed

variable {s : Store} {terminal rule allowed : String → Prop} {vs : List Value} {f : Forest Heading}

theorem rule_of_mem (h : s.Parsed terminal rule vs f) : ∀ heading ∈ f.labels, rule heading.rule := by
  induction h with
  | nil => simp [Forest.labels]
  | absent _ ih => exact ih
  | token _ _ _ ih => exact ih
  | tree object text named starts _ _ ihb ihs =>
      intro heading hheading
      simp only [Forest.labels, List.cons_append, List.mem_cons, List.mem_append] at hheading
      rcases hheading with rfl | hbelow | hbeside
      · rw [rule_of_heading? starts]
        exact named
      · exact ihb heading hbelow
      · exact ihs heading hbeside

theorem outlined (h : s.Parsed terminal rule vs f)
    (hterminal : ∀ name, terminal name → allowed name)
    (hrule : ∀ heading ∈ f.labels, allowed heading.rule) : s.Outlined allowed vs f := by
  induction h with
  | nil => exact .nil
  | absent _ ih => exact .absent (ih hrule)
  | token object named _ ih => exact .token object (hterminal _ named) (ih hrule)
  | @tree _ _ _ _ below beside _ _ heading object text named starts _ _ ihb ihs =>
      have hname : allowed heading.rule := hrule heading (by simp [Forest.labels])
      rw [rule_of_heading? starts] at hname
      exact .tree object text hname starts
        (ihb fun h hh => hrule h (by simp [Forest.labels, hh]))
        (ihs fun h hh => hrule h (by simp [Forest.labels, hh]))

end Store.Parsed

end ParseKit
