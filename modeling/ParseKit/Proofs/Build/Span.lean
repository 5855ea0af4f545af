import ParseKit.Build.Span
import ParseKit.Proofs.Run.Basic
import ParseKit.Proofs.Store.Extends

namespace ParseKit

variable {σ : Type}

open Run (Gives)

inductive Coordinate where
  | line
  | column
  | offset

def Point.get (p : Point) : Coordinate → Value
  | .line => p.line
  | .column => p.column
  | .offset => p.offset

theorem Point.ext_get {p q : Point} (h : ∀ c, p.get c = q.get c) : p = q := by
  cases p
  cases q
  rw [Point.mk.injEq]
  exact ⟨h .line, h .column, h .offset⟩

namespace Place

-- What is recorded for the start of an item.
def first (p : Place) : Coordinate → Value
  | .line => p.line
  | .column => p.column
  | .offset => p.startPos

-- What is recorded for its end.
def last (p : Place) : Coordinate → Value
  | .line => p.endLine
  | .column => p.endColumn
  | .offset => p.endPos

end Place

-- A natural number, or null where nothing is recorded.
inductive Value.Recorded : Value → Prop where
  | nothing : Recorded .null
  | number {v : Value} (n : Nat) (counts : v.toInt? = some (n : Int)) : Recorded v

namespace Value.Recorded

variable {first last : Value}

theorem getD_nonneg (h : first.Recorded) : 0 ≤ first.toInt?.getD 0 := by
  cases h with
  | nothing => exact Int.le_refl 0
  | number n counts =>
      rw [counts]
      exact Int.natCast_nonneg n

theorem getD_le (hfirst : first.Recorded) (hlast : last.Recorded)
    (hordered : ∀ i j, first.toInt? = some i → last.toInt? = some j → i ≤ j) :
    first.toInt?.getD 0 ≤ last.toInt?.getD (first.toInt?.getD 0) := by
  cases hlast with
  | nothing => exact Int.le_refl _
  | number n hn =>
      rw [hn]
      cases hfirst with
      | nothing => exact Int.natCast_nonneg n
      | number m hm =>
          rw [hm]
          exact hordered m n hm hn

end Value.Recorded

-- What the span of an item has for one coordinate, of which `first` and `last` are recorded for the
-- item. Nothing recorded is a zero at the start, and at the end it is what the span starts with.
-- Integers stay the same values, and truth values the same numbers.
structure Keeps (first last start stop : Value) : Prop where
  start_number : start.toInt? = some (first.toInt?.getD 0)
  stop_number : stop.toInt? = some (last.toInt?.getD (first.toInt?.getD 0))
  start_recorded : ∀ i, first = .int i → start = first
  stop_recorded : ∀ j, last = .int j → stop = last
  start_unrecorded : first = .null → start = .int 0
  stop_unrecorded : last = .null → stop = start
  ordered : ∀ i j, start.toInt? = some i → stop.toInt? = some j → i ≤ j

namespace Store

-- Trees, tokens, and positions on their own, with what is recorded for them.
inductive Placed (s : Store) (item : Value) : Place → Prop where
  | tree {data : Value} {children : List Value} {place : Place}
      (object : s.get? item = some (.tree data children place)) : Placed s item place
  | token {type text : String} {place : Place}
      (object : s.get? item = some (.token type text place)) : Placed s item place
  | alone {place : Place} (object : s.get? item = some (.place place)) : Placed s item place

-- A span between two points.
def Spans (s : Store) (span : Value) (start stop : Point) : Prop :=
  ∃ first last, s.get? span = some (.span first last) ∧
    s.get? first = some (.position start.line start.column start.offset) ∧
    s.get? last = some (.position stop.line stop.column stop.offset)

theorem part_place {s : Store} {v w : Value} {place : Place} (name : String)
    (hget : s.get? v = some (.place place)) (hfield : place.field? name = some w) :
    s.part v name = w := by
  by_cases hw : w = .null <;> simp [part, part?, hget, hfield, hw, Option.filter]

theorem Placed.placeOf_eq {s : Store} {item : Value} {place : Place} (h : s.Placed item place) :
    s.placeOf item = place := by
  cases h with
  | tree object => simp only [placeOf, object]
  | token object => simp [placeOf, object, part, part?, Place.field?]
  | alone object =>
      unfold placeOf
      rw [object]
      simp only [part_place "line" object rfl, part_place "column" object rfl,
        part_place "start_pos" object rfl, part_place "end_line" object rfl,
        part_place "end_column" object rfl, part_place "end_pos" object rfl]

theorem get_startPoint (s : Store) (item : Value) (c : Coordinate) :
    (s.startPoint item).get c = s.orElse ((s.placeOf item).first c) (.int 0) := by
  cases c <;> rfl

theorem get_endPoint (s : Store) (item : Value) (c : Coordinate) :
    (s.endPoint item).get c =
      s.orElse ((s.placeOf item).last c) ((s.startPoint item).get c) := by
  cases c <;> rfl

theorem orElse_int (s : Store) (i : Int) : s.orElse (.int i) (.int 0) = .int i := by
  by_cases hi : i = 0 <;> simp [orElse, truthy, hi]

theorem truthy_of_toInt? (s : Store) {v : Value} {i : Int} (h : v.toInt? = some i) :
    s.truthy v = decide (i ≠ 0) := by
  cases v with
  | bool b => cases h; cases b <;> rfl
  | int j => cases h; rfl
  | _ => cases h

-- A recorded zero cannot be told from nothing recorded.
theorem orElse_of_recorded (s : Store) {v : Value} (h : v.Recorded) (other : Value) :
    s.orElse v other = if v.toInt?.getD 0 = 0 then other else v := by
  cases h with
  | nothing => rfl
  | number n counts => by_cases hn : n = 0 <;> simp [orElse, s.truthy_of_toInt? counts, counts, hn]

theorem toInt?_orElse (s : Store) {v other : Value} {i : Int} (h : v.Recorded)
    (hother : other.toInt? = some i) :
    (s.orElse v other).toInt? = some (if v.toInt?.getD 0 = 0 then i else v.toInt?.getD 0) := by
  rw [s.orElse_of_recorded h]
  split
  · exact hother
  · next hv =>
    cases h with
    | nothing => exact absurd rfl hv
    | number n counts => rw [counts, Option.getD_some]

namespace Placed

variable {s s' : Store} {item item' : Value} {place : Place}

theorem startPoint_eq (h : s.Placed item place) (h' : s'.Placed item' place)
    (hfirst : ∀ c, (place.first c).Recorded) : s.startPoint item = s'.startPoint item' := by
  refine Point.ext_get fun c => ?_
  rw [get_startPoint, get_startPoint, h.placeOf_eq, h'.placeOf_eq,
    s.orElse_of_recorded (hfirst c), s'.orElse_of_recorded (hfirst c)]

theorem endPoint_eq (h : s.Placed item place) (h' : s'.Placed item' place)
    (hfirst : ∀ c, (place.first c).Recorded) (hlast : ∀ c, (place.last c).Recorded) :
    s.endPoint item = s'.endPoint item' := by
  refine Point.ext_get fun c => ?_
  rw [get_endPoint, get_endPoint, h.placeOf_eq, h'.placeOf_eq, h.startPoint_eq h' hfirst,
    s.orElse_of_recorded (hlast c), s'.orElse_of_recorded (hlast c)]

end Placed

section Keeps

variable {first last : Value}

theorem toInt?_start (s : Store) (hfirst : first.Recorded) :
    (s.orElse first (.int 0)).toInt? = some (first.toInt?.getD 0) := by
  rw [s.toInt?_orElse hfirst rfl]
  split <;> simp_all

theorem toInt?_stop (s : Store) (hfirst : first.Recorded) (hlast : last.Recorded)
    (hordered : ∀ i j, first.toInt? = some i → last.toInt? = some j → i ≤ j) :
    (s.orElse last (s.orElse first (.int 0))).toInt? =
      some (last.toInt?.getD (first.toInt?.getD 0)) := by
  have hle := hfirst.getD_le hlast hordered
  have hnonneg := hfirst.getD_nonneg
  rw [s.toInt?_orElse hlast (s.toInt?_start hfirst)]
  cases hnumber : last.toInt? with
  | none => rfl
  | some j =>
      rw [hnumber, Option.getD_some] at hle
      have hend : (if j = 0 then first.toInt?.getD 0 else j) = j := by split <;> omega
      rw [Option.getD_some, Option.getD_some, hend]

theorem keeps_orElse (s : Store) (hfirst : first.Recorded) (hlast : last.Recorded)
    (hordered : ∀ i j, first.toInt? = some i → last.toInt? = some j → i ≤ j) :
    Keeps first last (s.orElse first (.int 0)) (s.orElse last (s.orElse first (.int 0))) := by
  have hle := hfirst.getD_le hlast hordered
  have hstart := s.toInt?_start hfirst
  have hstop := s.toInt?_stop hfirst hlast hordered
  constructor
  case start_number => exact hstart
  case stop_number => exact hstop
  case start_recorded =>
    rintro i rfl
    exact s.orElse_int i
  case stop_recorded =>
    rintro j rfl
    by_cases hj : j = 0
    · -- what ends at zero has started there, so that the end is the start
      subst hj
      have hzero : first.toInt?.getD 0 = 0 := Int.le_antisymm hle hfirst.getD_nonneg
      exact (s.orElse_of_recorded hfirst _).trans (if_pos hzero)
    · simp [orElse, truthy, hj]
  case start_unrecorded =>
    rintro rfl
    rfl
  case stop_unrecorded =>
    rintro rfl
    rfl
  case ordered =>
    intro i j hi hj
    cases hstart.symm.trans hi
    cases hstop.symm.trans hj
    exact hle

end Keeps

end Store

theorem spanOf_gives (s : Store) (item : Value) :
    ∃ span s', Gives (spanOf item : Run σ Value) s span s' ∧ s.Extends s' ∧
      s'.Spans span (s.startPoint item) (s.endPoint item) := by
  let place := fun p : Point => Object.position p.line p.column p.offset
  let s₁ := (s.alloc (place (s.startPoint item))).2
  let s₂ := (s₁.alloc (place (s.endPoint item))).2
  let span : Object :=
    .span (s.alloc (place (s.startPoint item))).1 (s₁.alloc (place (s.endPoint item))).1
  have hrun : Gives (spanOf item : Run σ Value) s (s₂.alloc span).1 (s₂.alloc span).2 :=
    (Gives.store s).bind ((Gives.alloc _ s).bind ((Gives.alloc _ s₁).bind (Gives.alloc span s₂)))
  refine ⟨_, _, hrun, ?_, _, _, Store.get?_alloc_here s₂ span, ?_, ?_⟩
  · exact (Store.Extends.alloc s _).trans ((Store.Extends.alloc s₁ _).trans
      (Store.Extends.alloc s₂ _))
  · exact Store.get?_alloc_elsewhere _ (Store.get?_alloc_elsewhere _ (Store.get?_alloc_here s _))
  · exact Store.get?_alloc_elsewhere _ (Store.get?_alloc_here s₁ _)

-- Nothing but the place matters to a span.
theorem spanOf_congr {item item' : Value} {w : World σ}
    (h : w.store.placeOf item = w.store.placeOf item') : spanOf item w = spanOf item' w := by
  have hstart : w.store.startPoint item = w.store.startPoint item' := by
    rw [Store.startPoint, h, ← Store.startPoint]
  have hstop : w.store.endPoint item = w.store.endPoint item' := by
    rw [Store.endPoint, h, hstart, ← Store.endPoint]
  simp only [spanOf, Run.bind_apply, Run.store_apply, hstart, hstop]

-- A span starts with what is recorded, and with zero where nothing is. It ends with what is
-- recorded, and where nothing is with what it starts with, so that it never ends before it starts.
-- Whatever has the same positions has the same span, as a tree, with all that is below it, and the
-- positions of the tree on their own.
theorem spanOf_keeps {place : Place} (hfirst : ∀ c, (place.first c).Recorded)
    (hlast : ∀ c, (place.last c).Recorded)
    (hordered : ∀ c i j, (place.first c).toInt? = some i → (place.last c).toInt? = some j → i ≤ j) :
    ∃ start stop : Point,
      (∀ c, Keeps (place.first c) (place.last c) (start.get c) (stop.get c)) ∧
      (∀ s item, s.Placed item place → ∃ span s', Gives (spanOf item : Run σ Value) s span s' ∧
        s.Extends s' ∧ s'.Spans span start stop) ∧
      ∀ (w : World σ) tree data children positions,
        w.store.get? tree = some (.tree data children place) →
        w.store.get? positions = some (.place place) → spanOf tree w = spanOf positions w := by
  -- any item at the place shows where its spans start and end
  obtain ⟨s₀, item₀, h₀⟩ : ∃ (s₀ : Store) (item₀ : Value), s₀.Placed item₀ place :=
    ⟨_, _, .alone (Store.get?_alloc_here default (.place place))⟩
  refine ⟨s₀.startPoint item₀, s₀.endPoint item₀, fun c => ?_, fun s item h => ?_, ?_⟩
  · rw [Store.get_endPoint, Store.get_startPoint, h₀.placeOf_eq]
    exact s₀.keeps_orElse (hfirst c) (hlast c) (hordered c)
  · obtain ⟨span, s', hrun, hext, hspan⟩ := spanOf_gives (σ := σ) s item
    rw [h.startPoint_eq h₀ hfirst, h.endPoint_eq h₀ hfirst hlast] at hspan
    exact ⟨span, s', hrun, hext, hspan⟩
  · intro w tree data children positions htree hpositions
    refine spanOf_congr ?_
    rw [(Store.Placed.tree htree).placeOf_eq, (Store.Placed.alone hpositions).placeOf_eq]

-- Both offsets are recorded as zero, while the column of the start and the line of the end are not
-- recorded.
private def startOfText : Place :=
  { line := .int 1, startPos := .int 0, endColumn := .int 4, endPos := .int 0 }

private def matchedNothing : Store :=
  ⟨#[.token "NAME" "abc" { line := .int 7, endLine := .int 3 },
    .tree (.text "names") [.ref 0, .null] startOfText, .place startOfText]⟩

theorem spanOf_keeps_startOfText : ∃ start stop span s',
    Gives (spanOf (.ref 1) : Run Unit Value) matchedNothing span s' ∧ s'.Spans span start stop ∧
    start.line = .int 1 ∧ start.column = .int 0 ∧ start.offset = .int 0 ∧
    stop.line = .int 1 ∧ stop.column = .int 4 ∧ stop.offset = .int 0 ∧
    ∀ w : World Unit, w.store = matchedNothing → spanOf (.ref 1) w = spanOf (.ref 2) w := by
  have hfirst : ∀ c, (startOfText.first c).Recorded
    | .line => .number 1 rfl
    | .column => .nothing
    | .offset => .number 0 rfl
  have hlast : ∀ c, (startOfText.last c).Recorded
    | .line => .nothing
    | .column => .number 4 rfl
    | .offset => .number 0 rfl
  have hordered : ∀ c i j, (startOfText.first c).toInt? = some i →
      (startOfText.last c).toInt? = some j → i ≤ j := by
    intro c i j hi hj
    cases c <;> cases hi <;> cases hj
    exact Int.le_refl 0
  obtain ⟨start, stop, hkeeps, hspans, hsame⟩ :=
    spanOf_keeps (σ := Unit) hfirst hlast hordered
  obtain ⟨span, s', hrun, -, hspan⟩ := hspans matchedNothing (.ref 1) (.tree rfl)
  have hline := (hkeeps .line).start_recorded 1 rfl
  refine ⟨start, stop, span, s', hrun, hspan, hline, (hkeeps .column).start_unrecorded rfl,
    (hkeeps .offset).start_recorded 0 rfl, ((hkeeps .line).stop_unrecorded rfl).trans hline,
    (hkeeps .column).stop_recorded 4 rfl, (hkeeps .offset).stop_recorded 0 rfl, ?_⟩
  intro w hw
  exact hsame w _ (.text "names") [.ref 0, .null] _ (by rw [hw]; rfl) (by rw [hw]; rfl)

end ParseKit
