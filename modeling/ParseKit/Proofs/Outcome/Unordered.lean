import Mathlib.Data.List.Perm.Basic
import ParseKit.Proofs.Outcome.Refused
import ParseKit.Proofs.Value.Mention

namespace ParseKit

namespace Store

-- Stores that are alike where some values are concerned, the parts of these values included.
structure Shares (s s' : Store) (known : Value → Prop) : Prop extends s.Alike s' known where
  parts : ∀ v name u, known v → s.part? v name = some u → known u

namespace Shares

variable {s s' : Store} {known : Value → Prop} {v : Value}

theorem part?_eq (h : s.Shares s' known) (hv : known v) (name : String) :
    s'.part? v name = s.part? v name := by
  simp only [part?, h.same v hv]

theorem symm (h : s.Shares s' known) : s'.Shares s known where
  size := h.size.symm
  same v hv := (h.same v hv).symm
  closed v u hv hmentions := by
    cases hmentions with
    | written object member => exact h.closed v u hv (.written (h.same v hv ▸ object) member)
    | @place p name object part =>
        have hobject : s.get? v = some (.node p) := h.same v hv ▸ object
        have hposition : known p.position :=
          h.closed v _ hv (.written hobject (by simp [Object.written]))
        exact h.closed v u hv (.place hobject (h.part?_eq hposition name ▸ part))
  parts v name u hv hpart := h.parts v name u hv (h.part?_eq hv name ▸ hpart)

end Shares

end Store

namespace Details

open Store (Shares)

-- Two collections with the same items, each as often in the one as in the other.
def SameItems (s s' : Store) (known : Value → Prop) (v v' : Value) : Prop :=
  ∃ items items', collection? s v = some items ∧ collection? s' v' = some items' ∧
    items.Perm items' ∧ ∀ u ∈ items, known u

-- The same value, or two collections with the same items.
def Counterparts (s s' : Store) (known : Value → Prop) (v v' : Value) : Prop :=
  v' = v ∧ known v ∨ SameItems s s' known v v'

-- Two errors that differ in nothing but the order and the kind of the collections that they name as
-- what was found and what was expected.
structure Rearranged (s s' : Store) (known : Value → Prop) (e e' : Failure) : Prop where
  shares : s.Shares s' known
  errorClass : e'.errorClass = e.errorClass
  args : e'.args = e.args
  knownArgs : ∀ v ∈ e.args, known v
  lists : ∀ name ∈ ["found", "expected", "allowed"],
    Counterparts s s' known (field e name) (field e' name)
  others : ∀ name ∉ ["found", "expected", "allowed"],
    field e' name = field e name ∧ known (field e name)

variable {s s' : Store} {known : Value → Prop} {v v' t : Value} {items : List Value}

theorem SameItems.symm (h : SameItems s s' known v v') : SameItems s' s known v' v := by
  obtain ⟨items, items', hitems, hitems', hperm, hknown⟩ := h
  exact ⟨items', items, hitems', hitems, hperm.symm, fun u hu => hknown u (hperm.mem_iff.mpr hu)⟩

theorem Counterparts.symm (h : Counterparts s s' known v v') : Counterparts s' s known v' v := by
  rcases h with ⟨rfl, hknown⟩ | h
  · exact .inl ⟨rfl, hknown⟩
  · exact .inr h.symm

theorem Rearranged.symm {e e' : Failure} (h : Rearranged s s' known e e') :
    Rearranged s' s known e' e where
  shares := h.shares.symm
  errorClass := h.errorClass.symm
  args := h.args.symm
  knownArgs := h.args ▸ h.knownArgs
  lists name hname := (h.lists name hname).symm
  others name hname := by
    obtain ⟨hsame, hknown⟩ := h.others name hname
    exact ⟨hsame.symm, hsame ▸ hknown⟩

theorem exists_object_of_collection? (h : collection? s v = some items) :
    ∃ o, s.get? v = some o ∧ o.isToken = false ∧ o.written = items := by
  unfold collection? at h
  split at h
  · next hget => exact ⟨_, hget, rfl, Option.some.inj h⟩
  · next hget => exact ⟨_, hget, rfl, Option.some.inj h⟩
  · next hget => exact ⟨_, hget, rfl, Option.some.inj h⟩
  · next hget => exact ⟨_, hget, rfl, Option.some.inj h⟩
  · cases h

theorem ne_null_of_collection? (h : collection? s v = some items) : v ≠ .null := by
  rintro rfl
  cases h

theorem isText_of_collection? (h : collection? s v = some items) : s.isText v = false := by
  obtain ⟨o, hget, htoken, -⟩ := exists_object_of_collection? h
  rw [Store.isText, Store.text?_of_get? hget htoken, Option.isSome_none]

theorem Counterparts.null_iff (h : Counterparts s s' known v v') : v' = .null ↔ v = .null := by
  rcases h with ⟨rfl, -⟩ | ⟨items, items', hitems, hitems', -⟩
  · rfl
  · exact iff_of_false (ne_null_of_collection? hitems') (ne_null_of_collection? hitems)

theorem Counterparts.firstOf {u u' : Value} (h : Counterparts s s' known v v')
    (hu : Counterparts s s' known u u') :
    Counterparts s s' known (firstOf v u) (firstOf v' u') := by
  by_cases hnull : v = .null
  · rw [Details.firstOf, Details.firstOf, if_pos hnull, if_pos (h.null_iff.mpr hnull)]
    exact hu
  · rw [Details.firstOf, Details.firstOf, if_neg hnull, if_neg (mt h.null_iff.mp hnull)]
    exact h

theorem sortTexts_eq_of_perm {texts texts' : List String} (h : texts.Perm texts') :
    sortTexts texts = sortTexts texts' :=
  List.Perm.eq_of_pairwise (fun _ _ _ _ => String.le_antisymm) (pairwise_sortTexts texts)
    (pairwise_sortTexts texts')
    ((List.mergeSort_perm _ _).trans (h.trans (List.mergeSort_perm _ _).symm))

theorem textOf_collection (h : collection? s v = some items) :
    textOf s v = .ok t ↔ ∃ texts, List.Forall₂ (fun u t => s.display u = .ok t) items texts ∧
      t = .text (commaList (sortTexts texts)) := by
  rw [textOf, if_neg (ne_null_of_collection? h), if_neg (by simp [isText_of_collection? h]), h]
  simp only [bind_eq_ok_iff, mapM_eq_ok_iff, pure, Except.pure, Except.ok.injEq,
    eq_comm (a := t)]

theorem textOf_of_sameItems (hshares : s.Shares s' known) (h : SameItems s s' known v v')
    (ht : textOf s v = .ok t) : textOf s' v' = .ok t := by
  obtain ⟨items, items', hitems, hitems', hperm, hknown⟩ := h
  obtain ⟨texts, hshown, rfl⟩ := (textOf_collection hitems).mp ht
  obtain ⟨texts', hshown', htexts⟩ := List.perm_comp_forall₂ hperm.symm hshown
  have hknown' : ∀ u ∈ items', known u := fun u hu => hknown u (hperm.mem_iff.mpr hu)
  refine (textOf_collection hitems').mpr ⟨texts', ?_, by rw [sortTexts_eq_of_perm htexts]⟩
  exact ((List.forall₂_and_left _ _).mpr ⟨hknown', hshown'⟩).imp fun u t h =>
    (hshares.display_eq h.1).trans h.2

-- What is written of the one value is written of the other, and it is the same text in both stores.
theorem textOf_of_counterparts (hshares : s.Shares s' known) (h : Counterparts s s' known v v')
    (ht : textOf s v = .ok t) : textOf s' v' = .ok t ∧ s'.text? t = s.text? t := by
  rcases h with ⟨rfl, hknown⟩ | h
  · have htext : s'.isText v' = s.isText v' := by
      rw [Store.isText, Store.isText, hshares.text?_eq hknown]
    have hcollection : collection? s' v' = collection? s v' := by
      simp only [collection?, hshares.same v' hknown]
    have hsame : textOf s' v' = textOf s v' := by
      rw [textOf, textOf, htext, hcollection, hshares.display_eq hknown]
      cases hlist : collection? s v' with
      | none => rfl
      | some items =>
          obtain ⟨o, hget, -, rfl⟩ := exists_object_of_collection? hlist
          have hitems : o.written.mapM s'.display = o.written.mapM s.display :=
            mapM_congr fun u hu =>
              hshares.display_eq (hshares.closed v' u hknown (.written hget hu))
          simp only [hitems]
    refine ⟨hsame.trans ht, ?_⟩
    cases written_textOf ht with
    | text => exact hshares.text?_eq hknown
    | several _ hlisted =>
        obtain ⟨_, rfl⟩ := hlisted.exists_text
        rfl
    | _ => rfl
  · refine ⟨textOf_of_sameItems hshares h ht, ?_⟩
    obtain ⟨items, items', hitems, -⟩ := h
    obtain ⟨texts, -, rfl⟩ := (textOf_collection hitems).mp ht
    rfl

variable {e e' : Failure}

theorem Rearranged.counterparts (h : Rearranged s s' known e e') (name : String) :
    Counterparts s s' known (field e name) (field e' name) := by
  by_cases hname : name ∈ ["found", "expected", "allowed"]
  · exact h.lists name hname
  · exact .inl (h.others name hname)

theorem Rearranged.found (h : Rearranged s s' known e e') {u : Value} (hu : foundOf s e = .ok u)
    (ht : textOf s u = .ok t) : ∃ u', foundOf s' e' = .ok u' ∧ textOf s' u' = .ok t := by
  obtain ⟨htoken, hknown⟩ := h.others "token" (by decide)
  have hnull := (h.counterparts "found").null_iff
  unfold foundOf at hu ⊢
  by_cases hsaid : field e "found" = .null
  · rw [if_pos hsaid] at hu
    rw [if_pos (hnull.mpr hsaid), htoken]
    by_cases hnone : field e "token" = .null
    · rw [if_pos hnone] at hu ⊢
      cases hu
      exact ⟨_, rfl, (textOf_of_counterparts h.shares (h.counterparts "char") ht).1⟩
    · rw [if_neg hnone] at hu ⊢
      rw [h.shares.display_eq hknown]
      obtain ⟨shown, -, hshown⟩ := bind_eq_ok_iff.mp hu
      cases hshown
      exact ⟨_, hu, ht⟩
  · rw [if_neg hsaid] at hu
    rw [if_neg (mt hnull.mp hsaid)]
    cases hu
    exact ⟨_, rfl, (textOf_of_counterparts h.shares (h.counterparts "found") ht).1⟩

end Details

variable {σ σ' : Type}

-- An error that announces what was expected by a colon: a number, and two texts of which one looks
-- like the number.
private def announced : Failure where
  errorClass := .derived "SyntaxFail" .exception
  args := [.text "expected one of:"]
  fields := [("expected", .ref 0), ("offset", .int 1)]

end ParseKit
