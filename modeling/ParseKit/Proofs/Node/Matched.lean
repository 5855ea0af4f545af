import ParseKit.Node.Children
import ParseKit.Proofs.Node.Construction
import ParseKit.Proofs.Run.Matched

namespace ParseKit

variable {σ : Type} {like : Likeness σ} {m : Matching} {v v' : Value}

open Matching (Agree Entries Failures Lists Parts Results Values)

namespace Matching

theorem Fields.append {fs fs' gs gs' : List (String × Value)} (h : m.Fields fs fs')
    (h' : m.Fields gs gs') : m.Fields (fs ++ gs) (fs' ++ gs') := List.rel_append h h'

theorem Fields.zip {vs vs' : List Value} (names : List String) (h : m.Lists vs vs') :
    m.Fields (names.zip vs) (names.zip vs') := by
  induction names generalizing vs vs' with
  | nil => exact .nil
  | cons name names ih =>
      cases h with
      | nil => exact .nil
      | cons hv hrest => exact .cons ⟨rfl, hv⟩ (ih hrest)

theorem Fields.lookup {fs fs' : List (String × Value)} (h : m.Fields fs fs') (name : String) :
    Option.Rel m.Values (fs.lookup name) (fs'.lookup name) := by
  induction h with
  | nil => exact .none
  | @cons f f' _ _ hf _ ih =>
      obtain ⟨key, v⟩ := f
      obtain ⟨key', v'⟩ := f'
      obtain ⟨rfl, hv⟩ := hf
      rw [List.lookup_cons, List.lookup_cons]
      dsimp only
      cases name == key with
      | true => exact .some hv
      | false => exact ih

theorem Results.refuse {α β : Type} {Q : α → β → Prop} (text : String) :
    m.Results Q (ParseKit.refuse text) (ParseKit.refuse text) := .error (.message _ _)

theorem makeLocated (c : ErrorClass) {vs vs' : List Value} (h : m.Lists vs vs') :
    m.Results m.Failures (ParseKit.makeLocated c vs []) (ParseKit.makeLocated c vs' []) := by
  have hbound := Fields.zip (m := m) locatedNames h
  have hdefaults : m.Fields locatedDefaults locatedDefaults :=
    .cons ⟨rfl, .text ""⟩ (.cons ⟨rfl, .text ""⟩ (.cons ⟨rfl, .int 0⟩ (.cons ⟨rfl, .int 0⟩
      (.cons ⟨rfl, .int 0⟩ .nil))))
  have hmessage := hbound.lookup "message"
  unfold ParseKit.makeLocated bindKeywords
  dsimp only
  rw [ok_bind, ok_bind, h.length_eq]
  split
  · exact .refuse _
  · generalize (locatedNames.zip vs).lookup "message" = x at hmessage
    generalize (locatedNames.zip vs').lookup "message" = x' at hmessage
    cases hmessage with
    | none => exact .refuse _
    | some hm =>
        refine .ok ⟨rfl, .cons hm .nil, ?_, .nil⟩
        refine List.forall₂_map_left_iff.mpr (List.forall₂_map_right_iff.mpr
          (List.forall₂_same.mpr fun name _ => ⟨rfl, ?_⟩))
        have hvalue := (hbound.append hdefaults).lookup name
        generalize (locatedNames.zip vs ++ locatedDefaults).lookup name = y at hvalue
        generalize (locatedNames.zip vs' ++ locatedDefaults).lookup name = y' at hvalue
        cases hvalue with
        | none => exact .null
        | some hv => exact hv

theorem construct (c : ErrorClass) {vs vs' : List Value} (h : m.Lists vs vs') :
    m.Results m.Failures (c.construct vs []) (c.construct vs' []) := by
  unfold ErrorClass.construct
  cases c.maker with
  | plain => exact .ok ⟨rfl, h, .nil, .nil⟩
  | located => exact makeLocated c h
  | detailed owner =>
      cases h with
      | nil => exact .refuse _
      | cons hv hrest =>
          cases hrest with
          | nil => exact .ok ⟨rfl, .cons hv .nil, .nil, .nil⟩
          | cons hv' hrest =>
              simp only [makeDetailed, List.lookup_nil, List.length_cons, hrest.length_eq]
              exact .refuse _

namespace Stores

variable {s s' : Store} {key key' u u' : Value} {t : String}

theorem same_eq (h : m.Stores s s') (hv : m.Values v v') (hkey : m.Values key key')
    (htext : s.text? key = some t) : s'.same v' key' = s.same v key := by
  have htext' : s'.text? key' = some t := (h.text?_eq hkey).trans htext
  rw [Store.same_of_text_right htext', Store.same_of_text_right htext, hv.beq_eq h.oneToOne hkey,
    Store.sameText, Store.sameText, h.text?_eq hv, h.text?_eq hkey, h.tokenType?_eq hv,
    h.tokenType?_eq hkey]

theorem insert {es es' : List (Value × Value)} (h : m.Stores s s') (hes : m.Entries es es')
    (hkey : m.Values key key') (htext : s.text? key = some t) (hu : m.Values u u') :
    m.Entries (s.insert es key u) (s'.insert es' key' u') := by
  induction hes with
  | nil => exact .cons ⟨hkey, hu⟩ .nil
  | cons he hrest ih =>
      rw [Store.insert, Store.insert, h.same_eq he.1 hkey htext]
      split
      · exact .cons ⟨he.1, hu⟩ hrest
      · exact .cons he ih

theorem dictionary {es es' : List (Value × Value)} (h : m.Stores s s') (hes : m.Entries es es')
    (layout : Layout) (hkey : m.Values key key') (htext : s.text? key = some t)
    (hu : m.Values u u') :
    m.Objects (.dict (Dictionary.insert ⟨es, layout⟩ s key u))
      (.dict (Dictionary.insert ⟨es', layout⟩ s' key' u')) := by
  have hinsert := h.insert hes hkey htext hu
  have hplain : Dictionary.isPlainKey key' = Dictionary.isPlainKey key := by cases hkey <;> rfl
  unfold Dictionary.insert
  dsimp only
  rw [hplain, hinsert.length_eq, hes.length_eq]
  exact .dict _ hinsert

end Stores

end Matching

namespace Node

private theorem toInt?_of_text? {s : Store} {key : Value} {t : String} (h : s.text? key = some t) :
    key.toInt? = none := by
  cases key with
  | text => rfl
  | ref => rfl
  | _ => cases h

section

variable (hv : m.Values v v')
include hv

theorem requireType_agree : m.Agree like (requireType v : Run σ Unit) (requireType v')
    fun _ => Eq := by
  unfold requireType
  refine Agree.store.bind fun _ s s' h hs => ?_
  rw [hs.isText_eq (hv.mono h)]
  split
  · exact .pure rfl
  · exact .refusal _ _ (hv.mono h)

theorem parts_agree (operation : String) :
    m.Agree like (parts v operation : Run σ NodeParts) (parts v' operation) Parts := by
  unfold parts
  refine Agree.store.bind fun _ s s' h hs => ?_
  have hnode := hs.node? (hv.mono h)
  generalize s.node? v = x at hnode
  generalize s'.node? v' = x' at hnode
  cases hnode with
  | some hp => exact .pure hp
  | none =>
      exact Agree.store.bind fun _ s s' h' hs => .fail (hs.missingMethod ((hv.mono h).mono h') _)

theorem orZero_agree : m.Agree like (orZero v : Run σ Value) (orZero v') Values := by
  unfold orZero
  refine Agree.store.bind fun _ s s' h hs => ?_
  rw [hs.truthy_eq (hv.mono h)]
  split
  · exact .pure (hv.mono h)
  · exact .pure (.int 0)

theorem bare_agree : m.Agree like (bare v : Run σ Value) (bare v') Values := by
  unfold bare
  refine (requireType_agree hv).bind fun _ _ _ h₁ _ => ?_
  refine (Agree.alloc (.dict _ .nil)).bind fun _ a a' h₂ ha => ?_
  refine (Agree.alloc (.list .nil)).bind fun _ c c' h₃ hc => ?_
  refine (Agree.alloc (.position (.int 0) (.int 0) (.int 0))).bind fun _ p p' h₄ hp => ?_
  exact .alloc (.node ⟨hv.mono (((h₁.trans h₂).trans h₃).trans h₄), ha.mono (h₃.trans h₄),
    hc.mono h₄, hp⟩)

theorem callPart_agree {u u' : Value} (name : String) (hu : m.Values u u') :
    m.Agree like (callPart v name u : Run σ Value) (callPart v' name u') Values := by
  unfold callPart
  refine Agree.store.bind fun m₁ s s' h hs => ?_
  have hpart := hs.part? (hv.mono h) name
  generalize s.part? v name = x at hpart
  generalize s'.part? v' name = x' at hpart
  have hmissing : m₁.Agree like (Run.fail (s.missingMethod v name) : Run σ Value)
      (Run.fail (s'.missingMethod v' name)) Values := .fail (hs.missingMethod (hv.mono h) name)
  cases hpart with
  | none => exact hmissing
  | some hvalue =>
      cases hvalue with
      | ref => exact hmissing
      | atom noReference =>
          rename_i w
          cases w with
          | ref id => exact absurd rfl (noReference id)
          | errorClass c =>
              have hmade := Matching.construct c (.cons (hu.mono h) .nil)
              exact (Agree.ofExcept (Q := Failures) hmade).bind fun _ _ _ _ he =>
                .alloc (.failure he)
          | _ => exact hmissing

theorem setPosition_agree {l l' c c' o o' : Value} (hl : m.Values l l') (hc : m.Values c c')
    (ho : m.Values o o') :
    m.Agree like (setPosition v l c o : Run σ Value) (setPosition v' l' c' o') Values := by
  unfold setPosition
  refine (parts_agree hv _).bind fun _ p p' h₁ hp => ?_
  refine (orZero_agree (hl.mono h₁)).bind fun _ l l' h₂ hl => ?_
  refine (orZero_agree (hc.mono (h₁.trans h₂))).bind fun _ c c' h₃ hc => ?_
  refine (orZero_agree (ho.mono ((h₁.trans h₂).trans h₃))).bind fun _ o o' h₄ ho => ?_
  refine (Agree.alloc (.position (hl.mono (h₃.trans h₄)) (hc.mono h₄) ho)).bind
    fun _ q q' h₅ hq => ?_
  have h := ((h₂.trans h₃).trans h₄).trans h₅
  have hplaced : Parts _ { p with position := q } { p' with position := q' } :=
    ⟨hp.type.mono h, hp.attributes.mono h, hp.children.mono h, hq⟩
  refine (Agree.put (hv.mono (h₁.trans h)) (.node hplaced)).bind fun _ _ _ h₆ _ => ?_
  exact .pure (hv.mono ((h₁.trans h).trans h₆))

theorem requireWellFormed_agree : m.Agree like (requireWellFormed v : Run σ Unit)
    (requireWellFormed v') fun _ => Eq := by
  unfold requireWellFormed
  refine Agree.store.bind fun _ s s' h hs => ?_
  have hv := hv.mono h
  rw [hs.isWellFormedNode_eq hv, hs.className_eq hv]
  split
  · exact .pure rfl
  · refine .refusal _ _ ?_
    have htype := hs.part? hv "type"
    generalize s.part? v "type" = x at htype
    generalize s'.part? v' "type" = x' at htype
    cases htype with
    | none => exact hv
    | some hshown => exact hshown

end

theorem requireAll_agree {vs vs' : List Value} (h : m.Lists vs vs') :
    m.Agree like (requireAll vs : Run σ Unit) (requireAll vs') fun _ => Eq := by
  induction vs generalizing m vs' with
  | nil =>
      cases h
      exact .pure rfl
  | cons v rest ih =>
      cases h with
      | cons hv hrest =>
          exact (requireWellFormed_agree hv).bind fun _ _ _ hm _ => ih (Lists.mono hm hrest)

theorem contribution_lists {s s' : Store} (hs : m.Stores s s') (hv : m.Values v v') :
    m.Lists (contribution s v) (contribution s' v') := by
  have hitems := hs.items? hv
  have hother : m.Lists ((s.items? v).getD [v]) ((s'.items? v').getD [v']) := by
    generalize s.items? v = x at hitems
    generalize s'.items? v' = x' at hitems
    cases hitems with
    | none => exact .cons hv .nil
    | some hlist => exact hlist
  cases hv with
  | ref => exact hother
  | atom =>
      cases v with
      | null => exact .nil
      | _ => exact hother

theorem flatten_agree {vs vs' : List Value} (h : m.Lists vs vs') :
    m.Agree like (flatten vs : Run σ (List Value)) (flatten vs') Lists := by
  unfold flatten
  refine Agree.store.bind fun _ s s' h₁ hs => ?_
  have hnodes := List.rel_flatMap (h.mono h₁) fun _ _ hv => contribution_lists hs hv
  exact (requireAll_agree hnodes).bind fun _ _ _ h₂ _ => .pure (Lists.mono h₂ hnodes)

theorem addChildren_agree {vs vs' : List Value} (hv : m.Values v v') (h : m.Lists vs vs') :
    m.Agree like (addChildren v vs : Run σ Value) (addChildren v' vs') Values := by
  unfold addChildren
  refine (parts_agree hv _).bind fun _ p p' h₁ hp => ?_
  have hempty : vs'.isEmpty = vs.isEmpty := by cases h <;> rfl
  rw [hempty]
  split
  · dsimp only
    exact (Agree.raise (Q := fun _ _ _ => False) _ _).bind fun _ _ _ _ hfalse => hfalse.elim
  dsimp only
  refine Agree.store.bind fun _ s s' h₂ hs => ?_
  have hlist := hs.list? (hp.children.mono h₂)
  have h' := (h.mono h₁).mono h₂
  generalize s.list? p.children = x at hlist
  generalize s'.list? p'.children = x' at hlist
  cases hlist with
  | none =>
      refine (Agree.ofExcept (hs.requirePart (hp.children.mono h₂) "extend")).bind
        fun _ _ _ h₃ _ => ?_
      refine (flatten_agree (Lists.mono h₃ h')).bind fun _ nodes nodes' h₄ hnodes => ?_
      refine (Agree.alloc (.list hnodes)).bind fun _ a a' h₅ ha => ?_
      have hlater := ((h₂.trans h₃).trans h₄).trans h₅
      refine (callPart_agree (hp.children.mono hlater) "extend" ha).bind fun _ _ _ h₆ _ => ?_
      exact .pure (hv.mono ((h₁.trans hlater).trans h₆))
  | some hitems =>
      refine (flatten_agree h').bind fun _ nodes nodes' h₃ hnodes => ?_
      have hall := List.rel_append (Lists.mono h₃ hitems) hnodes
      refine (Agree.put (hp.children.mono (h₂.trans h₃)) (.list hall)).bind fun _ _ _ h₄ _ => ?_
      exact .pure (hv.mono (((h₁.trans h₂).trans h₃).trans h₄))

theorem refuseChange_agree {key key' : Value} (hv : m.Values v v') (hkey : key.toInt? = none)
    (hkey' : key'.toInt? = none) (forPlace forKey : String) :
    m.Agree like (refuseChange v key forPlace forKey : Run σ Unit)
      (refuseChange v' key' forPlace forKey) fun _ => Eq := by
  unfold refuseChange
  refine Agree.store.bind fun _ s s' h hs => ?_
  rw [hkey, hkey', ite_self, ite_self, hs.kindName_eq (hv.mono h)]
  exact .raise _ _

-- Puts a value under a text.
theorem assignItem_outcomes {key key' u u' : Value} {t : String} {w w' : World σ}
    (hw : m.Worlds like w w') (hv : m.Values v v') (hkey : m.Values key key')
    (htext : w.store.text? key = some t) (hu : m.Values u u') :
    m.Outcomes like (fun _ => Eq) ((assignItem v key u : Run σ Unit) w)
      ((assignItem v' key' u' : Run σ Unit) w') := by
  have htext' : w'.store.text? key' = some t := (hw.stores.text?_eq hkey).trans htext
  have hint : key.toInt? = none := toInt?_of_text? htext
  have hint' : key'.toInt? = none := toInt?_of_text? htext'
  have hget := hw.stores.get? hv
  unfold assignItem
  rw [Run.bind_apply, Run.bind_apply, Run.store_apply, Run.store_apply]
  dsimp only
  generalize w.store.get? v = x at hget
  generalize w'.store.get? v' = x' at hget
  have hrefused := refuseChange_agree hv hint hint' "does not support item assignment"
    "does not support item assignment" w w' hw
  cases hget with
  | none => exact hrefused
  | some ho =>
      cases ho with
      | list items =>
          dsimp only
          unfold changeItemAt
          rw [hint, hint']
          refine (Agree.store.bind fun _ s s' h hs => ?_) w w' hw
          rw [hs.kindName_eq (hkey.mono h)]
          exact .raise _ _
      | dict layout entries =>
          dsimp only
          rw [Run.bind_apply, Run.bind_apply, Run.inspect_ok (requireKey_of_text? htext),
            Run.inspect_ok (requireKey_of_text? htext')]
          exact Agree.put hv (hw.stores.dictionary entries layout hkey htext hu) w w' hw
      | _ => exact hrefused

theorem setAttribute_agree {key key' u u' : Value} (hv : m.Values v v')
    (hkey : m.Values key key') (hu : m.Values u u') :
    m.Agree like (setAttribute v key u : Run σ Value) (setAttribute v' key' u') Values := by
  unfold setAttribute
  refine (parts_agree hv _).bind fun m₁ p p' h₁ hp => ?_
  intro w w' hw
  have hkey₁ := hkey.mono h₁
  by_cases htext : w.store.isText key = true
  · obtain ⟨t, ht⟩ := Option.isSome_iff_exists.mp htext
    have ht' := (hw.stores.text?_eq hkey₁).trans ht
    rw [Run.bind_apply, Run.bind_apply, requireName_gives ht w rfl, requireName_gives ht' w' rfl]
    exact (assignItem_outcomes hw hp.attributes hkey₁ ht (hu.mono h₁)).bind
      fun _ _ _ _ _ h₂ hw _ => Agree.pure ((hv.mono h₁).mono h₂) _ _ hw
  · have hrefused : m₁.Outcomes like (fun _ _ _ => False) ((requireName key : Run σ Unit) w)
        ((requireName key' : Run σ Unit) w') := by
      have htext' : ¬w'.store.isText key' = true := by rwa [hw.stores.isText_eq hkey₁]
      rw [requireName, requireName, Run.bind_apply, Run.bind_apply, Run.store_apply,
        Run.store_apply]
      dsimp only
      rw [if_neg htext, if_neg htext']
      exact Agree.refusal _ _ hkey₁ w w' hw
    exact hrefused.bind fun _ _ _ _ _ _ _ hfalse => hfalse.elim

theorem setEach_agree {es es' : List (Value × Value)} (hv : m.Values v v')
    (h : m.Entries es es') :
    m.Agree like (setEach v es : Run σ Unit) (setEach v' es') fun _ => Eq := by
  induction es generalizing m es' with
  | nil =>
      cases h
      exact .pure rfl
  | cons e rest ih =>
      cases h with
      | cons he hrest =>
          exact (setAttribute_agree hv he.1 he.2).bind fun _ _ _ hm _ =>
            ih (hv.mono hm) (Entries.mono hm hrest)

theorem setAttributes_agree {u u' : Value} (hv : m.Values v v') (hu : m.Values u u') :
    m.Agree like (setAttributes v u : Run σ Value) (setAttributes v' u') Values := by
  unfold setAttributes
  refine (parts_agree hv _).bind fun _ _ _ h₁ _ => ?_
  refine Agree.store.bind fun _ s s' h₂ hs => ?_
  have hentries := hs.entries? (hu.mono (h₁.trans h₂))
  generalize s.entries? u = x at hentries
  generalize s'.entries? u' = x' at hentries
  cases hentries with
  | none =>
      dsimp only
      refine (Agree.inspect (Q := fun _ => Eq) fun _ _ hs =>
        hs.inspect (hu.mono (h₁.trans h₂))).bind fun _ shown _ _ hshown => ?_
      cases hshown
      exact (Agree.raise (Q := fun _ _ _ => False) _ _).bind fun _ _ _ _ hfalse => hfalse.elim
  | some hes =>
      refine (setEach_agree (hv.mono (h₁.trans h₂)) hes).bind fun _ _ _ h₃ _ => ?_
      exact .pure (hv.mono ((h₁.trans h₂).trans h₃))

theorem create_agree {u u' : Value} (hv : m.Values v v') (hu : m.Values u u') :
    m.Agree like (create v u .null : Run σ Value) (create v' u' .null) Values := by
  unfold create
  refine (bare_agree hv).bind fun _ node node' h₁ hnode => ?_
  by_cases hnull : u = .null
  · have hnull' := hu.eq_null_iff.mp hnull
    simp only [hnull, hnull', ne_eq, not_true_eq_false, if_false]
    exact .pure hnode
  · have hnull' := mt hu.eq_null_iff.mpr hnull
    simp only [hnull, hnull', ne_eq, not_true_eq_false, not_false_eq_true, if_false, if_true]
    refine (setAttributes_agree hnode (hu.mono h₁)).bind fun _ _ _ h₂ _ => ?_
    exact .pure (hnode.mono h₂)

end Node

end ParseKit
