import ParseKit.Proofs.Value.Matched

namespace ParseKit.Matching

variable {m : Matching} {s s' : Store} {v v' : Value}

namespace Results

variable {x y : Except Failure String}

theorem text (f : String → String) (h : m.Results Eq x y) :
    m.Results Eq (do return f (← x)) (do return f (← y)) :=
  h.bind fun _ _ hab => .ok (congrArg f hab)

theorem commaList {ι κ : Type} {P : ι → κ → Prop} {is : List ι} {ks : List κ}
    {f : ι → Except Failure String} {g : κ → Except Failure String} (h : List.Forall₂ P is ks)
    (hfg : ∀ i k, P i k → m.Results Eq (f i) (g k)) :
    m.Results Eq (ParseKit.commaList <$> is.mapM f) (ParseKit.commaList <$> ks.mapM g) :=
  (Results.mapM h hfg).map fun _ _ htexts => by
    rw [List.forall₂_eq_eq_eq] at htexts
    rw [htexts]

end Results

namespace Stores

theorem textLevels_le (h : s.size ≤ s'.size) : s.textLevels ≤ s'.textLevels := by
  unfold Store.textLevels
  have hproduct : (s.size + 1) * (s.size + 2) ≤ (s'.size + 1) * (s'.size + 2) :=
    Nat.mul_le_mul (by omega) (by omega)
  omega

section

variable {path path' : List Value} (h : m.Stores s s') (hv : m.Values v v')
  (hpath : m.Lists path path')
include h hv hpath

theorem marking (mark : String) {text text' : List Value → Except Failure String}
    (htext : m.Results Eq (text (v :: path)) (text' (v' :: path'))) :
    m.Results Eq (Store.marking path v mark text) (Store.marking path' v' mark text') := by
  unfold Store.marking
  rw [hpath.contains_eq h.oneToOne hv]
  split
  · exact .ok rfl
  · exact htext

variable {inner inner' : List Value → TextStyle → Value → Except Failure String}
  (hinner : ∀ {u u' path path'} style, m.Values u u' → m.Lists path path' →
    m.Results Eq (inner path style u) (inner' path' style u'))
include hinner

omit h hv in
theorem itemsText {items items' : List Value} (hitems : m.Lists items items') :
    m.Results Eq (Store.itemsText inner path items) (Store.itemsText inner' path' items') :=
  .commaList hitems fun _ _ hu => hinner .inspect hu hpath

theorem listText (mark : String) (say : String → String) {items items' : List Value}
    (hitems : m.Lists items items') :
    m.Results Eq
      (Store.marking path v mark fun path => do return say (← Store.itemsText inner path items))
      (Store.marking path' v' mark fun path =>
        do return say (← Store.itemsText inner' path items')) :=
  marking h hv hpath mark ((itemsText (.cons hv hpath) hinner hitems).text say)

theorem tupleText {items items' : List Value} (hitems : m.Lists items items') :
    m.Results Eq (Store.tupleText inner path v items) (Store.tupleText inner' path' v' items') := by
  have hinside : m.Lists (v :: path) (v' :: path') := .cons hv hpath
  have hall := (itemsText hinside hinner hitems).text fun t => "(" ++ t ++ ")"
  refine marking h hv hpath _ ?_
  cases hitems with
  | nil => exact hall
  | cons hu hrest =>
      cases hrest with
      | nil => exact (hinner .inspect hu hinside).text fun t => "(" ++ t ++ ",)"
      | cons => exact hall

theorem entriesText {es es' : List (Value × Value)} (hes : m.Entries es es') :
    m.Results Eq (Store.entriesText inner path v es) (Store.entriesText inner' path' v' es') := by
  have hinside : m.Lists (v :: path) (v' :: path') := .cons hv hpath
  refine marking h hv hpath _
    ((Results.mapM (Q := Eq) hes fun e e' he => ?_).bind fun ts ts' hts => ?_)
  · refine (hinner .inspect he.1 hinside).bind fun k k' hk => ?_
    cases hk
    exact (hinner .inspect he.2 hinside).text _
  · rw [List.forall₂_eq_eq_eq] at hts
    rw [hts]
    exact .ok rfl

theorem fieldsText (mark name : String) {fs fs' : List (String × Value)} (hfs : m.Fields fs fs') :
    m.Results Eq (Store.fieldsText inner path v mark name fs)
      (Store.fieldsText inner' path' v' mark name fs') := by
  refine marking h hv hpath _
    ((Results.mapM (Q := Eq) hfs fun f f' hf => ?_).bind fun ts ts' hts => ?_)
  · rw [hf.1]
    exact (hinner .inspect hf.2 (.cons hv hpath)).text _
  · rw [List.forall₂_eq_eq_eq] at hts
    rw [hts]
    exact .ok rfl

omit hv in
theorem nodeText {p p' : NodeParts} (hparts : m.Parts p p') :
    m.Results Eq (s.nodeText inner path p) (s'.nodeText inner' path' p') := by
  refine (hinner .inspect hparts.type hpath).bind fun type type' htype => ?_
  refine (h.length hparts.children).bind fun count count' hcount => ?_
  refine (h.requirePart hparts.position "line").bind fun l l' hl => ?_
  refine (hinner .display hl hpath).bind fun line line' hline => ?_
  refine (h.requirePart hparts.position "column").bind fun c c' hc => ?_
  cases htype
  cases hcount
  cases hline
  exact (hinner .display hc hpath).text _

theorem treeText {data data' : Value} {children children' : List Value}
    (hdata : m.Values data data') (hchildren : m.Lists children children') :
    m.Results Eq (Store.treeText inner path v data children)
      (Store.treeText inner' path' v' data' children') := by
  refine (hinner .inspect hdata hpath).bind fun name name' hname => ?_
  cases hname
  exact (listText h hv hpath hinner _ (fun t => "[" ++ t ++ "]") hchildren).text _

theorem errorText {e e' : Failure} (he : m.Failures e e') (style : TextStyle) :
    m.Results Eq (Store.errorText inner path style v e)
      (Store.errorText inner' path' style v' e') := by
  obtain ⟨errorClass, args, fields, details⟩ := e
  obtain ⟨errorClass', args', fields', details'⟩ := e'
  obtain ⟨rfl, hargs, -, -⟩ := he
  have htuple := tupleText h hv hpath hinner hargs
  cases style with
  | display =>
      cases hargs with
      | nil => exact .ok rfl
      | cons hu hrest =>
          cases hrest with
          | nil => exact hinner _ hu hpath
          | cons => exact htuple
  | inspect =>
      cases hargs with
      | nil => exact htuple.text _
      | cons hu hrest =>
          cases hrest with
          | nil => exact (hinner .inspect hu hpath).text _
          | cons => exact htuple.text _

-- By what the matched objects are.
theorem objectText {o o' : Object} (ho : m.Objects o o') (style : TextStyle) :
    m.Results Eq (s.objectText inner path style v o) (s'.objectText inner' path' style v' o') := by
  cases ho with
  | lone atom => exact hinner style atom hpath
  | list items => exact listText h hv hpath hinner _ (fun t => "[" ++ t ++ "]") items
  | tuple items => exact tupleText h hv hpath hinner items
  | dict layout entries => exact entriesText h hv hpath hinner entries
  | mapping entries =>
      have hentries := entriesText h hv hpath hinner entries
      cases style with
      | display => exact hentries
      | inspect => exact hentries.text fun t => "mappingproxy(" ++ t ++ ")"
  | set items =>
      have hlist := listText h hv hpath hinner "set(...)" (fun t => "\x7b" ++ t ++ "\x7d") items
      cases items with
      | nil => exact .ok rfl
      | cons => exact hlist
  | frozenset items =>
      have hlist := listText h hv hpath hinner "frozenset(...)"
        (fun t => "frozenset(\x7b" ++ t ++ "\x7d)") items
      cases items with
      | nil => exact .ok rfl
      | cons => exact hlist
  | record fields => exact fieldsText h hv hpath hinner _ _ fields
  | node parts => exact nodeText h hpath hinner parts
  | position line column offset =>
      exact fieldsText h hv hpath hinner _ _
        (.cons ⟨rfl, line⟩ (.cons ⟨rfl, column⟩ (.cons ⟨rfl, offset⟩ .nil)))
  | span start stop =>
      exact fieldsText h hv hpath hinner _ _ (.cons ⟨rfl, start⟩ (.cons ⟨rfl, stop⟩ .nil))
  | tree data children place => exact treeText h hv hpath hinner data children
  | failure he => exact errorText h hv hpath hinner he style
  | place | builder | helpers | function =>
      unfold Store.objectText
      rw [h.className_eq hv]
      exact .ok rfl
  | notANumber | bytes | pattern | foreign | token => exact .ok rfl

end

-- By induction on the depth.
theorem textAt (h : m.Stores s s') (hv : m.Values v v') {depth depth' : Nat}
    (hdepth : depth ≤ depth') {path path' : List Value} (hpath : m.Lists path path')
    (style : TextStyle) :
    m.Results Eq (s.textAt depth path style v) (s'.textAt depth' path' style v') := by
  induction depth generalizing depth' path path' style v v' with
  | zero => exact .tooDeep _
  | succ depth ih =>
    cases depth' with
    | zero => cases hdepth
    | succ depth' =>
      have hinner : ∀ {u u' path path'} style, m.Values u u' → m.Lists path path' →
          m.Results Eq (s.textAt depth path style u) (s'.textAt depth' path' style u') :=
        fun style hu hpath => ih hu (Nat.le_of_succ_le_succ hdepth) hpath style
      cases hv with
      | atom noReference =>
          cases v with
          | ref id => exact absurd rfl (noReference id)
          | _ => exact .ok rfl
      | ref matched =>
          obtain ⟨o, o', ho, ho', hobjects⟩ := h.objects _ _ matched
          rw [Store.textAt_object ho, Store.textAt_object ho']
          exact objectText h (.ref matched) hpath hinner hobjects style

theorem inspect (h : m.Stores s s') (hv : m.Values v v') :
    m.Results Eq (s.inspect v) (s'.inspect v') :=
  h.textAt hv (Nat.succ_le_succ (textLevels_le h.size_le)) .nil .inspect

end Stores

end ParseKit.Matching
