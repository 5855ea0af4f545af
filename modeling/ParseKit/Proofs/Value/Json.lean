import Mathlib.Logic.Relation
import ParseKit.Proofs.Run.Except
import ParseKit.Proofs.Store.Basic
import ParseKit.Value.Json

namespace ParseKit.Store

open Relation (ReflTransGen TransGen)

-- The values that stand directly in the literal of a value.
def inner (s : Store) (v : Value) : List Value :=
  match s.get? v with
  | some (.list items) => items
  | some (.tuple items) => items
  | some (.dict d) => d.entries.map (·.2)
  | _ => []

-- A literal comes to the value itself, and to all that stands in what it comes to.
def Reached (s : Store) : Value → Value → Prop := ReflTransGen fun v u => u ∈ s.inner v

-- Something stands inside a value, as deep as may be.
def Encloses (s : Store) : Value → Value → Prop := TransGen fun v u => u ∈ s.inner v

-- The keys that have a name: texts, null, truth values and numbers.
def isNamed (s : Store) (key : Value) : Bool :=
  s.isText key ||
    match key with
    | .null | .bool _ | .int _ | .float _ => true
    | key => s.get? key == some .notANumber

-- The values for which JSON has no form, so that they are written as their texts.
def isFormless (s : Store) (v : Value) : Bool :=
  !s.isText v &&
    match v with
    | .null | .bool _ | .int _ | .float _ => false
    | v =>
      match s.get? v with
      | some .notANumber | some (.list _) | some (.tuple _) | some (.dict _) => false
      | _ => true

-- A value without a literal: it comes to a dictionary with a key that has no name, or to something
-- that stands inside itself.
inductive Unliteral (s : Store) (v : Value) : Prop where
  | key {u : Value} {d : Dictionary} {e : Value × Value} (reached : s.Reached v u)
      (object : s.get? u = some (.dict d)) (member : e ∈ d.entries)
      (unnamed : s.isNamed e.1 = false) : Unliteral s v
  | circular {u : Value} (reached : s.Reached v u) (itself : s.Encloses u u) : Unliteral s v

variable {s : Store} {u v : Value} {path : List Value} {depth : Nat} {t : String}

theorem jsonKey_of_isNamed {key : Value} (h : s.isNamed key = true) :
    ∃ name, s.jsonKey key = .ok name := by
  unfold isNamed isText at h
  unfold jsonKey
  cases htext : s.text? key with
  | some t => exact ⟨t, rfl⟩
  | none =>
      cases key with
      | ref id => simp_all
      | _ => simp_all [get?]

theorem jsonKey_of_not_isNamed {key : Value} (h : s.isNamed key = false) :
    s.jsonKey key = .error .unsupportedKey := by
  unfold isNamed isText at h
  unfold jsonKey
  cases htext : s.text? key with
  | some t => simp [htext] at h
  | none => cases key <;> simp_all [get?]

theorem jsonAt_text (ht : s.text? v = some t) (depth : Nat) (path : List Value) :
    s.jsonAt (depth + 1) path v = .ok (Text.jsonString t) := by
  simp [jsonAt, ht]

-- How the literal of a value is made, by the kind of the value.
inductive Form (s : Store) (v : Value) : Prop where
  | atom (inner : s.inner v = []) (isFormless : s.isFormless v = false)
      (object : ∀ d, s.get? v ≠ some (.dict d))
      (json : ∃ t, ∀ depth path, s.jsonAt (depth + 1) path v = .ok t)
  | formless (inner : s.inner v = []) (isFormless : s.isFormless v = true)
      (object : ∀ d, s.get? v ≠ some (.dict d))
      (json : ∀ depth path, s.jsonAt (depth + 1) path v =
        match s.display v with
        | .ok t => .ok (Text.jsonString t)
        | .error e => .error (.raised e))
  | sequence {items : List Value} (inner : s.inner v = items) (isFormless : s.isFormless v = false)
      (object : ∀ d, s.get? v ≠ some (.dict d))
      (json : ∀ depth path, s.jsonAt (depth + 1) path v =
        if v ∈ path then .error .circular
        else do return "[" ++ ",".intercalate (← items.mapM (s.jsonAt depth (v :: path))) ++ "]")
  | dict {d : Dictionary} (inner : s.inner v = d.entries.map (·.2))
      (isFormless : s.isFormless v = false) (object : s.get? v = some (.dict d))
      (json : ∀ depth path, s.jsonAt (depth + 1) path v =
        if v ∈ path then .error .circular
        else do
          let parts ← d.entries.mapM fun e => do
            let key ← s.jsonKey e.1
            return Text.jsonString key ++ ":" ++ (← s.jsonAt depth (v :: path) e.2)
          return "\x7b" ++ ",".intercalate parts ++ "\x7d")

theorem form (s : Store) (v : Value) : Form s v := by
  cases htext : s.text? v with
  | some t =>
      have hobject : ∀ o, s.get? v = some o → o.isToken = true := by
        intro o ho
        by_contra hkind
        cases (text?_of_get? ho (by simpa using hkind)).symm.trans htext
      refine .atom ?_ (by simp [isFormless, isText, htext]) (fun d hd => by cases hobject _ hd)
        ⟨_, jsonAt_text htext⟩
      unfold inner
      split
      · next ho => cases hobject _ ho
      · next ho => cases hobject _ ho
      · next ho => cases hobject _ ho
      · rfl
  | none =>
      cases v with
      | text t => cases htext
      | null | bool b | int i | float bits =>
          exact .atom rfl rfl (fun _ h => by cases h) ⟨_, fun _ _ => rfl⟩
      | errorClass c => exact .formless rfl rfl (fun _ h => by cases h) fun _ _ => rfl
      | ref id =>
          cases hget : s.get? (.ref id) with
          | none =>
              exact .formless (by simp [inner, hget]) (by simp [isFormless, isText, htext, hget])
                (by simp [hget]) fun depth path => by
                  cases hshown : s.display (.ref id) <;> simp [jsonAt, htext, hget, hshown]
          | some o =>
              cases o with
              | notANumber =>
                  exact .atom (by simp [inner, hget]) (by simp [isFormless, hget]) (by simp [hget])
                    ⟨notANumberLiteral, fun depth path => by simp [jsonAt, htext, hget]⟩
              | list items | tuple items =>
                  have hinner : s.inner (.ref id) = items := by simp [inner, hget]
                  refine .sequence hinner (by simp [isFormless, hget]) (by simp [hget])
                    fun depth path => ?_
                  simp [jsonAt, htext, hget, bind, Except.bind, throw, throwThe, MonadExcept.throw]
                  split <;> rfl
              | dict d =>
                  refine .dict (by simp [inner, hget]) (by simp [isFormless, hget]) hget
                    fun depth path => ?_
                  simp [jsonAt, htext, hget, bind, Except.bind]
                  split <;> rfl
              | _ =>
                  exact .formless (by simp [inner, hget]) (by simp [isFormless, isText, htext, hget])
                    (by simp [hget]) fun depth path => by
                      cases hshown : s.display (.ref id) <;> simp [jsonAt, htext, hget, hshown]

theorem get?_ne_none_of_mem_inner (h : u ∈ s.inner v) : s.get? v ≠ none := by
  intro hget
  simp [inner, hget] at h

-- What stands in a value with a literal has a literal.
theorem Unliteral.of_inner (hu : u ∈ s.inner v) (h : s.Unliteral u) : s.Unliteral v := by
  cases h with
  | key reached object member unnamed => exact .key (.head hu reached) object member unnamed
  | circular reached itself => exact .circular (.head hu reached) itself

-- By induction on the depth. The objects around the value are distinct, since otherwise one of them
-- would enclose itself, so that there is depth enough.
theorem exists_jsonAt (hliteral : ¬s.Unliteral v)
    (hdisplay : ∀ u, s.Reached v u → s.isFormless u = true → ∃ t, s.display u = .ok t)
    (hdistinct : path.Nodup) (hthere : ∀ u ∈ path, s.get? u ≠ none)
    (haround : ∀ u ∈ path, s.Encloses u v) (hdepth : s.size + 2 ≤ depth + path.length) :
    ∃ t, s.jsonAt depth path v = .ok t := by
  induction depth generalizing v path with
  | zero =>
      have hlength := length_le_size hdistinct hthere
      omega
  | succ depth ih =>
      have hnew : v ∉ path := fun hv => hliteral (.circular .refl (haround v hv))
      have hinner : ∀ u ∈ s.inner v, ∃ t, s.jsonAt depth (v :: path) u = .ok t := by
        intro u hu
        refine ih (fun h => hliteral (h.of_inner hu)) (fun x hx => hdisplay x (.head hu hx))
          (List.nodup_cons.mpr ⟨hnew, hdistinct⟩) ?_ ?_ ?_
        · exact List.forall_mem_cons.mpr ⟨get?_ne_none_of_mem_inner hu, hthere⟩
        · exact List.forall_mem_cons.mpr ⟨.single hu, fun x hx => .tail (haround x hx) hu⟩
        · rw [List.length_cons]
          omega
      cases s.form v with
      | atom _ _ _ json =>
          obtain ⟨t, ht⟩ := json
          exact ⟨t, ht depth path⟩
      | formless _ isFormless _ json =>
          obtain ⟨t, ht⟩ := hdisplay v .refl isFormless
          exact ⟨_, by rw [json, ht]⟩
      | sequence inner _ _ json =>
          obtain ⟨texts, htexts⟩ := exists_mapM_eq_ok (inner ▸ hinner)
          exact ⟨_, by rw [json, if_neg hnew, htexts]; rfl⟩
      | @dict d inner _ object json =>
          have hentries : ∀ e ∈ d.entries, ∃ t, (do
              let key ← s.jsonKey e.1
              return Text.jsonString key ++ ":" ++ (← s.jsonAt depth (v :: path) e.2)) =
                Except.ok t := by
            intro e he
            have hnamed : s.isNamed e.1 = true := by
              by_contra hunnamed
              exact hliteral (.key .refl object he (by simpa using hunnamed))
            obtain ⟨name, hname⟩ := jsonKey_of_isNamed hnamed
            obtain ⟨t, ht⟩ := hinner e.2 (by rw [inner]; exact List.mem_map_of_mem he)
            exact ⟨_, by rw [hname, ht]; rfl⟩
          obtain ⟨texts, htexts⟩ := exists_mapM_eq_ok hentries
          exact ⟨_, by rw [json, if_neg hnew, htexts]; rfl⟩

-- A literal is made of the literals of what stands in the value.
theorem jsonAt_inner (h : s.jsonAt depth path v = .ok t) (hu : u ∈ s.inner v) :
    v ∉ path ∧ ∃ depth' t', s.jsonAt depth' (v :: path) u = .ok t' := by
  cases depth with
  | zero => cases h
  | succ depth =>
      cases s.form v with
      | atom inner | formless inner => simp [inner] at hu
      | sequence inner _ _ json =>
          by_cases hv : v ∈ path
          · simp [json, hv] at h
          · rw [json, if_neg hv, bind_eq_ok_iff] at h
            obtain ⟨texts, htexts, -⟩ := h
            exact ⟨hv, depth, exists_ok_of_mapM htexts u (inner ▸ hu)⟩
      | dict inner _ object json =>
          by_cases hv : v ∈ path
          · simp [json, hv] at h
          · rw [json, if_neg hv, bind_eq_ok_iff] at h
            obtain ⟨texts, htexts, -⟩ := h
            obtain ⟨e, he, rfl⟩ := List.mem_map.mp (inner ▸ hu)
            obtain ⟨text, htext⟩ := exists_ok_of_mapM htexts e he
            obtain ⟨_, -, hvalue⟩ := bind_eq_ok_iff.mp htext
            obtain ⟨t', ht', -⟩ := bind_eq_ok_iff.mp hvalue
            exact ⟨hv, depth, t', ht'⟩

-- What a literal comes to has a literal that stands in it.
theorem jsonAt_reached (h : s.jsonAt depth path v = .ok t) (hu : s.Reached v u) :
    ∃ depth' path' t', path ⊆ path' ∧ s.jsonAt depth' path' u = .ok t' := by
  induction hu with
  | refl => exact ⟨depth, path, t, fun _ h => h, h⟩
  | tail _ hstep ih =>
      obtain ⟨depth', path', t', hpath, hjson⟩ := ih
      obtain ⟨-, depth'', t'', hinner⟩ := jsonAt_inner hjson hstep
      exact ⟨depth'', _, t'', List.Subset.trans hpath (List.subset_cons_self _ _), hinner⟩

theorem not_encloses_of_jsonAt (h : s.jsonAt depth path v = .ok t) : ¬s.Encloses v v := by
  intro hv
  obtain ⟨u, hu, hrest⟩ := TransGen.head'_iff.mp hv
  obtain ⟨-, depth', t', hinner⟩ := jsonAt_inner h hu
  obtain ⟨depth'', path', t'', hpath, hjson⟩ := jsonAt_reached hinner hrest
  exact (jsonAt_inner hjson hu).1 (hpath List.mem_cons_self)

theorem isNamed_of_jsonAt {d : Dictionary} {e : Value × Value}
    (h : s.jsonAt depth path v = .ok t) (hd : s.get? v = some (.dict d)) (he : e ∈ d.entries) :
    s.isNamed e.1 = true := by
  by_contra hunnamed
  have hkey := jsonKey_of_not_isNamed (Bool.eq_false_iff.mpr hunnamed)
  cases depth with
  | zero => cases h
  | succ depth =>
      cases s.form v with
      | atom _ _ object | formless _ _ object | sequence _ _ object => exact object d hd
      | dict _ _ object json =>
          cases hd.symm.trans object
          by_cases hv : v ∈ path
          · simp [json, hv] at h
          · rw [json, if_neg hv, bind_eq_ok_iff] at h
            obtain ⟨texts, htexts, -⟩ := h
            obtain ⟨text, htext⟩ := exists_ok_of_mapM htexts e he
            rw [hkey] at htext
            cases htext

theorem exists_display_of_jsonAt (h : s.jsonAt depth path v = .ok t)
    (hv : s.isFormless v = true) : ∃ t, s.display v = .ok t := by
  cases depth with
  | zero => cases h
  | succ depth =>
      cases s.form v with
      | atom _ isFormless | sequence _ isFormless | dict _ isFormless =>
          cases hv.symm.trans isFormless
      | formless _ _ _ json =>
          rw [json] at h
          cases hdisplay : s.display v with
          | ok t => exact ⟨t, rfl⟩
          | error e =>
              rw [hdisplay] at h
              cases h

-- A value has a literal exactly if it comes to no dictionary with a key that has no name and to
-- nothing that stands inside itself, and if all that JSON has no form for has a text.
theorem exists_json_iff : (∃ t, s.json v = .ok t) ↔ ¬s.Unliteral v ∧
    ∀ u, s.Reached v u → s.isFormless u = true → ∃ t, s.display u = .ok t := by
  constructor
  · rintro ⟨t, h⟩
    refine ⟨?_, fun u hu hformless => ?_⟩
    · rintro (⟨reached, object, member, unnamed⟩ | ⟨reached, itself⟩)
      · obtain ⟨_, _, _, -, hjson⟩ := jsonAt_reached h reached
        cases unnamed.symm.trans (isNamed_of_jsonAt hjson object member)
      · obtain ⟨_, _, _, -, hjson⟩ := jsonAt_reached h reached
        exact not_encloses_of_jsonAt hjson itself
    · obtain ⟨_, _, _, -, hjson⟩ := jsonAt_reached h hu
      exact exists_display_of_jsonAt hjson hformless
  · rintro ⟨hliteral, hdisplay⟩
    exact exists_jsonAt hliteral hdisplay List.nodup_nil (by simp) (by simp) (Nat.le_refl _)

-- What is raised on the way to a literal is the failure to show something that JSON has no form
-- for.
theorem raised_of_jsonAt {f : Failure} (h : s.jsonAt depth path v = .error (.raised f)) :
    ∃ u, s.Reached v u ∧ s.isFormless u = true ∧ s.display u = .error f := by
  induction depth generalizing v path with
  | zero => cases h
  | succ depth ih =>
      have hinner : ∀ u ∈ s.inner v, s.jsonAt depth (v :: path) u = .error (.raised f) →
          ∃ x, s.Reached v x ∧ s.isFormless x = true ∧ s.display x = .error f := by
        intro u hu hjson
        obtain ⟨x, hx, hfail⟩ := ih hjson
        exact ⟨x, .head hu hx, hfail⟩
      cases s.form v with
      | atom _ _ _ json =>
          obtain ⟨t, ht⟩ := json
          cases (ht depth path).symm.trans h
      | formless _ isFormless _ json =>
          rw [json] at h
          cases hdisplay : s.display v with
          | ok t =>
              rw [hdisplay] at h
              cases h
          | error e =>
              rw [hdisplay] at h
              cases h
              exact ⟨v, .refl, isFormless, hdisplay⟩
      | sequence inner _ _ json =>
          by_cases hv : v ∈ path
          · simp [json, hv] at h
          · rw [json, if_neg hv, bind_eq_error_iff] at h
            rcases h with h | ⟨_, -, h⟩
            · obtain ⟨u, hu, hjson⟩ := exists_error_of_mapM h
              exact hinner u (inner ▸ hu) hjson
            · cases h
      | dict inner _ object json =>
          by_cases hv : v ∈ path
          · simp [json, hv] at h
          · rw [json, if_neg hv, bind_eq_error_iff] at h
            rcases h with h | ⟨_, -, h⟩
            · obtain ⟨e, he, hentry⟩ := exists_error_of_mapM h
              rcases bind_eq_error_iff.mp hentry with hkey | ⟨_, -, hvalue⟩
              · cases hnamed : s.isNamed e.1 with
                | true =>
                    obtain ⟨name, hname⟩ := jsonKey_of_isNamed hnamed
                    cases hname.symm.trans hkey
                | false => cases (jsonKey_of_not_isNamed hnamed).symm.trans hkey
              · rcases bind_eq_error_iff.mp hvalue with hjson | ⟨_, -, h⟩
                · exact hinner e.2 (inner ▸ List.mem_map_of_mem he) hjson
                · cases h
            · cases h

end ParseKit.Store
