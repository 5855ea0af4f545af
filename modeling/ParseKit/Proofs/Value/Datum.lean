import ParseKit.Proofs.Text.Code
import ParseKit.Proofs.Value.Json

namespace ParseKit

mutual

inductive Datum where
  | null
  | bool (b : Bool)
  | int (i : Int)
  | text (t : String)
  | list (items : Items)
  | dict (entries : Entries)

inductive Items where
  | nil
  | cons (first : Datum) (rest : Items)

-- Values under names.
inductive Entries where
  | nil
  | cons (name : String) (first : Datum) (rest : Entries)

end

mutual

-- A value of the store is a datum.
def Datum.At (s : Store) (v : Value) : Datum → Prop
  | .null => v = .null
  | .bool b => v = .bool b
  | .int i => v = .int i
  | .text t => s.text? v = some t
  | .list items => ∃ vs, s.get? v = some (.list vs) ∧ items.At s vs
  | .dict entries => ∃ d, s.get? v = some (.dict d) ∧ entries.At s d.entries

def Items.At (s : Store) (vs : List Value) : Items → Prop
  | .nil => vs = []
  | .cons first rest => ∃ v more, vs = v :: more ∧ first.At s v ∧ rest.At s more

def Entries.At (s : Store) (es : List (Value × Value)) : Entries → Prop
  | .nil => es = []
  | .cons name first rest => ∃ e more, es = e :: more ∧ s.text? e.1 = some name ∧
      first.At s e.2 ∧ rest.At s more

end

mutual

-- The literal of a datum.
def Datum.json : Datum → String
  | .null => "null"
  | .bool b => if b then "true" else "false"
  | .int i => toString i
  | .text t => Text.jsonString t
  | .list items => "[" ++ ",".intercalate items.literals ++ "]"
  | .dict entries => "\x7b" ++ ",".intercalate entries.literals ++ "\x7d"

def Items.literals : Items → List String
  | .nil => []
  | .cons first rest => first.json :: rest.literals

def Entries.literals : Entries → List String
  | .nil => []
  | .cons name first rest => (Text.jsonString name ++ ":" ++ first.json) :: rest.literals

end

mutual

def Datum.size : Datum → Nat
  | .null | .bool _ | .int _ | .text _ => 0
  | .list items => items.size + 1
  | .dict entries => entries.size + 1

def Items.size : Items → Nat
  | .nil => 0
  | .cons first rest => first.size + rest.size

def Entries.size : Entries → Nat
  | .nil => 0
  | .cons _ first rest => first.size + rest.size

end

variable {s : Store} {v : Value}

namespace Datum

theorem eq_text_of_at {d : Datum} {t : String} (h : d.At s v) (ht : s.text? v = some t) :
    d = .text t := by
  cases d with
  | null => cases h; cases ht
  | bool b => cases h; cases ht
  | int i => cases h; cases ht
  | text u => cases h.symm.trans ht; rfl
  | list items =>
      obtain ⟨vs, hvs, -⟩ := h
      cases (Store.text?_of_get? hvs rfl).symm.trans ht
  | dict entries =>
      obtain ⟨es, hes, -⟩ := h
      cases (Store.text?_of_get? hes rfl).symm.trans ht

theorem eq_list_of_at {d : Datum} {vs : List Value} (h : d.At s v)
    (hvs : s.get? v = some (.list vs)) : ∃ items : Items, d = .list items ∧ items.At s vs := by
  cases d with
  | null => cases h; cases hvs
  | bool b => cases h; cases hvs
  | int i => cases h; cases hvs
  | text t => cases (Store.text?_of_get? hvs rfl).symm.trans h
  | list items =>
      obtain ⟨vs', hvs', hitems⟩ := h
      cases hvs.symm.trans hvs'
      exact ⟨items, rfl, hitems⟩
  | dict entries =>
      obtain ⟨es, hes, -⟩ := h
      cases hvs.symm.trans hes

theorem eq_dict_of_at {d : Datum} {content : Dictionary} (h : d.At s v)
    (hcontent : s.get? v = some (.dict content)) :
    ∃ entries : Entries, d = .dict entries ∧ entries.At s content.entries := by
  cases d with
  | null => cases h; cases hcontent
  | bool b => cases h; cases hcontent
  | int i => cases h; cases hcontent
  | text t => cases (Store.text?_of_get? hcontent rfl).symm.trans h
  | list items =>
      obtain ⟨vs, hvs, -⟩ := h
      cases hcontent.symm.trans hvs
  | dict entries =>
      obtain ⟨content', hcontent', hentries⟩ := h
      cases hcontent.symm.trans hcontent'
      exact ⟨entries, rfl, hentries⟩

end Datum

mutual

-- A value is one datum at most.
theorem Datum.at_unique : ∀ (d e : Datum) {v : Value}, d.At s v → e.At s v → d = e
  | .null, e, v, hd, he => by cases hd; cases e <;> simp_all [Datum.At, Store.text?, Store.get?]
  | .bool b, e, v, hd, he => by cases hd; cases e <;> simp_all [Datum.At, Store.text?, Store.get?]
  | .int i, e, v, hd, he => by cases hd; cases e <;> simp_all [Datum.At, Store.text?, Store.get?]
  | .text t, e, v, hd, he => (Datum.eq_text_of_at he hd).symm
  | .list items, e, v, hd, he => by
      obtain ⟨vs, hvs, hitems⟩ := hd
      obtain ⟨items', rfl, hitems'⟩ := Datum.eq_list_of_at he hvs
      rw [Items.at_unique items items' hitems hitems']
  | .dict entries, e, v, hd, he => by
      obtain ⟨content, hcontent, hentries⟩ := hd
      obtain ⟨entries', rfl, hentries'⟩ := Datum.eq_dict_of_at he hcontent
      rw [Entries.at_unique entries entries' hentries hentries']

theorem Items.at_unique : ∀ (a b : Items) {vs : List Value}, a.At s vs → b.At s vs → a = b
  | .nil, b, vs, ha, hb => by
      cases ha
      cases b with
      | nil => rfl
      | cons first rest => obtain ⟨v, more, h, -⟩ := hb; cases h
  | .cons first rest, b, vs, ha, hb => by
      obtain ⟨v, more, rfl, hfirst, hrest⟩ := ha
      cases b with
      | nil => cases hb
      | cons first' rest' =>
          obtain ⟨_, _, h, hfirst', hrest'⟩ := hb
          cases h
          rw [Datum.at_unique first first' hfirst hfirst', Items.at_unique rest rest' hrest hrest']

theorem Entries.at_unique :
    ∀ (a b : Entries) {es : List (Value × Value)}, a.At s es → b.At s es → a = b
  | .nil, b, es, ha, hb => by
      cases ha
      cases b with
      | nil => rfl
      | cons name first rest => obtain ⟨e, more, h, -⟩ := hb; cases h
  | .cons name first rest, b, es, ha, hb => by
      obtain ⟨e, more, rfl, hname, hfirst, hrest⟩ := ha
      cases b with
      | nil => cases hb
      | cons name' first' rest' =>
          obtain ⟨_, _, h, hname', hfirst', hrest'⟩ := hb
          cases h
          cases hname.symm.trans hname'
          rw [Datum.at_unique first first' hfirst hfirst',
            Entries.at_unique rest rest' hrest hrest']

end

-- Objects that a datum stands in, one inside the other, each with a greater datum.
def Store.Surround (s : Store) (path : List Value) (size : Nat) : Prop :=
  path.Nodup ∧ ∀ u ∈ path, s.get? u ≠ none ∧ ∃ e : Datum, e.At s u ∧ size < e.size

-- A datum does not stand in itself, so that there is one object more around what is in it.
theorem Store.Surround.enter {path : List Value} {d : Datum} {o : Object} {size : Nat}
    (h : s.Surround path d.size) (hd : d.At s v) (ho : s.get? v = some o) (hsize : size < d.size) :
    v ∉ path ∧ s.Surround (v :: path) size := by
  have hnew : v ∉ path := by
    intro hv
    obtain ⟨-, e, he, hless⟩ := h.2 v hv
    cases Datum.at_unique d e hd he
    exact Nat.lt_irrefl _ hless
  refine ⟨hnew, List.nodup_cons.mpr ⟨hnew, h.1⟩, fun u hu => ?_⟩
  rcases List.mem_cons.mp hu with rfl | hu
  · exact ⟨by simp [ho], d, hd, hsize⟩
  · obtain ⟨hthere, e, he, hless⟩ := h.2 u hu
    exact ⟨hthere, e, he, by omega⟩

theorem Store.Surround.weaken {path : List Value} {size smaller : Nat} (h : s.Surround path size)
    (hsize : smaller ≤ size) : s.Surround path smaller :=
  ⟨h.1, fun u hu => ⟨(h.2 u hu).1, (h.2 u hu).2.imp fun _ he => ⟨he.1, by omega⟩⟩⟩

theorem Store.Surround.length_le {path : List Value} {size : Nat} (h : s.Surround path size) :
    path.length ≤ s.size :=
  Store.length_le_size h.1 fun u hu => (h.2 u hu).1

theorem Store.Surround.exists_depth {path : List Value} {size depth : Nat}
    (h : s.Surround path size) (hdepth : s.size + 2 ≤ depth + path.length) :
    ∃ n, depth = n + 1 := by
  have := h.length_le
  exact ⟨depth - 1, by omega⟩

theorem Store.jsonAt_list {vs : List Value} {texts : List String} {depth : Nat}
    {path : List Value} (hvs : s.get? v = some (.list vs)) (hpath : v ∉ path)
    (hinner : vs.mapM (s.jsonAt depth (v :: path)) = .ok texts) :
    s.jsonAt (depth + 1) path v = .ok ("[" ++ ",".intercalate texts ++ "]") := by
  have htext := Store.text?_of_get? hvs rfl
  cases v with
  | ref id =>
      have hcontains : path.contains (.ref id) = false := by simpa using hpath
      simp only [jsonAt, htext, hvs, hcontains, Bool.false_eq_true, if_false]
      rw [hinner]
      rfl
  | _ => cases hvs

theorem Store.jsonAt_dict {d : Dictionary} {texts : List String} {depth : Nat}
    {path : List Value} (hd : s.get? v = some (.dict d)) (hpath : v ∉ path)
    (hinner : (d.entries.mapM fun e => do
      let key ← s.jsonKey e.1
      return Text.jsonString key ++ ":" ++ (← s.jsonAt depth (v :: path) e.2)) = .ok texts) :
    s.jsonAt (depth + 1) path v = .ok ("\x7b" ++ ",".intercalate texts ++ "\x7d") := by
  have htext := Store.text?_of_get? hd rfl
  cases v with
  | ref id =>
      have hcontains : path.contains (.ref id) = false := by simpa using hpath
      simp only [jsonAt, htext, hd, hcontains, Bool.false_eq_true, if_false]
      rw [hinner]
      rfl
  | _ => cases hd

mutual

theorem Datum.jsonAt_eq : ∀ (d : Datum) {v : Value} {depth : Nat} {path : List Value},
    d.At s v → s.Surround path d.size → s.size + 2 ≤ depth + path.length →
    s.jsonAt depth path v = .ok d.json
  | .null, v, depth, path, hd, hpath, hdepth => by
      obtain ⟨depth, rfl⟩ := hpath.exists_depth hdepth
      cases hd
      rfl
  | .bool b, v, depth, path, hd, hpath, hdepth => by
      obtain ⟨depth, rfl⟩ := hpath.exists_depth hdepth
      cases hd
      rfl
  | .int i, v, depth, path, hd, hpath, hdepth => by
      obtain ⟨depth, rfl⟩ := hpath.exists_depth hdepth
      cases hd
      rfl
  | .text t, v, depth, path, hd, hpath, hdepth => by
      obtain ⟨depth, rfl⟩ := hpath.exists_depth hdepth
      exact Store.jsonAt_text hd depth path
  | .list items, v, depth, path, hd, hpath, hdepth => by
      obtain ⟨depth, rfl⟩ := hpath.exists_depth hdepth
      obtain ⟨vs, hvs, hitems⟩ := id hd
      obtain ⟨hnew, hinner⟩ := hpath.enter hd hvs (Nat.lt_succ_self items.size)
      exact Store.jsonAt_list hvs hnew (Items.mapM_jsonAt items hitems hinner
        (by simp only [List.length_cons]; omega))
  | .dict entries, v, depth, path, hd, hpath, hdepth => by
      obtain ⟨depth, rfl⟩ := hpath.exists_depth hdepth
      obtain ⟨content, hcontent, hentries⟩ := id hd
      obtain ⟨hnew, hinner⟩ := hpath.enter hd hcontent (Nat.lt_succ_self entries.size)
      exact Store.jsonAt_dict hcontent hnew (Entries.mapM_jsonAt entries hentries hinner
        (by simp only [List.length_cons]; omega))

theorem Items.mapM_jsonAt : ∀ (items : Items) {vs : List Value} {depth : Nat} {path : List Value},
    items.At s vs → s.Surround path items.size → s.size + 2 ≤ depth + path.length →
    vs.mapM (s.jsonAt depth path) = .ok items.literals
  | .nil, vs, depth, path, hitems, hpath, hdepth => by
      cases hitems
      rfl
  | .cons first rest, vs, depth, path, hitems, hpath, hdepth => by
      obtain ⟨v, more, rfl, hfirst, hrest⟩ := hitems
      have hv := Datum.jsonAt_eq first hfirst (hpath.weaken (Nat.le_add_right _ _)) hdepth
      have hmore := Items.mapM_jsonAt rest hrest (hpath.weaken (Nat.le_add_left _ _)) hdepth
      rw [List.mapM_cons, hv, hmore]
      rfl

theorem Entries.mapM_jsonAt : ∀ (entries : Entries) {es : List (Value × Value)} {depth : Nat}
    {path : List Value}, entries.At s es → s.Surround path entries.size →
    s.size + 2 ≤ depth + path.length →
    (es.mapM fun e => do
      let key ← s.jsonKey e.1
      return Text.jsonString key ++ ":" ++ (← s.jsonAt depth path e.2)) = .ok entries.literals
  | .nil, es, depth, path, hentries, hpath, hdepth => by
      cases hentries
      rfl
  | .cons name first rest, es, depth, path, hentries, hpath, hdepth => by
      obtain ⟨e, more, rfl, hname, hfirst, hrest⟩ := hentries
      have hkey : s.jsonKey e.1 = .ok name := by simp [Store.jsonKey, hname]
      have hv := Datum.jsonAt_eq first hfirst (hpath.weaken (Nat.le_add_right _ _)) hdepth
      have hmore := Entries.mapM_jsonAt rest hrest (hpath.weaken (Nat.le_add_left _ _)) hdepth
      rw [List.mapM_cons, hkey, hv, hmore]
      rfl

end

theorem Datum.json_eq {d : Datum} (hd : d.At s v) : s.json v = .ok d.json :=
  d.jsonAt_eq hd ⟨List.nodup_nil, by simp⟩ (Nat.le_refl _)

-- What a literal starts with, where all numbers count as starting with a zero.
def Datum.start : Datum → Char
  | .null => 'n'
  | .bool true => 't'
  | .bool false => 'f'
  | .int _ => '0'
  | .text _ => '"'
  | .list _ => '['
  | .dict _ => '\x7b'

def kindOf (c : Char) : Char := if c.isDigit || c == '-' then '0' else c

theorem Datum.toList_json_list (items : Items) : (Datum.list items).json.toList =
    '[' :: ((",".intercalate items.literals).toList ++ [']']) := by
  rw [Datum.json, String.toList_append, String.toList_append]
  rfl

theorem Datum.toList_json_dict (entries : Entries) : (Datum.dict entries).json.toList =
    '\x7b' :: ((",".intercalate entries.literals).toList ++ ['\x7d']) := by
  rw [Datum.json, String.toList_append, String.toList_append]
  rfl

-- A text that starts like the literal of a datum.
def Datum.Starts (d : Datum) (cs : List Char) : Prop :=
  ∃ c rest, cs = c :: rest ∧ kindOf c = d.start

theorem Datum.starts_json (d : Datum) : d.Starts d.json.toList := by
  cases d with
  | null => exact ⟨'n', _, rfl, rfl⟩
  | bool b => cases b <;> exact ⟨_, _, rfl, rfl⟩
  | int i =>
      rcases Text.int_cases i with ⟨n, rfl, hi⟩ | ⟨n, rfl, hi⟩
      · obtain ⟨c, rest, hc⟩ := List.exists_cons_of_ne_nil (Text.toString_ne_nil n)
        have hdigit : c.isDigit = true :=
          Text.isDigit_of_mem_toString (n := n) (hc ▸ List.mem_cons_self)
        exact ⟨c, rest, hi.trans hc, by simp [kindOf, hdigit, Datum.start]⟩
      · exact ⟨'-', _, hi, rfl⟩
  | text t => exact ⟨'"', _, Text.jsonString_toList t, rfl⟩
  | list items => exact ⟨'[', _, Datum.toList_json_list items, rfl⟩
  | dict entries => exact ⟨'\x7b', _, Datum.toList_json_dict entries, rfl⟩

-- Data whose literals start in the same way.
def Datum.SameKind : Datum → Datum → Prop
  | .null, .null => True
  | .bool a, .bool b => a = b
  | .int _, .int _ => True
  | .text _, .text _ => True
  | .list _, .list _ => True
  | .dict _, .dict _ => True
  | _, _ => False

theorem Datum.sameKind_of_start {d e : Datum} (h : d.start = e.start) : d.SameKind e := by
  unfold Datum.start at h
  split at h <;> split at h <;> trivial

theorem Datum.Starts.sameKind {d e : Datum} {a b x y : List Char} (hd : d.Starts a)
    (he : e.Starts b) (h : a ++ x = b ++ y) : d.SameKind e := by
  obtain ⟨c, rest, rfl, hd⟩ := hd
  obtain ⟨c', rest', rfl, he⟩ := he
  obtain ⟨rfl, -⟩ := List.cons.inj h
  exact sameKind_of_start (hd.symm.trans he)

theorem Datum.sameKind_of_append {d e : Datum} {x y : List Char}
    (h : d.json.toList ++ x = e.json.toList ++ y) : d.SameKind e :=
  d.starts_json.sameKind e.starts_json h

-- Literals with a comma in front of each of them.
def commaLiterals (literals : List String) : List Char := literals.flatMap (',' :: ·.toList)

theorem toList_intercalate_comma (t : String) (ts : List String) :
    (",".intercalate (t :: ts)).toList = t.toList ++ commaLiterals ts :=
  Text.toList_intercalate_cons "," t ts

-- A sequence that is not empty starts with something else than what ends it.
theorem commaLiterals_of_intercalate {stop : Char} {x y : List Char} {l m : List String}
    (hl : ∀ t ∈ l, ∃ c rest, t.toList = c :: rest ∧ c ≠ stop)
    (hm : ∀ t ∈ m, ∃ c rest, t.toList = c :: rest ∧ c ≠ stop)
    (h : (",".intercalate l).toList ++ stop :: x = (",".intercalate m).toList ++ stop :: y) :
    commaLiterals l ++ stop :: x = commaLiterals m ++ stop :: y := by
  cases l with
  | nil =>
      cases m with
      | nil => simpa [commaLiterals] using h
      | cons u us =>
          obtain ⟨c, rest, hc, hne⟩ := hm u (by simp)
          rw [toList_intercalate_comma, hc] at h
          exact absurd (List.cons.inj h).1.symm hne
  | cons t ts =>
      cases m with
      | nil =>
          obtain ⟨c, rest, hc, hne⟩ := hl t (by simp)
          rw [toList_intercalate_comma, hc] at h
          exact absurd (List.cons.inj h).1 hne
      | cons u us =>
          rw [toList_intercalate_comma, toList_intercalate_comma] at h
          exact congrArg (',' :: ·) h

theorem Items.exists_start : ∀ (items : Items), ∀ t ∈ items.literals,
    ∃ c rest, t.toList = c :: rest ∧ c ≠ ']'
  | .cons first rest, t, ht => by
      rcases List.mem_cons.mp ht with rfl | ht
      · obtain ⟨c, more, hc, hkind⟩ := first.starts_json
        refine ⟨c, more, hc, ?_⟩
        rintro rfl
        rcases first with _ | (_ | _) | _ | _ | _ | _ <;> cases hkind
      · exact Items.exists_start rest t ht

theorem Entries.exists_start : ∀ (entries : Entries), ∀ t ∈ entries.literals,
    ∃ c rest, t.toList = c :: rest ∧ c ≠ '\x7d'
  | .cons name first rest, t, ht => by
      rcases List.mem_cons.mp ht with rfl | ht
      · have hquote : (Text.jsonString name ++ ":" ++ first.json).toList =
            '"' :: (name.toList.flatMap Text.jsonChar ++ '"' :: ':' :: first.json.toList) := by
          simp [String.toList_append, Text.jsonString_toList]
        exact ⟨'"', _, hquote, by decide⟩
      · exact Entries.exists_start rest t ht

mutual

-- By recursion on the datum that is read. What follows the literal of a part is a comma, or the end
-- of what it is a part of.
theorem Datum.json_unique : ∀ (d e : Datum) {x y : List Char}, Text.EndsNumber x →
    Text.EndsNumber y → d.json.toList ++ x = e.json.toList ++ y → d = e ∧ x = y
  | .null => by
      intro e x y hx hy h
      cases e with
      | null => exact ⟨rfl, List.append_cancel_left h⟩
      | _ => exact (Datum.sameKind_of_append h).elim
  | .bool b => by
      intro e x y hx hy h
      cases e with
      | bool b' =>
          cases (Datum.sameKind_of_append h : b = b')
          exact ⟨rfl, List.append_cancel_left h⟩
      | _ => exact (Datum.sameKind_of_append h).elim
  | .int i => by
      intro e x y hx hy h
      cases e with
      | int j =>
          simp only [Datum.json] at h
          obtain ⟨rfl, hrest⟩ := Text.int_unique hx hy h
          exact ⟨rfl, hrest⟩
      | _ => exact (Datum.sameKind_of_append h).elim
  | .text t => by
      intro e x y hx hy h
      cases e with
      | text u =>
          simp only [Datum.json] at h
          obtain ⟨rfl, hrest⟩ := Text.jsonString_unique h
          exact ⟨rfl, hrest⟩
      | _ => exact (Datum.sameKind_of_append h).elim
  | .list items => by
      intro e x y hx hy h
      cases e with
      | list items' =>
          rw [Datum.toList_json_list, Datum.toList_json_list] at h
          simp only [List.cons_append, List.append_assoc, List.nil_append, List.cons.injEq,
            true_and] at h
          obtain ⟨rfl, hrest⟩ := Items.commaLiterals_unique items items'
            (commaLiterals_of_intercalate items.exists_start items'.exists_start h)
          exact ⟨rfl, hrest⟩
      | _ => exact (Datum.sameKind_of_append h).elim
  | .dict entries => by
      intro e x y hx hy h
      cases e with
      | dict entries' =>
          rw [Datum.toList_json_dict, Datum.toList_json_dict] at h
          simp only [List.cons_append, List.append_assoc, List.nil_append, List.cons.injEq,
            true_and] at h
          obtain ⟨rfl, hrest⟩ := Entries.commaLiterals_unique entries entries'
            (commaLiterals_of_intercalate entries.exists_start entries'.exists_start h)
          exact ⟨rfl, hrest⟩
      | _ => exact (Datum.sameKind_of_append h).elim

theorem Items.commaLiterals_unique : ∀ (a b : Items) {x y : List Char},
    commaLiterals a.literals ++ ']' :: x = commaLiterals b.literals ++ ']' :: y → a = b ∧ x = y
  | .nil => by
      intro b x y h
      cases b with
      | nil => exact ⟨rfl, (List.cons.inj h).2⟩
      | cons first' rest' => cases (List.cons.inj h).1
  | .cons first rest => by
      intro b x y h
      cases b with
      | nil => cases (List.cons.inj h).1
      | cons first' rest' =>
          simp only [Items.literals, commaLiterals, List.flatMap_cons, List.cons_append,
            List.append_assoc, List.cons.injEq, true_and] at h
          obtain ⟨hfirst, hmore⟩ := Datum.json_unique first first'
            (Text.endsNumber_commas _ rfl _ x) (Text.endsNumber_commas _ rfl _ y) h
          obtain ⟨hrest, hend⟩ := Items.commaLiterals_unique rest rest' hmore
          exact ⟨by rw [hfirst, hrest], hend⟩

theorem Entries.commaLiterals_unique : ∀ (a b : Entries) {x y : List Char},
    commaLiterals a.literals ++ '\x7d' :: x = commaLiterals b.literals ++ '\x7d' :: y →
    a = b ∧ x = y
  | .nil => by
      intro b x y h
      cases b with
      | nil => exact ⟨rfl, (List.cons.inj h).2⟩
      | cons name' first' rest' => cases (List.cons.inj h).1
  | .cons name first rest => by
      intro b x y h
      cases b with
      | nil => cases (List.cons.inj h).1
      | cons name' first' rest' =>
          have hcolon : ":".toList = [':'] := rfl
          simp only [Entries.literals, commaLiterals, List.flatMap_cons, String.toList_append, hcolon,
            List.cons_append, List.nil_append, List.append_assoc, List.cons.injEq, true_and] at h
          obtain ⟨hname, hvalue⟩ := Text.jsonString_unique h
          obtain ⟨hfirst, hmore⟩ := Datum.json_unique first first'
            (Text.endsNumber_commas _ rfl _ x) (Text.endsNumber_commas _ rfl _ y)
            (List.cons.inj hvalue).2
          obtain ⟨hrest, hend⟩ := Entries.commaLiterals_unique rest rest' hmore
          exact ⟨by rw [hname, hfirst, hrest], hend⟩

end

end ParseKit
