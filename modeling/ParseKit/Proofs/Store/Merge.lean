import ParseKit.Proofs.Store.Entries

namespace ParseKit.Store

variable {s : Store} {old more entries : List (Value × Value)} {key key' value : Value}

-- Whether something equals a text is a matter of characters and of the types of tokens.
theorem same_of_text_right {a b : Value} {t : String} (hb : s.text? b = some t) :
    s.same a b = (a == b || s.sameText a b) := by
  have htext : s.isText b = true := by simp [isText, hb]
  rw [same, sameAt, htext, Bool.or_true, if_pos rfl]
  cases a == b <;> rfl

theorem text?_eq_of_same {a b : Value} {t : String} (hb : s.text? b = some t)
    (h : s.same a b = true) : s.text? a = s.text? b := by
  rw [same_of_text_right hb] at h
  rcases Bool.or_eq_true_iff.mp h with h | h
  · rw [eq_of_beq h]
  · exact eq_of_beq (Bool.and_eq_true_iff.mp h).1

section Put

variable {x : Value} {o o' : Object}

theorem tokenType?_put (hx : s.get? x = some o) (ho : o.isToken = false) (ho' : o'.isToken = false)
    (v : Value) : (s.put x o').tokenType? v = s.tokenType? v := by
  have hnone : ∀ o : Object, o.isToken = false → ∀ s : Store, s.get? x = some o →
      s.tokenType? x = none := by
    intro o ho s hs
    rw [tokenType?, hs]
    cases o <;> first | rfl | cases ho
  by_cases hv : v = x
  · rw [hv, hnone o ho s hx, hnone o' ho' _ (get?_put_here o' hx)]
  · rw [tokenType?, tokenType?, get?_put_elsewhere s o' hv]

theorem same_put (hx : s.get? x = some o) (ho : o.isToken = false) (ho' : o'.isToken = false)
    (a : Value) {b : Value} {t : String} (hb : s.text? b = some t) :
    (s.put x o').same a b = s.same a b := by
  have hb' : (s.put x o').text? b = some t := (text?_put o' hx ho ho' b).trans hb
  rw [same_of_text_right hb', same_of_text_right hb]
  simp only [sameText, text?_put o' hx ho ho', tokenType?_put hx ho ho']

theorem insert_put (hx : s.get? x = some o) (ho : o.isToken = false) (ho' : o'.isToken = false)
    (entries : List (Value × Value)) (hkey : s.isText key = true) (value : Value) :
    (s.put x o').insert entries key value = s.insert entries key value := by
  obtain ⟨t, ht⟩ := Option.isSome_iff_exists.mp hkey
  induction entries with
  | nil => rfl
  | cons e rest ih => rw [insert, insert, same_put hx ho ho' e.1 ht, ih]

theorem insertAll_put (hx : s.get? x = some o) (ho : o.isToken = false) (ho' : o'.isToken = false)
    (entries : List (Value × Value)) (hmore : ∀ e ∈ more, s.isText e.1 = true) :
    (s.put x o').insertAll entries more = s.insertAll entries more := by
  induction more generalizing entries with
  | nil => rfl
  | cons e rest ih =>
      have hrest := ih (s.insert entries e.1 e.2) fun e he => hmore e (by simp [he])
      simpa only [insertAll, List.foldl_cons,
        insert_put hx ho ho' entries (hmore e (by simp))] using hrest

theorem lookup?_put (hx : s.get? x = some o) (ho : o.isToken = false) (ho' : o'.isToken = false)
    (entries : List (Value × Value)) (hkey : s.isText key = true) :
    (s.put x o').lookup? entries key = s.lookup? entries key := by
  obtain ⟨t, ht⟩ := Option.isSome_iff_exists.mp hkey
  simp only [lookup?, same_put hx ho ho' _ ht]

end Put

-- Entries of a dictionary: no key equals an earlier one.
def Keyed (s : Store) (entries : List (Value × Value)) : Prop :=
  entries.Pairwise fun e e' => s.same e.1 e'.1 = false

-- Plain texts are different keys unless they are the same text.
theorem keyed_of_texts {names : List String} (hnames : names.Nodup)
    (hentries : entries.map Prod.fst = names.map .text) : s.Keyed entries := by
  have hdistinct : (entries.map Prod.fst).Pairwise fun a b => s.same a b = false := by
    rw [hentries, List.pairwise_map]
    refine hnames.imp fun {a b} hne => ?_
    rw [same_of_text_right rfl]
    simp [sameText, text?, hne]
  exact List.pairwise_map.mp hdistinct

theorem insert_new (hkey : ∀ e ∈ entries, s.same e.1 key = false) (value : Value) :
    s.insert entries key value = entries ++ [(key, value)] := by
  induction entries with
  | nil => rfl
  | cons e rest ih =>
      rw [insert, hkey e (by simp), if_neg Bool.false_ne_true, ih fun e he => hkey e (by simp [he])]
      rfl

theorem keys_insert (s : Store) (entries : List (Value × Value)) (key value : Value) :
    (s.insert entries key value).map Prod.fst =
      entries.map Prod.fst ++ if entries.any fun e => s.same e.1 key then [] else [key] := by
  induction entries with
  | nil => rfl
  | cons e rest ih =>
      rw [insert, List.any_cons]
      cases s.same e.1 key with
      | true => simp
      | false =>
          rw [if_neg Bool.false_ne_true, Bool.false_or, List.map_cons, ih]
          rfl

-- Keys that are there keep their places, and the others follow as they come.
theorem keys_insertAll (hmore : s.Keyed more) (old : List (Value × Value)) :
    (s.insertAll old more).map Prod.fst =
      old.map Prod.fst ++ (more.map Prod.fst).filter fun k => !old.any fun e => s.same e.1 k := by
  induction more generalizing old with
  | nil => simp [insertAll]
  | cons e rest ih =>
      obtain ⟨hfirst, hrest⟩ := List.pairwise_cons.mp hmore
      have hany : ∀ k ∈ rest.map Prod.fst,
          ((s.insert old e.1 e.2).any fun e => s.same e.1 k) = old.any fun e => s.same e.1 k := by
        intro k hk
        obtain ⟨e', he', rfl⟩ := List.mem_map.mp hk
        have hkeys := congrArg (List.any · fun k => s.same k e'.1) (keys_insert s old e.1 e.2)
        simp only [List.any_map, List.any_append, Function.comp_def] at hkeys
        rw [hkeys]
        split <;> simp [hfirst e' he']
      have hfilter := List.filter_congr fun k hk => congrArg (! ·) (hany k hk)
      have hall := ih hrest (s.insert old e.1 e.2)
      rw [hfilter, keys_insert] at hall
      rw [insertAll, List.foldl_cons, ← insertAll, hall, List.map_cons, List.filter_cons]
      cases hold : old.any fun e' => s.same e'.1 e.1 <;> simp

-- What is distinct from all entries before it comes after them.
theorem insertAll_append (hentries : s.Keyed (old ++ more)) :
    s.insertAll old more = old ++ more := by
  induction more generalizing old with
  | nil => simp [insertAll]
  | cons e rest ih =>
      have hnew : s.insert old e.1 e.2 = old ++ [e] :=
        insert_new (fun e' he' => (List.pairwise_append.mp hentries).2.2 e' he' e (by simp)) e.2
      have hall : s.insertAll (old ++ [e]) rest = old ++ [e] ++ rest :=
        ih (by simpa using hentries)
      rw [insertAll, List.foldl_cons, hnew, ← insertAll, hall]
      simp

-- An entry that is there is put in again without effect.
theorem insert_of_mem (hentries : s.Keyed entries) {e : Value × Value} (he : e ∈ entries) :
    s.insert entries e.1 e.2 = entries := by
  induction entries with
  | nil => cases he
  | cons first rest ih =>
      obtain ⟨hfirst, hrest⟩ := List.pairwise_cons.mp hentries
      rcases List.mem_cons.mp he with rfl | he
      · rw [insert, if_pos (same_refl s e.1)]
      · rw [insert, hfirst e he, if_neg Bool.false_ne_true, ih hrest he]

theorem insertAll_of_subset (hentries : s.Keyed entries) (hmore : ∀ e ∈ more, e ∈ entries) :
    s.insertAll entries more = entries := by
  induction more with
  | nil => rfl
  | cons e rest ih =>
      rw [insertAll, List.foldl_cons, insert_of_mem hentries (hmore e (by simp))]
      exact ih fun e he => hmore e (by simp [he])

-- Of the keys with the characters of this one, any two are equal. Only tokens of different types
-- keep keys from that.
def Settles (s : Store) (keys : List Value) (key : Value) : Prop :=
  ∀ k ∈ keys, ∀ k' ∈ keys, s.text? k = s.text? key → s.text? k' = s.text? key →
    s.same k k' = true

section Lookup

variable {keys : List Value} {t t' : String}

theorem lookup?_cons (s : Store) (e : Value × Value) (entries : List (Value × Value))
    (key : Value) :
    s.lookup? (e :: entries) key =
      if s.same e.1 key = true then some e.2 else s.lookup? entries key := by
  by_cases he : s.same e.1 key = true <;> simp [lookup?, he]

theorem Settles.same_iff (h : s.Settles keys key) (hmem : key ∈ keys) (hkey : s.text? key = some t)
    {k : Value} (hk : k ∈ keys) : s.same k key = true ↔ s.text? k = s.text? key :=
  ⟨text?_eq_of_same hkey, fun htext => h k hk key hmem htext rfl⟩

theorem lookup?_insert (h : s.Settles keys key) (hmem : key ∈ keys) (hkey : s.text? key = some t)
    (hentries : ∀ e ∈ entries, e.1 ∈ keys) (hmem' : key' ∈ keys) (hkey' : s.text? key' = some t')
    (value : Value) :
    s.lookup? (s.insert entries key' value) key =
      if s.same key' key = true then some value else s.lookup? entries key := by
  induction entries with
  | nil => exact lookup?_cons s (key', value) [] key
  | cons e rest ih =>
      have he : e.1 ∈ keys := hentries e (by simp)
      rw [insert, lookup?_cons]
      by_cases hhit : s.same e.1 key' = true
      · have hboth : s.same e.1 key = true ↔ s.same key' key = true := by
          rw [h.same_iff hmem hkey he, h.same_iff hmem hkey hmem', text?_eq_of_same hkey' hhit]
        rw [if_pos hhit, lookup?_cons]
        by_cases hsame : s.same key' key = true
        · rw [if_pos hsame, if_pos (hboth.mpr hsame)]
        · rw [if_neg hsame, if_neg (mt hboth.mp hsame), if_neg (mt hboth.mp hsame)]
      · rw [if_neg hhit, lookup?_cons, ih fun e he => hentries e (by simp [he])]
        by_cases hfound : s.same e.1 key = true
        · have hother : s.same key' key ≠ true := fun hsame =>
            hhit (h e.1 he key' hmem' (text?_eq_of_same hkey hfound)
              (text?_eq_of_same hkey hsame))
          rw [if_pos hfound, if_neg hother, if_pos hfound]
        · rw [if_neg hfound, if_neg hfound]

-- The entry that came last counts.
theorem lookup?_insertAll (h : s.Settles keys key) (hmem : key ∈ keys)
    (hkey : s.text? key = some t) (hold : ∀ e ∈ old, e.1 ∈ keys) (hnew : ∀ e ∈ more, e.1 ∈ keys)
    (htexts : ∀ e ∈ more, s.isText e.1 = true) (hmore : s.Keyed more) :
    s.lookup? (s.insertAll old more) key = (s.lookup? more key).or (s.lookup? old key) := by
  induction more generalizing old with
  | nil => rfl
  | cons e rest ih =>
      obtain ⟨hfirst, hrest⟩ := List.pairwise_cons.mp hmore
      obtain ⟨t', ht'⟩ := Option.isSome_iff_exists.mp (htexts e (by simp))
      have he : e.1 ∈ keys := hnew e (by simp)
      have hinserted : ∀ e' ∈ s.insert old e.1 e.2, e'.1 ∈ keys := by
        intro e' he'
        rcases (mem_insert he').1 with h' | ⟨first, hin, h'⟩
        · exact h' ▸ he
        · exact h' ▸ hold first hin
      have hrun := ih hinserted (fun e he => hnew e (by simp [he]))
        (fun e he => htexts e (by simp [he])) hrest
      rw [insertAll, List.foldl_cons, ← insertAll, hrun, lookup?_cons,
        lookup?_insert h hmem hkey hold he ht']
      by_cases hsame : s.same e.1 key = true
      · have hnone : s.lookup? rest key = none := by
          simp only [lookup?, Option.map_eq_none_iff, List.find?_eq_none]
          intro e' he' hother
          have hequal := h e.1 he e'.1 (hnew e' (by simp [he'])) (text?_eq_of_same hkey hsame)
            (text?_eq_of_same hkey hother)
          rw [hfirst e' he'] at hequal
          cases hequal
        rw [if_pos hsame, if_pos hsame, hnone]
        rfl
      · rw [if_neg hsame, if_neg hsame]

end Lookup

-- What a dictionary holds into which the entries of another one were put.
structure Merged (s : Store) (old more new : List (Value × Value)) : Prop where
  places : new.map Prod.fst =
    old.map Prod.fst ++ (more.map Prod.fst).filter fun k => !old.any fun e => s.same e.1 k
  values : ∀ key, s.isText key = true →
    s.Settles (key :: (old ++ more).map Prod.fst) key →
    s.lookup? new key = (s.lookup? more key).or (s.lookup? old key)

theorem merged_insertAll (old : List (Value × Value)) (htexts : ∀ e ∈ more, s.isText e.1 = true)
    (hmore : s.Keyed more) : s.Merged old more (s.insertAll old more) where
  places := keys_insertAll hmore old
  values := by
    intro key hkey hsettles
    obtain ⟨t, ht⟩ := Option.isSome_iff_exists.mp hkey
    exact lookup?_insertAll hsettles (by simp) ht
      (fun e he => List.mem_cons_of_mem _ (List.mem_map_of_mem (by simp [he])))
      (fun e he => List.mem_cons_of_mem _ (List.mem_map_of_mem (by simp [he]))) htexts hmore

end ParseKit.Store
