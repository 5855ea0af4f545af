import ParseKit.Text.Quoted

namespace ParseKit.Text

variable {x y : List Char}

-- What consists of characters of a kind ends where the first other character is.
theorem span_unique {p : Char → Bool} {a b : List Char} (ha : ∀ c ∈ a, p c = true)
    (hb : ∀ c ∈ b, p c = true) (hx : ∀ c ∈ x.head?, p c = false)
    (hy : ∀ c ∈ y.head?, p c = false) (h : a ++ x = b ++ y) : a = b ∧ x = y := by
  induction a generalizing b with
  | nil =>
      cases b with
      | nil => exact ⟨rfl, h⟩
      | cons d b =>
          subst h
          have := hx d (by simp)
          simp [hb d (by simp)] at this
  | cons c a ih =>
      cases b with
      | nil =>
          rw [List.nil_append] at h
          subst h
          have := hy c (by simp)
          simp [ha c (by simp)] at this
      | cons d b =>
          obtain ⟨rfl, htail⟩ := List.cons.inj h
          obtain ⟨rfl, hrest⟩ := ih (fun c hc => ha c (by simp [hc]))
            (fun c hc => hb c (by simp [hc])) htail
          exact ⟨rfl, hrest⟩

theorem isDigit_of_mem_toString {n : Nat} {c : Char} (h : c ∈ (toString n).toList) :
    c.isDigit = true := by
  rw [Nat.toString_eq_repr, Nat.toList_repr] at h
  exact Nat.isDigit_of_mem_toDigits (by omega) (by omega) h

theorem toString_inj {m n : Nat} (h : (toString m).toList = (toString n).toList) : m = n := by
  rw [Nat.toString_eq_repr, Nat.toString_eq_repr, Nat.toList_repr, Nat.toList_repr] at h
  rw [← Nat.ofDigitChars_ten_toDigits (n := m), h, Nat.ofDigitChars_ten_toDigits]

-- A text after which a number is over.
def EndsNumber (rest : List Char) : Prop := ∀ c ∈ rest.head?, c.isDigit = false

theorem endsNumber_cons {c : Char} (h : c.isDigit = false) (rest : List Char) :
    EndsNumber (c :: rest) := by
  simpa [EndsNumber] using h

-- It is over with the comma ahead of the next item, or with what ends the items.
theorem endsNumber_commas {α : Type} (code : α → List Char) {stop : Char}
    (hstop : stop.isDigit = false) (items : List α) (rest : List Char) :
    EndsNumber (items.flatMap (fun a => ',' :: code a) ++ stop :: rest) := by
  cases items with
  | nil => exact endsNumber_cons hstop rest
  | cons a items => exact endsNumber_cons rfl _

theorem nat_unique {m n : Nat} (hx : EndsNumber x) (hy : EndsNumber y)
    (h : (toString m).toList ++ x = (toString n).toList ++ y) : m = n ∧ x = y := by
  obtain ⟨hnumber, hrest⟩ := span_unique (fun _ => isDigit_of_mem_toString)
    (fun _ => isDigit_of_mem_toString) hx hy h
  exact ⟨toString_inj hnumber, hrest⟩

theorem toString_ne_nil (n : Nat) : (toString n).toList ≠ [] := by
  rw [Nat.toString_eq_repr, Nat.toList_repr]
  exact Nat.toDigits_ne_nil

-- A negative number starts with a sign, and any other one with a digit.
theorem int_cases (i : Int) : (∃ n : Nat, i = n ∧ (toString i).toList = (toString n).toList) ∨
    ∃ n : Nat, i = Int.negSucc n ∧ (toString i).toList = '-' :: (toString (n + 1)).toList := by
  cases i with
  | ofNat n => exact Or.inl ⟨n, rfl, rfl⟩
  | negSucc n => exact Or.inr ⟨n, rfl, by simp [toString, Int.repr]⟩

theorem int_unique {i j : Int} (hx : EndsNumber x) (hy : EndsNumber y)
    (h : (toString i).toList ++ x = (toString j).toList ++ y) : i = j ∧ x = y := by
  have hsign : ∀ (m n : Nat) {x y : List Char}, (toString m).toList ++ x ≠
      '-' :: (toString n).toList ++ y := by
    intro m n x y h
    obtain ⟨c, rest, hc⟩ := List.exists_cons_of_ne_nil (toString_ne_nil m)
    have hdigit : c.isDigit = true := isDigit_of_mem_toString (n := m) (hc ▸ List.mem_cons_self)
    rw [hc] at h
    obtain ⟨rfl, -⟩ := List.cons.inj h
    cases hdigit
  rcases int_cases i with ⟨m, rfl, hi⟩ | ⟨m, rfl, hi⟩ <;>
    rcases int_cases j with ⟨n, rfl, hj⟩ | ⟨n, rfl, hj⟩ <;> rw [hi, hj] at h
  · obtain ⟨rfl, hrest⟩ := nat_unique hx hy h
    exact ⟨rfl, hrest⟩
  · exact absurd h (hsign m (n + 1))
  · exact absurd h.symm (hsign n (m + 1))
  · obtain ⟨hnumber, hrest⟩ := nat_unique hx hy (List.cons.inj h).2
    obtain rfl : m = n := by omega
    exact ⟨rfl, hrest⟩

-- Texts with another one in front of each of them but the first.
theorem toList_intercalate_cons (separator t : String) (ts : List String) :
    (separator.intercalate (t :: ts)).toList =
      t.toList ++ ts.flatMap fun u => separator.toList ++ u.toList := by
  induction ts generalizing t with
  | nil => simp
  | cons u ts ih =>
      have hrest := ih u
      simp only [String.toList_intercalate, List.map_cons] at hrest ⊢
      rw [List.intercalate_cons_cons, hrest]
      simp

theorem toList_intercalate_empty (ts : List String) :
    ("".intercalate ts).toList = ts.flatMap String.toList := by
  cases ts with
  | nil => rfl
  | cons t ts => exact toList_intercalate_cons "" t ts

-- Characters that are written one after the other, up to a character with which none of them
-- starts.
theorem flatMap_unique (valid : Char → Prop) {code : Char → List Char} {stop : Char}
    {read : List Char → Option (Char × List Char)}
    (hread : ∀ c rest, valid c → read (code c ++ rest) = some (c, rest))
    (hstop : ∀ c rest other, valid c → code c ++ rest ≠ stop :: other)
    {cs ds : List Char} (hcs : ∀ c ∈ cs, valid c) (hds : ∀ c ∈ ds, valid c)
    (h : cs.flatMap code ++ stop :: x = ds.flatMap code ++ stop :: y) : cs = ds ∧ x = y := by
  induction cs generalizing ds with
  | nil =>
      cases ds with
      | nil => exact ⟨rfl, (List.cons.inj h).2⟩
      | cons d ds =>
          rw [List.flatMap_cons, List.append_assoc] at h
          exact absurd h.symm (hstop d _ _ (hds d (by simp)))
  | cons c cs ih =>
      cases ds with
      | nil =>
          rw [List.flatMap_cons, List.append_assoc] at h
          exact absurd h (hstop c _ _ (hcs c (by simp)))
      | cons d ds =>
          have hsame := congrArg read h
          simp only [List.flatMap_cons, List.append_assoc, hread c _ (hcs c (by simp)),
            hread d _ (hds d (by simp)), Option.some.injEq, Prod.mk.injEq] at hsame
          obtain ⟨rfl, htail⟩ := hsame
          obtain ⟨rfl, hrest⟩ := ih (fun c hc => hcs c (by simp [hc]))
            (fun c hc => hds c (by simp [hc])) htail
          exact ⟨rfl, hrest⟩

-- The character that a JSON string begins with, and what comes behind it.
def readJsonChar : List Char → Option (Char × List Char)
  | '\\' :: 'u' :: a :: b :: c :: d :: rest => do
    let digits ← [a, b, c, d].mapM hexValue?
    return (Char.ofNat (digits.foldl (16 * · + ·) 0), rest)
  | '\\' :: 'n' :: rest => some ('\n', rest)
  | '\\' :: 'r' :: rest => some ('\r', rest)
  | '\\' :: 't' :: rest => some ('\t', rest)
  | '\\' :: 'b' :: rest => some ('\x08', rest)
  | '\\' :: 'f' :: rest => some ('\x0c', rest)
  | '\\' :: c :: rest => some (c, rest)
  | c :: rest => some (c, rest)
  | [] => none

theorem hexValue?_hexDigits : ∀ n < 0x20,
    (hexDigits 'a' 4 n).mapM hexValue? = some [0, 0, n / 16, n % 16] := by decide

theorem readJsonChar_jsonChar (c : Char) (rest : List Char) :
    readJsonChar (jsonChar c ++ rest) = some (c, rest) := by
  unfold jsonChar
  split <;> try rfl
  split
  · next h =>
    have hdigits := hexValue?_hexDigits c.toNat h
    simp only [hexDigits, List.nil_append, List.cons_append] at hdigits ⊢
    rw [readJsonChar, hdigits]
    have hcode : [0, 0, c.toNat / 16, c.toNat % 16].foldl (16 * · + ·) 0 = c.toNat := by
      simp only [List.foldl_cons, List.foldl_nil]
      omega
    simp only [Option.bind_eq_bind, Option.bind_some, Option.pure_def, hcode, Char.ofNat_toNat]
  · unfold readJsonChar
    split <;> simp_all

theorem jsonChar_append_ne (c : Char) (rest other : List Char) :
    jsonChar c ++ rest ≠ '"' :: other := by
  unfold jsonChar
  split <;> try simp
  split <;> simp_all

theorem jsonString_toList (t : String) :
    (jsonString t).toList = '"' :: t.toList.flatMap jsonChar ++ ['"'] := by
  simp [jsonString]

theorem jsonString_unique {t u : String}
    (h : (jsonString t).toList ++ x = (jsonString u).toList ++ y) : t = u ∧ x = y := by
  simp only [jsonString_toList, List.cons_append, List.append_assoc, List.cons.injEq, true_and,
    List.nil_append] at h
  obtain ⟨hchars, hrest⟩ := flatMap_unique (fun _ => True)
    (fun c rest _ => readJsonChar_jsonChar c rest)
    (fun c rest other _ => jsonChar_append_ne c rest other) (by simp) (by simp) h
  exact ⟨String.toList_inj.mp hchars, hrest⟩

end ParseKit.Text
