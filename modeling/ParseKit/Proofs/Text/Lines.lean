import Mathlib.Data.String.Basic

namespace ParseKit.Text

-- A separator of one character is found where a character equals it.
theorem splitOnAux_eq (t : String) (b i : String.Pos.Raw) (r : List String) :
    t.splitOnAux "\n" b i 0 r = t.splitAux (· == '\n') b i r := by
  have hfirst : String.Pos.Raw.get "\n" 0 = '\n' := by decide
  induction b, i, r using String.splitAux.induct t (· == '\n') with
  | case1 b i r hend =>
      rw [String.splitOnAux.eq_1, String.splitAux.eq_1, if_pos hend, dif_pos hend]
  | case2 b i r hend _ hsep _ ih =>
      have hlast : String.Pos.Raw.atEnd "\n" (String.Pos.Raw.next "\n" 0) = true := by decide
      have hback : (String.Pos.Raw.next t i).unoffsetBy (String.Pos.Raw.next "\n" 0) = i := by
        have hchar : String.Pos.Raw.get t i = '\n' := by simpa using hsep
        have hsize : '\n'.utf8Size = 1 := by decide
        ext
        simp [String.Pos.Raw.next, hchar, hfirst, hsize]
      rw [String.splitOnAux.eq_1, String.splitAux.eq_1, if_neg hend, dif_neg hend, hfirst,
        if_pos hsep, if_pos hsep]
      simp only [hlast, if_true, hback]
      exact ih
  | case3 b i r hend _ hsep ih =>
      rw [String.splitOnAux.eq_1, String.splitAux.eq_1, if_neg hend, dif_neg hend, hfirst,
        if_neg hsep, if_neg hsep]
      exact ih

theorem splitOn_eq (t : String) : t.splitOn "\n" = (t.toList.splitOn '\n').map String.ofList := by
  have hsplit : t.splitOn "\n" = t.splitToList (· == '\n') := splitOnAux_eq t 0 0 []
  rw [hsplit, String.splitToList_of_valid, List.splitOn_eq_splitOnP]

theorem not_mem_of_mem_splitOn {c : Char} {cs l : List Char} (h : l ∈ cs.splitOn c) : c ∉ l := by
  induction cs generalizing l with
  | nil =>
      rw [List.splitOn_nil, List.mem_singleton] at h
      simp [h]
  | cons d cs ih =>
      rw [List.splitOn_cons_eq_if_modifyHead] at h
      split at h
      · rcases List.mem_cons.mp h with rfl | h
        · simp
        · exact ih h
      · next hd =>
        obtain ⟨first, rest, hsplit⟩ := List.exists_cons_of_ne_nil (List.splitOn_ne_nil c cs)
        rw [hsplit, List.modifyHead_cons] at h
        rw [hsplit] at ih
        rcases List.mem_cons.mp h with rfl | h
        · have hc : c ≠ d := fun hc => hd (by simp [hc])
          simpa [hc] using ih (List.mem_cons_self)
        · exact ih (List.mem_cons_of_mem _ h)

theorem not_mem_line {t line : String} (h : line ∈ t.splitOn "\n") : '\n' ∉ line.toList := by
  rw [splitOn_eq] at h
  obtain ⟨cs, hcs, rfl⟩ := List.mem_map.mp h
  rw [String.toList_ofList]
  exact not_mem_of_mem_splitOn hcs

-- The lines of a text make it up, whether there are empty ones among them or not.
theorem intercalate_splitOn (t : String) : "\n".intercalate (t.splitOn "\n") = t := by
  rw [← String.toList_inj, String.toList_intercalate, splitOn_eq, List.map_map]
  have hchars : String.toList ∘ String.ofList = id := funext fun cs => String.toList_ofList
  rw [hchars, List.map_id]
  exact List.intercalate_splitOn '\n'

-- Lines are found again in the text that they make up.
theorem splitOn_intercalate {lines : List String} (h : ∀ line ∈ lines, '\n' ∉ line.toList)
    (hne : lines ≠ []) : ("\n".intercalate lines).splitOn "\n" = lines := by
  have hchars : ∀ cs ∈ lines.map String.toList, '\n' ∉ cs := by
    intro cs hcs
    obtain ⟨line, hline, rfl⟩ := List.mem_map.mp hcs
    exact h line hline
  have hsplit : ("\n".intercalate lines).toList.splitOn '\n' = lines.map String.toList := by
    rw [String.toList_intercalate]
    exact List.splitOn_intercalate '\n' hchars (by simpa using hne)
  have htexts : String.ofList ∘ String.toList = id := funext fun t => String.ofList_toList
  rw [splitOn_eq, hsplit, List.map_map, htexts, List.map_id]

end ParseKit.Text
