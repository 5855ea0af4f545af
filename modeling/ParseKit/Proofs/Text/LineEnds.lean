import Mathlib.Algebra.GroupWithZero.Nat
import ParseKit.Proofs.Text.Code
import ParseKit.Value.Json

namespace ParseKit.Text

def lineEnds (t : String) : Nat := t.toList.count '\n'

theorem lineEnds_eq_zero {t : String} : lineEnds t = 0 ↔ '\n' ∉ t.toList := List.count_eq_zero

@[simp] theorem lineEnds_append (a b : String) :
    lineEnds (a ++ b) = lineEnds a + lineEnds b := by
  simp [lineEnds]

@[simp] theorem lineEnds_ofList (cs : List Char) :
    lineEnds (String.ofList cs) = cs.count '\n' := by
  simp [lineEnds]

-- A separator of one line puts no line end between the texts.
theorem lineEnds_intercalate {separator : String} (h : lineEnds separator = 0)
    (ts : List String) : lineEnds (separator.intercalate ts) = (ts.map lineEnds).sum := by
  cases ts with
  | nil => simp [lineEnds]
  | cons t ts =>
      have hrest : (ts.flatMap fun u => separator.toList ++ u.toList).count '\n' =
          (ts.map lineEnds).sum := by
        induction ts with
        | nil => rfl
        | cons u ts ih =>
            rw [List.flatMap_cons, List.count_append, List.count_append, ih]
            simp only [List.map_cons, List.sum_cons, lineEnds] at h ⊢
            omega
      rw [lineEnds, toList_intercalate_cons, List.count_append, hrest]
      rfl

-- Lines with a line end behind each of them.
theorem lineEnds_ended (lines : List String) :
    lineEnds ("".intercalate (lines.map (· ++ "\n"))) =
      lines.length + (lines.map lineEnds).sum := by
  have hend : lineEnds "\n" = 1 := by decide
  rw [lineEnds_intercalate rfl]
  induction lines with
  | nil => rfl
  | cons line lines ih =>
      simp only [List.map_cons, List.sum_cons, List.length_cons, ih, lineEnds_append, hend]
      omega

theorem lineEnds_toString_nat (n : Nat) : lineEnds (toString n) = 0 := by
  refine lineEnds_eq_zero.mpr fun h => ?_
  have hdigit := isDigit_of_mem_toString h
  cases hdigit

theorem lineEnds_toString_int (i : Int) : lineEnds (toString i) = 0 := by
  have hnat := fun n => lineEnds_eq_zero.mp (lineEnds_toString_nat n)
  rw [lineEnds_eq_zero]
  rcases int_cases i with ⟨n, -, hi⟩ | ⟨n, -, hi⟩ <;> rw [hi]
  · exact hnat n
  · simpa using hnat (n + 1)

theorem hexDigit_ne_lineEnd : ∀ n < 16, hexDigit 'a' n ≠ '\n' := by decide

theorem not_mem_hexDigits (width n : Nat) : '\n' ∉ hexDigits 'a' width n := by
  induction width generalizing n with
  | zero => simp [hexDigits]
  | succ width ih =>
      have hlast := hexDigit_ne_lineEnd (n % 16) (Nat.mod_lt _ (by omega))
      simpa [hexDigits, ih] using hlast.symm

theorem not_mem_jsonChar (c : Char) : '\n' ∉ jsonChar c := by
  unfold jsonChar
  split <;> try decide
  split
  · simp [not_mem_hexDigits]
  · simp_all [eq_comm]

theorem lineEnds_jsonString (t : String) : lineEnds (jsonString t) = 0 := by
  rw [lineEnds_eq_zero, jsonString_toList]
  simp [not_mem_jsonChar]

end ParseKit.Text

namespace ParseKit.Decimal

open Text (lineEnds lineEnds_eq_zero)

theorem lineEnds_exponentText (e : Int) : lineEnds (exponentText e) = 0 := by
  have hdigits := Text.lineEnds_toString_nat e.natAbs
  have hsign : lineEnds (if e < 0 then "-" else "+") = 0 := by split <;> decide
  have hzero : lineEnds "0" = 0 := by decide
  unfold exponentText
  dsimp only
  rw [Text.lineEnds_append, hsign]
  split
  · rw [Text.lineEnds_append, hzero, hdigits]
  · rw [hdigits]

variable {digits : List Char}

theorem lineEnds_positional (h : '\n' ∉ digits) (point : Int) :
    lineEnds (positional digits point) = 0 := by
  have hzeros : ∀ n, (List.replicate n '0').count '\n' = 0 := by simp [List.count_eq_zero]
  unfold positional
  split
  · have hpoint : lineEnds "0." = 0 := by decide
    rw [Text.lineEnds_append, hpoint, Text.lineEnds_ofList, List.count_append, hzeros,
      List.count_eq_zero.mpr h]
  · have htake : (digits.take point.toNat).count '\n' = 0 :=
      List.count_eq_zero.mpr fun hmem => h (List.mem_of_mem_take hmem)
    have hdrop : (digits.drop point.toNat).count '\n' = 0 :=
      List.count_eq_zero.mpr fun hmem => h (List.mem_of_mem_drop hmem)
    simp only [Text.lineEnds_ofList, List.count_append, List.count_cons, htake, hzeros]
    split
    · decide
    · simp [hdrop]

theorem lineEnds_scientific (h : '\n' ∉ digits) (exponent : Int) :
    lineEnds (scientific digits exponent) = 0 := by
  have hexponent := lineEnds_exponentText exponent
  have hletter : lineEnds "e" = 0 := by decide
  unfold scientific
  rw [Text.lineEnds_append, Text.lineEnds_append, Text.lineEnds_ofList, hletter, hexponent]
  refine List.count_eq_zero.mpr ?_
  split
  · simp
  · exact h
  · simpa using h

theorem not_mem_dropZeros (h : '\n' ∉ digits) : '\n' ∉ (dropZeros digits).1 := by
  intro hmem
  have hkept := (List.dropWhile_sublist (· == '0')).mem (List.mem_reverse.mp hmem)
  exact h (List.mem_reverse.mp hkept)

theorem lineEnds_unsigned (format : Format) (mantissa : Nat) (exponent : Int) :
    lineEnds (format.unsigned mantissa exponent) = 0 := by
  unfold Format.unsigned
  split
  · decide
  · have hdigits := not_mem_dropZeros
      (lineEnds_eq_zero.mp (Text.lineEnds_toString_nat (shortest mantissa exponent).1))
    dsimp only
    split
    · exact lineEnds_positional hdigits _
    · exact lineEnds_scientific hdigits _

end ParseKit.Decimal

namespace ParseKit

theorem lineEnds_jsonNumber (bits : UInt64) : Text.lineEnds (jsonNumber bits) = 0 := by
  unfold jsonNumber
  split
  · decide
  · split <;> decide
  · cases h : Decimal.Binary.ofBits bits with
    | notANumber => decide
    | infinite negative => cases negative <;> decide
    | finite negative mantissa exponent =>
        rw [Decimal.Format.write, Text.lineEnds_append, Decimal.lineEnds_unsigned]
        cases negative <;> decide

end ParseKit
