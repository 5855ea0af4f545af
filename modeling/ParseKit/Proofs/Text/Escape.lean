import Mathlib.Data.List.Infix
import ParseKit.Node.Dump

namespace ParseKit

variable {c letter : Char} {a b : List Char}

-- An escaped character read from its end.
def backwards (c letter d : Char) : List Char := if d = c then [letter, '\\'] else [d]

theorem reverse_escapeOne (c letter : Char) (a : List Char) :
    (escapeOne c letter a).reverse = a.reverse.flatMap (backwards c letter) := by
  rw [escapeOne, List.reverse_flatMap]
  refine List.flatMap_congr fun d _ => ?_
  unfold backwards
  by_cases h : d = c
  · simp [h]
  · simp [h]

theorem flatMap_backwards_cons (c letter d : Char) (a : List Char) :
    (d :: a).flatMap (backwards c letter) =
      if d = c then letter :: '\\' :: a.flatMap (backwards c letter)
      else d :: a.flatMap (backwards c letter) := by
  rw [List.flatMap_cons, backwards]
  split <;> rfl

-- What starts with a backslash does so because the first character is one.
theorem cons_of_flatMap_backwards {rest : List Char} (hletter : letter ≠ '\\')
    (h : a.flatMap (backwards c letter) = '\\' :: rest) : ∃ more, a = '\\' :: more := by
  cases a with
  | nil => cases h
  | cons d a =>
      rw [flatMap_backwards_cons] at h
      split at h
      · exact absurd (List.cons.inj h).1 hletter
      · exact ⟨a, by rw [(List.cons.inj h).1]⟩

-- By induction from the end of the texts. An escaped character and one that stands for itself can
-- only be taken for each other where the latter has a backslash ahead of it.
theorem flatMap_backwards_inj (hletter : letter ≠ '\\')
    (ha : letter ≠ c → ¬[letter, '\\'] <:+: a) (hb : letter ≠ c → ¬[letter, '\\'] <:+: b)
    (h : a.flatMap (backwards c letter) = b.flatMap (backwards c letter)) : a = b := by
  have htail : ∀ {d : Char} {a : List Char}, (letter ≠ c → ¬[letter, '\\'] <:+: d :: a) →
      letter ≠ c → ¬[letter, '\\'] <:+: a := fun h hne hinfix =>
    h hne (List.infix_cons hinfix)
  have hmixed : ∀ {d : Char} {a b : List Char}, d ≠ c →
      (letter ≠ c → ¬[letter, '\\'] <:+: d :: a) →
      letter :: '\\' :: b ≠ d :: a.flatMap (backwards c letter) := by
    intro d a b hd hplain heq
    obtain ⟨rfl, hrest⟩ := List.cons.inj heq
    obtain ⟨more, rfl⟩ := cons_of_flatMap_backwards hletter hrest.symm
    exact hplain hd ⟨[], more, rfl⟩
  induction a generalizing b with
  | nil =>
      cases b with
      | nil => rfl
      | cons e b =>
          rw [flatMap_backwards_cons] at h
          split at h <;> cases h
  | cons d a ih =>
      cases b with
      | nil =>
          rw [flatMap_backwards_cons] at h
          split at h <;> cases h
      | cons e b =>
          rw [flatMap_backwards_cons, flatMap_backwards_cons] at h
          by_cases hd : d = c <;> by_cases he : e = c
          · rw [if_pos hd, if_pos he] at h
            rw [hd, he, ih (htail ha) (htail hb) (List.cons.inj (List.cons.inj h).2).2]
          · rw [if_pos hd, if_neg he] at h
            exact absurd h (hmixed he hb)
          · rw [if_neg hd, if_pos he] at h
            exact absurd h.symm (hmixed hd ha)
          · rw [if_neg hd, if_neg he] at h
            rw [(List.cons.inj h).1, ih (htail ha) (htail hb) (List.cons.inj h).2]

-- Texts in which the escaped form does not stand already are told apart by their escaped forms.
theorem escapeOne_inj (hletter : letter ≠ '\\') (ha : letter ≠ c → ¬['\\', letter] <:+: a)
    (hb : letter ≠ c → ¬['\\', letter] <:+: b) (h : escapeOne c letter a = escapeOne c letter b) :
    a = b := by
  have hreverse : ∀ {a : List Char}, (letter ≠ c → ¬['\\', letter] <:+: a) →
      letter ≠ c → ¬[letter, '\\'] <:+: a.reverse := fun h hne hinfix =>
    h hne (List.reverse_infix.mp hinfix)
  have hbackwards := congrArg List.reverse h
  rw [reverse_escapeOne, reverse_escapeOne] at hbackwards
  exact List.reverse_inj.mp
    (flatMap_backwards_inj hletter (hreverse ha) (hreverse hb) hbackwards)

-- A character of a text in double quotes.
def quoteChar (c : Char) : List Char :=
  if c = '\n' then ['\\', 'n'] else if c = '"' then ['\\', '"'] else [c]

-- A text in double quotes, as it stands in a dump.
def doubleQuoted (t : String) : String :=
  String.ofList ('"' :: t.toList.flatMap quoteChar ++ ['"'])

-- The source of an expression between slashes.
def slashed (source : List Char) : String :=
  String.ofList ('/' :: (source.flatMap fun c => if c = '/' then ['\\', '/'] else [c]) ++ ['/'])

-- A text whose line ends are written as a backslash with an n after it.
def onOneLine (t : List Char) : List Char :=
  t.flatMap fun c => if c = '\n' then ['\\', 'n'] else [c]

theorem flatMap_quoteChar (cs : List Char) :
    cs.flatMap quoteChar = escapeOne '"' '"' (onOneLine cs) := by
  rw [escapeOne, onOneLine, List.flatMap_assoc]
  refine List.flatMap_congr fun c _ => ?_
  by_cases hline : c = '\n'
  · subst hline
    rfl
  · simp [quoteChar, hline]

-- The quotes in a text never make a difference.
theorem doubleQuoted_eq_iff {t u : String} :
    doubleQuoted t = doubleQuoted u ↔ onOneLine t.toList = onOneLine u.toList := by
  constructor
  · intro h
    have hchars : escapeOne '"' '"' (onOneLine t.toList) =
        escapeOne '"' '"' (onOneLine u.toList) := by
      simpa [doubleQuoted, flatMap_quoteChar] using congrArg String.toList h
    exact escapeOne_inj (by decide) (absurd rfl) (absurd rfl) hchars
  · intro h
    rw [doubleQuoted, doubleQuoted, flatMap_quoteChar, flatMap_quoteChar, h]

-- Neither do the line ends, where what they are written as does not stand already.
theorem onOneLine_inj (ha : ¬['\\', 'n'] <:+: a) (hb : ¬['\\', 'n'] <:+: b)
    (h : onOneLine a = onOneLine b) : a = b :=
  escapeOne_inj (by decide) (fun _ => ha) (fun _ => hb) h

end ParseKit
