import ParseKit.Proofs.Outcome.Details
import ParseKit.Proofs.Text.Trim

namespace ParseKit.Details

open Text (FirstLine Trimmed TrimmedRight)

-- The first of several values that is not null, or null if there is none.
inductive First : List Value → Value → Prop where
  | here {v : Value} {rest : List Value} (known : v ≠ .null) : First (v :: rest) v
  | later {v : Value} {rest : List Value} (found : First rest v) : First (.null :: rest) v
  | nowhere : First [] .null

-- Where the positions of an error are read: at the start of its location, if there is one, and
-- else at the error itself.
inductive Source (s : Store) (e : Failure) : (String → Value) → Prop where
  | location {start : Value} (there : s.part (field e "location") "start" = start)
      (known : start ≠ .null) : Source s e (s.part start)
  | error (unknown : s.part (field e "location") "start" = .null) : Source s e (field e)

-- The natural number that a value is, or zero. A negative number is none, and neither is a truth
-- value.
inductive Measured : Value → Nat → Prop where
  | number (n : Nat) : Measured (.int n) n
  | other {v : Value} (noNumber : ∀ n : Nat, v ≠ .int n) : Measured v 0

-- The text lists what the items are shown as, each as often as it is there, in the order of code
-- points.
def Listed (s : Store) (items : List Value) (t : Value) : Prop :=
  ∃ texts sorted, List.Forall₂ (fun u t => s.display u = .ok t) items texts ∧
    sorted.Perm texts ∧ sorted.Pairwise (· ≤ ·) ∧ t = .text (", ".intercalate sorted)

-- How a value is written: nothing for null, a text as it is, the items of a collection in order,
-- and the display text of anything else.
inductive Written (s : Store) : Value → Value → Prop where
  | unknown : Written s .null (.text "")
  | text {v : Value} (isText : s.isText v = true) : Written s v v
  | several {v t : Value} {items : List Value} (collection : collection? s v = some items)
      (listed : Listed s items t) : Written s v t
  | other {v : Value} {t : String} (known : v ≠ .null) (noText : s.isText v = false)
      (noCollection : collection? s v = none) (shown : s.display v = .ok t) :
      Written s v (.text t)

-- What was found: said outright, or a token, or a character.
inductive Found (s : Store) (e : Failure) : Value → Prop where
  | said {t : Value} (known : field e "found" ≠ .null) (written : Written s (field e "found") t) :
      Found s e t
  | token {t : String} (unsaid : field e "found" = .null) (known : field e "token" ≠ .null)
      (shown : s.display (field e "token") = .ok t) : Found s e (.text t)
  | character {t : Value} (unsaid : field e "found" = .null) (noToken : field e "token" = .null)
      (written : Written s (field e "char") t) : Found s e t

-- The first line of a text, without the blanks around the text and behind the line.
structure Headline (shown line : List Char) : Prop where
  cut : ∃ core first, Trimmed shown core ∧ FirstLine core first ∧ TrimmedRight first line

-- What becomes of a line that announces what was expected by a colon, and of every other one.
inductive Completed (expected : String) : List Char → String → Prop where
  | plain {line : List Char} (noColon : line.getLast? ≠ some ':') :
      Completed expected line (String.ofList line)
  | announced {line : List Char} (known : expected ≠ "") : Completed expected (line ++ [':'])
      (String.ofList (line ++ [':']) ++ " " ++ expected)
  | unannounced {line : List Char} (unknown : expected = "") :
      Completed expected (line ++ [':']) (String.ofList line)

-- What an error says went wrong: its own text, or else the first line of what it is shown as,
-- completed by what was expected.
inductive Said (s : Store) (e : Failure) (expected : String) : Value → Prop where
  | own (isText : s.isText (field e "message") = true) : Said s e expected (field e "message")
  | shown {shown message : String} {line : List Char}
      (noText : s.isText (field e "message") = false) (text : s.failureText e = .ok shown)
      (head : Headline shown.toList line) (completed : Completed expected line message) :
      Said s e expected (.text message)

-- A diagnostic that says of an error in a text what the error says itself.
structure Normal (s : Store) (e : Failure) (source : String) (d : Diagnostic) : Prop where
  positions : ∃ (read : String → Value) (line column offset : Nat) (place : Value),
    Source s e read ∧ Measured (read "line") line ∧ Measured (read "column") column ∧
    First [read "offset", read "pos_in_stream"] place ∧ Measured place offset ∧
    d.line = .int line ∧ d.column = .int column ∧ d.offset = .int offset ∧
    d.location = Excerpt.around source offset
  found : Found s e d.found
  expected : ∃ v, First [field e "expected", field e "allowed"] v ∧ Written s v d.expected
  message : ∃ expected, s.text? d.expected = some expected ∧ Said s e expected d.message
  foundText : s.isText d.found = true
  expectedText : s.isText d.expected = true

theorem first_firstOf (a b : Value) : First [a, b] (firstOf a b) := by
  unfold firstOf
  by_cases ha : a = .null
  · subst ha
    by_cases hb : b = .null
    · subst hb
      exact .later (.later .nowhere)
    · exact .later (.here hb)
  · rw [if_neg ha]
    exact .here ha

theorem source_positionField (s : Store) (e : Failure) : Source s e (positionField s e) := by
  by_cases hstart : s.part (field e "location") "start" = .null
  · have hread : positionField s e = field e := by
      funext name
      simp [positionField, hstart]
    rw [hread]
    exact .error hstart
  · have hread : positionField s e = s.part (s.part (field e "location") "start") := by
      funext name
      simp [positionField, hstart]
    rw [hread]
    exact .location rfl hstart

theorem measured_positionOrZero (v : Value) : Measured v (positionOrZero v) := by
  cases v with
  | int i =>
      cases i with
      | ofNat n => exact .number n
      | negSucc n => exact .other fun m h => by cases h
  | _ => exact .other fun _ h => by cases h

theorem Measured.positionOrZero_eq {v : Value} {n : Nat} (h : Measured v n) :
    positionOrZero v = n := by
  cases h with
  | number => rfl
  | other noNumber =>
      cases v with
      | int i =>
          cases i with
          | ofNat n => exact absurd rfl (noNumber n)
          | negSucc n => rfl
      | _ => rfl

theorem pairwise_sortTexts (texts : List String) : (sortTexts texts).Pairwise (· ≤ ·) := by
  have htrans : ∀ a b c : String, (!decide (b < a)) = true → (!decide (c < b)) = true →
      (!decide (c < a)) = true := by
    intro a b c hab hbc
    simp only [Bool.not_eq_true', decide_eq_false_iff_not, String.not_lt] at *
    exact String.le_trans hab hbc
  have htotal : ∀ a b : String, (!decide (b < a) || !decide (a < b)) = true := by
    intro a b
    simp only [Bool.or_eq_true, Bool.not_eq_true', decide_eq_false_iff_not, String.not_lt]
    exact String.le_total a b
  refine (List.pairwise_mergeSort htrans htotal texts).imp fun {a b} h => ?_
  simpa only [Bool.not_eq_true', decide_eq_false_iff_not, String.not_lt] using h

theorem written_textOf {s : Store} {v t : Value} (h : textOf s v = .ok t) : Written s v t := by
  unfold textOf at h
  by_cases hnull : v = .null
  · rw [if_pos hnull] at h
    cases h
    rw [hnull]
    exact .unknown
  rw [if_neg hnull] at h
  by_cases htext : s.isText v = true
  · rw [if_pos htext] at h
    cases h
    exact .text htext
  rw [if_neg htext] at h
  cases hitems : collection? s v with
  | none =>
      rw [hitems] at h
      obtain ⟨shown, hshown, hresult⟩ := bind_eq_ok_iff.mp h
      cases hresult
      exact .other hnull (Bool.eq_false_iff.mpr htext) hitems hshown
  | some items =>
      rw [hitems] at h
      obtain ⟨texts, htexts, hresult⟩ := bind_eq_ok_iff.mp h
      cases hresult
      exact .several hitems ⟨texts, _, mapM_eq_ok_iff.mp htexts, List.mergeSort_perm _ _,
        pairwise_sortTexts texts, rfl⟩

theorem Listed.exists_text {s : Store} {items : List Value} {t : Value} (h : Listed s items t) :
    ∃ listed, t = .text listed := by
  obtain ⟨_, sorted, -, -, -, ht⟩ := h
  exact ⟨_, ht⟩

theorem isText_of_written {s : Store} {v t : Value} (h : Written s v t) : s.isText t = true := by
  cases h with
  | text ht => exact ht
  | several _ hlisted =>
      obtain ⟨_, rfl⟩ := hlisted.exists_text
      rfl
  | _ => rfl

theorem Found.isText {s : Store} {e : Failure} {t : Value} (h : Found s e t) :
    s.isText t = true := by
  cases h with
  | said _ hwritten => exact isText_of_written hwritten
  | token => rfl
  | character _ _ hwritten => exact isText_of_written hwritten

theorem found_foundOf {s : Store} {e : Failure} {v t : Value} (hv : foundOf s e = .ok v)
    (ht : textOf s v = .ok t) : Found s e t := by
  unfold foundOf at hv
  by_cases hsaid : field e "found" = .null
  · by_cases htoken : field e "token" = .null
    · simp only [hsaid, htoken, if_true, Except.ok.injEq] at hv
      subst hv
      exact .character hsaid htoken (written_textOf ht)
    · simp only [hsaid, htoken, if_true, if_false] at hv
      obtain ⟨shown, hshown, hresult⟩ := bind_eq_ok_iff.mp hv
      cases hresult
      cases ht
      exact .token hsaid htoken hshown
  · simp only [hsaid, if_false, Except.ok.injEq] at hv
    subst hv
    exact .said hsaid (written_textOf ht)

theorem headline_firstLine (shown : String) : Headline shown.toList (firstLine shown) :=
  ⟨_, _, Text.trimmed_trim _, Text.firstLine_takeWhile _, Text.trimmedRight_trimRight _⟩

theorem completed_complete (expected : String) (line : List Char) :
    Completed expected line (complete line expected) := by
  by_cases hcolon : line.getLast? = some ':'
  · obtain ⟨line, rfl⟩ := List.getLast?_eq_some_iff.mp hcolon
    by_cases hexpected : expected = ""
    · rw [complete, if_pos hcolon, if_pos hexpected, List.dropLast_concat]
      exact .unannounced hexpected
    · rw [complete, if_pos hcolon, if_neg hexpected]
      exact .announced hexpected
  · rw [complete, if_neg hcolon]
    exact .plain hcolon

theorem said_messageOf {s : Store} {e : Failure} {expected : String} {v : Value}
    (h : messageOf s e expected = .ok v) : Said s e expected v := by
  unfold messageOf at h
  by_cases hown : s.isText (field e "message") = true
  · rw [if_pos hown] at h
    cases h
    exact .own hown
  · rw [if_neg hown] at h
    obtain ⟨shown, hshown, h⟩ := bind_eq_ok_iff.mp h
    cases h
    exact .shown (Bool.eq_false_iff.mpr hown) hshown (headline_firstLine shown)
      (completed_complete expected _)

theorem normal_ofFailure {s : Store} {e : Failure} {d : Details} (source : String)
    (h : ofFailure s e = .ok d) : Normal s e source (d.diagnostic source) := by
  obtain ⟨found, hfound, h⟩ := bind_eq_ok_iff.mp h
  obtain ⟨expected, hexpected, h⟩ := bind_eq_ok_iff.mp h
  obtain ⟨message, hmessage, h⟩ := bind_eq_ok_iff.mp h
  obtain ⟨text, htext, h⟩ := bind_eq_ok_iff.mp h
  cases h
  have hfound : Found s e text := found_foundOf hfound htext
  have hexpected : Written s _ expected := written_textOf hexpected
  obtain ⟨t, ht⟩ := Option.isSome_iff_exists.mp (isText_of_written hexpected)
  rw [ht, Option.getD_some] at hmessage
  exact {
    positions := ⟨positionField s e, _, _, _, _, source_positionField s e,
      measured_positionOrZero _, measured_positionOrZero _, first_firstOf _ _,
      measured_positionOrZero _, rfl, rfl, rfl, rfl⟩
    found := hfound
    expected := ⟨_, first_firstOf _ _, hexpected⟩
    message := ⟨t, ht, said_messageOf hmessage⟩
    foundText := hfound.isText
    expectedText := isText_of_written hexpected }

end ParseKit.Details
