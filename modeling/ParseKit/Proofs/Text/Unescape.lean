import Mathlib.Data.List.Forall2
import ParseKit.Text.Escape

namespace ParseKit.Text

-- The number that hexadecimal digits spell.
def hexNumber? (digits : List Char) : Option Nat :=
  digits.foldlM (fun n c => (hexValue? c).map (16 * n + ·)) 0

-- The character that a letter behind a backslash stands for.
def shortMeaning? : Char → Option Char
  | '\\' => some '\\'
  | 'b' => some '\x08'
  | 't' => some '\t'
  | 'n' => some '\n'
  | 'f' => some '\x0c'
  | 'r' => some '\r'
  | _ => none

-- Whether a character may stand in the notation.
def isPlain (c : Char) : Bool := 0x20 ≤ c.toNat && c.toNat ≤ 0x7F

-- The code units that an escaped text spells.
def readUnits : List Char → Option (List Nat)
  | [] => some []
  | '\\' :: 'x' :: a :: b :: rest =>
    (hexNumber? [a, b]).bind fun unit => (readUnits rest).map (unit :: ·)
  | '\\' :: 'u' :: a :: b :: c :: d :: rest =>
    (hexNumber? [a, b, c, d]).bind fun unit => (readUnits rest).map (unit :: ·)
  | '\\' :: letter :: rest =>
    (shortMeaning? letter).bind fun c => (readUnits rest).map (c.toNat :: ·)
  | c :: rest =>
    if c ≠ '\\' ∧ isPlain c then (readUnits rest).map (c.toNat :: ·) else none

-- The character of a code point that is no surrogate.
def charOf? (code : Nat) : Option Char :=
  if code.isValidChar then some (Char.ofNat code) else none

def isHighSurrogate (unit : Nat) : Bool := 0xD800 ≤ unit && unit < 0xDC00

def isLowSurrogate (unit : Nat) : Bool := 0xDC00 ≤ unit && unit < 0xE000

-- The text of code units. A high surrogate and the low one after it stand for one character, and a
-- surrogate on its own stands for none.
def joinUnits : List Nat → Option (List Char)
  | [] => some []
  | [unit] => (charOf? unit).map fun c => [c]
  | unit :: next :: rest =>
    if isHighSurrogate unit && isLowSurrogate next then
      (charOf? (0x10000 + (unit - 0xD800) * 0x400 + (next - 0xDC00))).bind fun c =>
        (joinUnits rest).map (c :: ·)
    else (charOf? unit).bind fun c => (joinUnits (next :: rest)).map (c :: ·)

-- The text that was escaped, unless something is no escaped text.
def unescape (s : List Char) : Option (List Char) := do joinUnits (← readUnits s)

def units (c : Char) : List Nat :=
  if c.toNat ≤ 0xFFFF then [c.toNat]
  else [0xD800 + (c.toNat - 0x10000) / 0x400, 0xDC00 + (c.toNat - 0x10000) % 0x400]

-- The digit of a number below sixteen.
def digit (n : Nat) : Char := "0123456789ABCDEF".toList.getD n ' '

-- A code unit in four digits.
def unitForm (unit : Nat) : List Char :=
  ['\\', 'u', digit (unit / 0x1000), digit (unit / 0x100 % 16), digit (unit / 16 % 16),
    digit (unit % 16)]

-- The escaped form of a character: some have a letter of their own, printable ones and DEL stand
-- for themselves, what is left below 0x100 takes two digits, and all others take one code unit or
-- two.
inductive Escaped : Char → List Char → Prop
  | letter {c letter : Char} (h : shortMeaning? letter = some c) : Escaped c ['\\', letter]
  | itself {c : Char} (hback : c ≠ '\\') (hplain : 0x20 ≤ c.toNat ∧ c.toNat ≤ 0x7F) : Escaped c [c]
  | byte {c : Char} (hlong : ∀ letter, shortMeaning? letter ≠ some c)
      (hcode : c.toNat < 0x20 ∨ 0x80 ≤ c.toNat ∧ c.toNat ≤ 0xFF) :
      Escaped c ['\\', 'x', digit (c.toNat / 16), digit (c.toNat % 16)]
  | unit {c : Char} (hlow : 0x100 ≤ c.toNat) (hhigh : c.toNat ≤ 0xFFFF) :
      Escaped c (unitForm c.toNat)
  | pair {c : Char} (h : 0x10000 ≤ c.toNat) :
      Escaped c (unitForm (0xD800 + (c.toNat - 0x10000) / 0x400) ++
        unitForm (0xDC00 + (c.toNat - 0x10000) % 0x400))

-- The escaped form of a text: one piece for each character.
def EscapedText (s shown : List Char) : Prop :=
  ∃ pieces, List.Forall₂ Escaped s pieces ∧ shown = pieces.flatten

theorem hexValue?_digit : ∀ n < 16, hexValue? (digit n) = some n := by decide

theorem isPlain_digit : ∀ n < 16, isPlain (digit n) = true := by decide

theorem hexDigit_eq_digit : ∀ n < 16, hexDigit 'A' n = digit n := by decide

theorem toNat_lt (c : Char) : c.toNat < 0x110000 := by
  rcases c.valid with h | h
  · exact Nat.lt_trans h (by decide)
  · exact h.2

theorem hexDigits_byte {code : Nat} (h : code < 0x100) :
    hexDigits 'A' 2 code = [digit (code / 16), digit (code % 16)] := by
  rw [← hexDigit_eq_digit _ (by omega), ← hexDigit_eq_digit _ (by omega)]
  simp [hexDigits, Nat.mod_eq_of_lt (show code / 16 < 16 by omega)]

theorem unitEscape_eq {unit : Nat} (h : unit < 0x10000) : unitEscape unit = unitForm unit := by
  have hfirst : unit / 16 / 16 / 16 % 16 = unit / 0x1000 := by omega
  have hsecond : unit / 16 / 16 % 16 = unit / 0x100 % 16 := by omega
  rw [unitForm, ← hexDigit_eq_digit _ (by omega), ← hexDigit_eq_digit _ (by omega),
    ← hexDigit_eq_digit _ (by omega), ← hexDigit_eq_digit _ (by omega)]
  simp [unitEscape, hexDigits, hfirst, hsecond]

-- A letter says that it is short for a character exactly where the character is written with it.
theorem shortMeaning?_of_shortEscape? {c letter : Char} (h : shortEscape? c = some letter) :
    shortMeaning? letter = some c := by
  unfold shortEscape? at h
  split at h <;> cases h <;> rfl

theorem shortMeaning?_ne {c : Char} (h : shortEscape? c = none) (letter : Char) :
    shortMeaning? letter ≠ some c := by
  intro hletter
  unfold shortMeaning? at hletter
  split at hletter <;> cases hletter <;> cases h

theorem ne_backslash {c : Char} (h : shortEscape? c = none) : c ≠ '\\' := by
  rintro rfl
  cases h

-- The classes of characters in the order in which escaping tries them.
theorem escaped_escapeChar (c : Char) : Escaped c (escapeChar c) := by
  have hbound := toNat_lt c
  cases hshort : shortEscape? c with
  | some letter =>
      simp only [escapeChar, hshort]
      exact .letter (shortMeaning?_of_shortEscape? hshort)
  | none =>
      have hlong := shortMeaning?_ne hshort
      simp only [escapeChar, hshort, Bool.or_eq_true, Bool.and_eq_true, decide_eq_true_iff]
      split
      · next hcode =>
          rw [hexDigits_byte (by omega)]
          exact .byte hlong hcode
      split
      · exact .itself (ne_backslash hshort) (by omega)
      split
      · rw [unitEscape_eq (by omega)]
        exact .unit (by omega) (by omega)
      · rw [unitEscape_eq (by omega), unitEscape_eq (by omega)]
        exact .pair (by omega)

theorem escapedText_escape (s : List Char) : EscapedText s (escape s) := by
  refine ⟨s.map escapeChar, ?_, List.flatMap_def ..⟩
  rw [List.forall₂_map_right_iff]
  exact List.forall₂_same.mpr fun c _ => escaped_escapeChar c

theorem readUnits_byte {code : Nat} (h : code < 0x100) (rest : List Char) :
    readUnits ('\\' :: 'x' :: digit (code / 16) :: digit (code % 16) :: rest) =
      (readUnits rest).map (code :: ·) := by
  have hcode : 16 * (code / 16) + code % 16 = code := by omega
  simp [readUnits, hexNumber?, hexValue?_digit _ (show code / 16 < 16 by omega),
    hexValue?_digit _ (show code % 16 < 16 by omega), hcode]

theorem readUnits_unitForm {unit : Nat} (h : unit < 0x10000) (rest : List Char) :
    readUnits (unitForm unit ++ rest) = (readUnits rest).map (unit :: ·) := by
  have hunit : 16 * (16 * (16 * (unit / 0x1000) + unit / 0x100 % 16) + unit / 16 % 16) +
      unit % 16 = unit := by omega
  simp [readUnits, unitForm, hexNumber?, hexValue?_digit _ (show unit / 0x1000 < 16 by omega),
    hexValue?_digit _ (show unit / 0x100 % 16 < 16 by omega),
    hexValue?_digit _ (show unit / 16 % 16 < 16 by omega),
    hexValue?_digit _ (show unit % 16 < 16 by omega), hunit]

-- A letter of a short escape is neither of the letters that announce digits.
theorem readUnits_short {c letter : Char} (h : shortMeaning? letter = some c) (rest : List Char) :
    readUnits ('\\' :: letter :: rest) = (readUnits rest).map (c.toNat :: ·) := by
  unfold shortMeaning? at h
  split at h <;> cases h <;> simp [readUnits, shortMeaning?]

theorem readUnits_plain {c : Char} (hback : c ≠ '\\') (hplain : isPlain c = true)
    (rest : List Char) : readUnits (c :: rest) = (readUnits rest).map (c.toNat :: ·) := by
  rw [readUnits]
  · simp [hback, hplain]
  all_goals intros; simp_all

theorem readUnits_escaped {c : Char} {shown : List Char} (h : Escaped c shown) (rest : List Char) :
    readUnits (shown ++ rest) = (readUnits rest).map (units c ++ ·) := by
  have hbound := toNat_lt c
  cases h with
  | @letter letter hletter =>
      have hsmall : c.toNat ≤ 0xFFFF := by
        unfold shortMeaning? at hletter
        split at hletter <;> cases hletter <;> decide
      simpa [units, hsmall] using readUnits_short hletter rest
  | itself hback hplain =>
      have hplain' : isPlain c = true := by simpa [isPlain] using hplain
      simpa [units, show c.toNat ≤ 0xFFFF by omega] using readUnits_plain hback hplain' rest
  | byte hlong hcode =>
      simpa [units, show c.toNat ≤ 0xFFFF by omega] using readUnits_byte (by omega) rest
  | unit hlow hhigh =>
      rw [readUnits_unitForm (by omega)]
      simp [units, hhigh]
  | pair hhigh =>
      rw [List.append_assoc, readUnits_unitForm (by omega), readUnits_unitForm (by omega)]
      simp [units, show ¬c.toNat ≤ 0xFFFF by omega, Function.comp_def]

theorem readUnits_escape (s : List Char) : readUnits (escape s) = some (s.flatMap units) := by
  induction s with
  | nil => rfl
  | cons c s ih => simp [escape_cons, readUnits_escaped (escaped_escapeChar c), ih]

theorem charOf?_toNat (c : Char) : charOf? c.toNat = some c := by
  have h : c.toNat.isValidChar := c.valid
  simp [charOf?, h, Char.ofNat_toNat]

theorem not_isHighSurrogate_toNat (c : Char) : isHighSurrogate c.toNat = false := by
  have h : c.toNat.isValidChar := c.valid
  unfold Nat.isValidChar at h
  simp [isHighSurrogate]
  omega

-- A character that is a code unit of its own is no surrogate, and so it is not joined to what
-- comes after it.
theorem joinUnits_toNat (c : Char) (rest : List Nat) :
    joinUnits (c.toNat :: rest) = (joinUnits rest).map (c :: ·) := by
  cases rest with
  | nil => simp [joinUnits, charOf?_toNat]
  | cons next rest =>
      simp [joinUnits, not_isHighSurrogate_toNat, charOf?_toNat]

theorem joinUnits_units (c : Char) (rest : List Nat) :
    joinUnits (units c ++ rest) = (joinUnits rest).map (c :: ·) := by
  have hbound := toNat_lt c
  unfold units
  split
  · exact joinUnits_toNat c rest
  · have hcode : 0x10000 + (0xD800 + (c.toNat - 0x10000) / 0x400 - 0xD800) * 0x400 +
        (0xDC00 + (c.toNat - 0x10000) % 0x400 - 0xDC00) = c.toNat := by omega
    have hhigh : isHighSurrogate (0xD800 + (c.toNat - 0x10000) / 0x400) = true := by
      simp [isHighSurrogate]
      omega
    have hlow : isLowSurrogate (0xDC00 + (c.toNat - 0x10000) % 0x400) = true := by
      simp [isLowSurrogate]
      omega
    simp only [List.cons_append, List.nil_append, joinUnits, hhigh, hlow, hcode, charOf?_toNat]
    simp

-- Every text is read back from its escaped form.
theorem unescape_escape (s : List Char) : unescape (escape s) = some s := by
  simp only [unescape, readUnits_escape, Option.bind_eq_bind, Option.bind_some]
  induction s with
  | nil => rfl
  | cons c s ih => simp [joinUnits_units, ih]

theorem isPlain_of_mem_unitForm {unit : Nat} {c : Char} (hunit : unit < 0x10000)
    (h : c ∈ unitForm unit) : isPlain c = true := by
  simp only [unitForm, List.mem_cons, List.not_mem_nil, or_false] at h
  rcases h with rfl | rfl | rfl | rfl | rfl | rfl
  · rfl
  · rfl
  all_goals exact isPlain_digit _ (by omega)

theorem isPlain_of_mem_escaped {c d : Char} {shown : List Char} (h : Escaped c shown)
    (hd : d ∈ shown) : isPlain d = true := by
  have hbound := toNat_lt c
  cases h with
  | @letter letter hletter =>
      have hplain : isPlain letter = true := by
        unfold shortMeaning? at hletter
        split at hletter <;> cases hletter <;> rfl
      simp only [List.mem_cons, List.not_mem_nil, or_false] at hd
      rcases hd with rfl | rfl
      · rfl
      · exact hplain
  | itself hback hplain =>
      rw [List.mem_singleton.mp hd]
      simpa [isPlain] using hplain
  | byte hlong hcode =>
      simp only [List.mem_cons, List.not_mem_nil, or_false] at hd
      rcases hd with rfl | rfl | rfl | rfl
      · rfl
      · rfl
      all_goals exact isPlain_digit _ (by omega)
  | unit hlow hhigh => exact isPlain_of_mem_unitForm (by omega) hd
  | pair hhigh =>
      rcases List.mem_append.mp hd with hd | hd
      · exact isPlain_of_mem_unitForm (by omega) hd
      · exact isPlain_of_mem_unitForm (by omega) hd

-- What is shown of a text stays in printable ASCII and the one control after it.
theorem isPlain_of_mem_escape {s : List Char} {c : Char} (h : c ∈ escape s) : isPlain c = true := by
  obtain ⟨d, -, hd⟩ := List.mem_flatMap.mp h
  exact isPlain_of_mem_escaped (escaped_escapeChar d) hd

end ParseKit.Text
