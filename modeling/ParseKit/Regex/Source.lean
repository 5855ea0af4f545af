namespace ParseKit.Regex

-- What an expression is made of and matches. Bytes are characters of the lowest code points.
inductive Alphabet where
  | characters
  | bytes
  deriving DecidableEq, Repr, Inhabited

structure Source where
  alphabet : Alphabet
  chars : List Char
  deriving DecidableEq, Repr, Inhabited

namespace Source

def ofText (text : String) : Source := ⟨.characters, text.toList⟩

def ofBytes (content : List UInt8) : Source :=
  ⟨.bytes, content.map fun b => Char.ofNat b.toNat⟩

def text (source : Source) : String := String.ofList source.chars

def bytes (source : Source) : List UInt8 := source.chars.map fun c => UInt8.ofNat c.toNat

theorem text_ofText (t : String) : (ofText t).text = t := by simp [ofText, text]

theorem bytes_ofBytes (content : List UInt8) : (ofBytes content).bytes = content := by
  simp only [ofBytes, bytes, List.map_map]
  refine (List.map_congr_left fun b _ => ?_).trans (List.map_id content)
  have hb : b.toNat < 256 := b.toNat_lt
  have hv : b.toNat.isValidChar := Or.inl (by omega)
  have hn : (Char.ofNat b.toNat).toNat = b.toNat := by
    rw [Char.ofNat, dif_pos hv]
    rfl
  simp [hn]

end Source

end ParseKit.Regex
