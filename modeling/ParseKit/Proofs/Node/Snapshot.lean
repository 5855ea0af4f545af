import ParseKit.Proofs.Node.Dump
import ParseKit.Proofs.Value.Datum
import ParseKit.Proofs.Value.Format
import ParseKit.Proofs.Value.Inspect
import ParseKit.Text.Identifier
import ParseKit.Text.Ranges

namespace ParseKit

-- The characters of words.
def Text.isWordChar (c : Char) : Bool := isLetter c || isDigit c || c == '_'

-- A text of letters, digits and underscores.
@[ext]
structure Word where
  text : String
  nonempty : text ≠ ""
  wordChars : text.toList.all Text.isWordChar = true

-- A text has no backslash in it, though one inside of a list or a dictionary may have.
def Datum.Plain : Datum → Prop
  | .text t => '\\' ∉ t.toList
  | _ => True

@[ext]
structure Field where
  name : Word
  value : Datum
  plain : value.Plain

-- What the line of a node says about the node.
@[ext]
structure Summary where
  type : Word
  fields : List Field
  line : Nat
  column : Nat

def Field.At (s : Store) (e : Value × Value) (f : Field) : Prop :=
  s.text? e.1 = some f.name.text ∧ f.value.At s e.2

def Summary.At (s : Store) (v : Value) (a : Summary) : Prop :=
  ∃ p d offset, s.get? v = some (.node p) ∧ s.text? p.type = some a.type.text ∧
    s.get? p.attributes = some (.dict d) ∧ List.Forall₂ (Field.At s) d.entries a.fields ∧
    s.get? p.position = some (.position (.int a.line) (.int a.column) offset)

-- The tree below a node, with what there is to say about its nodes.
def Store.Shows (s : Store) (root : Value) (picture : Forest Summary) : Prop :=
  ∃ (below : Forest Value) (about : Value → Summary), (Forest.cons root below .nil).In s ∧
    (Forest.cons root below .nil).labels.Nodup ∧
    (∀ v ∈ (Forest.cons root below .nil).labels, (about v).At s v) ∧
    picture = (Forest.cons root below .nil).map about

-- The text of an attribute value.
def Datum.shown : Datum → String
  | .text t => doubleQuoted t
  | d => d.json

def Field.shown (f : Field) : String := f.name.text ++ ": " ++ f.value.shown

def shownFields (fields : List Field) : String :=
  if fields.isEmpty then "" else "(" ++ ", ".intercalate (fields.map Field.shown) ++ ") "

-- The line of a node.
def Summary.shown (a : Summary) (depth : Nat) : String :=
  String.ofList (List.replicate (4 * depth) ' ') ++ a.type.text ++ " " ++ shownFields a.fields ++
    "[" ++ toString a.line ++ "/" ++ toString a.column ++ "]\n"

-- The lines of all nodes.
def Forest.shown (picture : Forest Summary) : String :=
  "".intercalate ((picture.levels 0).map fun l => l.1.shown l.2)

theorem formatValue_eq {s : Store} {v : Value} {d : Datum} (h : d.At s v) :
    s.formatValue v = .ok d.shown := by
  cases d with
  | text t =>
      have ht : s.text? v = some t := h
      rw [Store.formatValue_text ht, Datum.shown]
  | null => cases h; rfl
  | bool b => cases h; rfl
  | int i => cases h; rfl
  | list items =>
      obtain ⟨vs, hvs, -⟩ := id h
      exact Store.formatValue_json (Store.text?_of_get? hvs rfl) (by simp [hvs]) (Datum.json_eq h)
  | dict entries =>
      obtain ⟨content, hcontent, -⟩ := id h
      exact Store.formatValue_json (Store.text?_of_get? hcontent rfl) (by simp [hcontent])
        (Datum.json_eq h)

-- What reads a JSON string reads these characters too, because it takes a character behind a
-- backslash for itself and all others as they are.
theorem readJsonChar_quoteChar {c : Char} (hc : c ≠ '\\') (rest : List Char) :
    Text.readJsonChar (quoteChar c ++ rest) = some (c, rest) := by
  unfold quoteChar
  split
  · next h => rw [h]; rfl
  split
  · next h => rw [h]; rfl
  · unfold Text.readJsonChar
    split <;> simp_all

theorem quoteChar_append_ne (c : Char) (rest other : List Char) :
    quoteChar c ++ rest ≠ '"' :: other := by
  unfold quoteChar
  split <;> try simp
  split <;> simp_all

theorem Datum.toList_shown_text (t : String) : (Datum.text t).shown.toList =
    '"' :: (t.toList.flatMap quoteChar ++ ['"']) := by
  rw [Datum.shown, doubleQuoted, String.toList_ofList, List.cons_append]

theorem Datum.starts_shown (d : Datum) : d.Starts d.shown.toList := by
  cases d with
  | text t => exact ⟨'"', _, Datum.toList_shown_text t, rfl⟩
  | _ => exact Datum.starts_json _

variable {x y : List Char}

theorem Datum.shown_unique {d e : Datum} (hd : d.Plain) (he : e.Plain) (hx : Text.EndsNumber x)
    (hy : Text.EndsNumber y) (h : d.shown.toList ++ x = e.shown.toList ++ y) : d = e ∧ x = y := by
  have hkind := d.starts_shown.sameKind e.starts_shown h
  cases d with
  | text t =>
      cases e with
      | text u =>
          simp only [Datum.toList_shown_text, List.cons_append, List.append_assoc,
            List.nil_append, List.cons.injEq, true_and] at h
          obtain ⟨hchars, hrest⟩ := Text.flatMap_unique (· ≠ '\\')
            (fun _ rest hc => readJsonChar_quoteChar hc rest)
            (fun c rest other _ => quoteChar_append_ne c rest other)
            (fun _ hc => ne_of_mem_of_not_mem hc hd) (fun _ hc => ne_of_mem_of_not_mem hc he) h
          exact ⟨by rw [String.toList_inj.mp hchars], hrest⟩
      | _ => exact hkind.elim
  | _ =>
      cases e with
      | text u => exact hkind.elim
      | _ => exact Datum.json_unique _ _ hx hy h

theorem isWordChar_eq_false : Text.isWordChar ' ' = false ∧ Text.isWordChar ':' = false := by
  decide +kernel

-- A word is over with a space or a colon.
theorem Word.unique {a b : Word} {stop : Char} (hstop : Text.isWordChar stop = false)
    (h : a.text.toList ++ stop :: x = b.text.toList ++ stop :: y) : a = b ∧ x = y := by
  obtain ⟨htext, hrest⟩ := Text.span_unique (List.all_eq_true.mp a.wordChars)
    (List.all_eq_true.mp b.wordChars) (by simpa using hstop) (by simpa using hstop) h
  exact ⟨Word.ext (String.toList_inj.mp htext), (List.cons.inj hrest).2⟩

theorem Field.toList_shown (f : Field) :
    f.shown.toList = f.name.text.toList ++ ':' :: ' ' :: f.value.shown.toList := by
  simp [Field.shown]

theorem Field.shown_unique {f g : Field} (hx : Text.EndsNumber x) (hy : Text.EndsNumber y)
    (h : f.shown.toList ++ x = g.shown.toList ++ y) : f = g ∧ x = y := by
  simp only [Field.toList_shown, List.append_assoc, List.cons_append] at h
  obtain ⟨hname, hvalue⟩ := Word.unique isWordChar_eq_false.2 h
  obtain ⟨hvalue, hrest⟩ := Datum.shown_unique f.plain g.plain hx hy (List.cons.inj hvalue).2
  exact ⟨Field.ext hname hvalue, hrest⟩

-- Attributes with a comma in front of each of them.
def moreFields (fields : List Field) : List Char :=
  fields.flatMap fun f => ',' :: ' ' :: f.shown.toList

theorem moreFields_unique {a b : List Field}
    (h : moreFields a ++ ')' :: x = moreFields b ++ ')' :: y) : a = b ∧ x = y := by
  induction a generalizing b with
  | nil =>
      cases b with
      | nil => exact ⟨rfl, (List.cons.inj h).2⟩
      | cons g b => cases (List.cons.inj h).1
  | cons f a ih =>
      cases b with
      | nil => cases (List.cons.inj h).1
      | cons g b =>
          simp only [moreFields, List.flatMap_cons, List.cons_append, List.append_assoc,
            List.cons.injEq, true_and] at h
          obtain ⟨rfl, hmore⟩ := Field.shown_unique (Text.endsNumber_commas _ rfl a x)
            (Text.endsNumber_commas _ rfl b y) h
          obtain ⟨rfl, hrest⟩ := ih hmore
          exact ⟨rfl, hrest⟩

theorem toList_shownFields_cons (f : Field) (fields : List Field) :
    (shownFields (f :: fields)).toList =
      '(' :: (f.shown.toList ++ (moreFields fields ++ [')', ' '])) := by
  have hcomma := Text.toList_intercalate_cons ", " f.shown (fields.map Field.shown)
  simp only [shownFields, List.isEmpty_cons, Bool.false_eq_true, if_false,
    List.map_cons, String.toList_append, hcomma, List.flatMap_map, moreFields]
  simp

-- The attributes stand ahead of the bracket with the position.
theorem shownFields_unique {a b : List Field}
    (h : (shownFields a).toList ++ '[' :: x = (shownFields b).toList ++ '[' :: y) :
    a = b ∧ x = y := by
  have hnil : (shownFields []).toList = [] := rfl
  cases a with
  | nil =>
      cases b with
      | nil => exact ⟨rfl, (List.cons.inj h).2⟩
      | cons g b =>
          rw [hnil, toList_shownFields_cons] at h
          cases (List.cons.inj h).1
  | cons f a =>
      cases b with
      | nil =>
          rw [hnil, toList_shownFields_cons] at h
          cases (List.cons.inj h).1
      | cons g b =>
          simp only [toList_shownFields_cons, List.cons_append, List.append_assoc,
            List.cons.injEq, true_and] at h
          obtain ⟨rfl, hmore⟩ := Field.shown_unique (Text.endsNumber_commas _ rfl a _)
            (Text.endsNumber_commas _ rfl b _) h
          obtain ⟨rfl, hrest⟩ := moreFields_unique hmore
          exact ⟨rfl, by simpa using hrest⟩

theorem Summary.toList_shown (a : Summary) (depth : Nat) : (a.shown depth).toList =
    List.replicate (4 * depth) ' ' ++ (a.type.text.toList ++ ' ' ::
      ((shownFields a.fields).toList ++ '[' :: ((toString a.line).toList ++ '/' ::
        ((toString a.column).toList ++ [']', '\n'])))) := by
  simp [Summary.shown]

theorem Word.head_ne_blank (a : Word) (rest : List Char) :
    ∀ c ∈ (a.text.toList ++ rest).head?, (c == ' ') = false := by
  have hne : a.text.toList ≠ [] := by simpa using a.nonempty
  obtain ⟨c, more, hc⟩ := List.exists_cons_of_ne_nil hne
  have hword := List.all_eq_true.mp a.wordChars c (hc ▸ List.mem_cons_self)
  have hblank : c ≠ ' ' := by
    rintro rfl
    simp [isWordChar_eq_false.1] at hword
  simpa [hc] using hblank

-- Each part of a line ends with a character that it cannot go on with, so that the parts are told
-- one after the other.
theorem Summary.shown_unique {a b : Summary} {depth depth' : Nat}
    (h : (a.shown depth).toList ++ x = (b.shown depth').toList ++ y) :
    a = b ∧ depth = depth' ∧ x = y := by
  simp only [Summary.toList_shown, List.append_assoc, List.cons_append] at h
  obtain ⟨hindent, hline⟩ := Text.span_unique (p := (· == ' ')) (by simp) (by simp)
    (Word.head_ne_blank _ _) (Word.head_ne_blank _ _) h
  obtain ⟨htype, hfields⟩ := Word.unique isWordChar_eq_false.1 hline
  obtain ⟨hfields, hposition⟩ := shownFields_unique hfields
  obtain ⟨hnumber, hcolumn⟩ := Text.nat_unique (Text.endsNumber_cons rfl _)
    (Text.endsNumber_cons rfl _) hposition
  obtain ⟨hnumber', hrest⟩ := Text.nat_unique (Text.endsNumber_cons rfl _)
    (Text.endsNumber_cons rfl _) (List.cons.inj hcolumn).2
  have hdepth : depth = depth' := by
    have := congrArg List.length hindent
    simp only [List.length_replicate] at this
    omega
  exact ⟨Summary.ext htype hfields hnumber hnumber', hdepth, by simpa using hrest⟩

theorem lines_unique {l m : List (Summary × Nat)}
    (h : l.flatMap (fun p => (p.1.shown p.2).toList) =
      m.flatMap (fun p => (p.1.shown p.2).toList)) : l = m := by
  have hline : ∀ (p : Summary × Nat) (rest : List Char), (p.1.shown p.2).toList ++ rest ≠ [] := by
    intro p rest
    simp [Summary.toList_shown]
  induction l generalizing m with
  | nil =>
      cases m with
      | nil => rfl
      | cons q m => exact absurd h.symm (hline q _)
  | cons p l ih =>
      cases m with
      | nil => exact absurd h (hline p _)
      | cons q m =>
          obtain ⟨hsummary, hdepth, hrest⟩ := Summary.shown_unique h
          rw [ih hrest, Prod.ext hsummary hdepth]

-- What is shown of a tree is all that there is to say about it.
theorem Forest.shown_inj {f g : Forest Summary} (h : f.shown = g.shown) : f = g := by
  have hlines := congrArg String.toList h
  simp only [Forest.shown, Text.toList_intercalate_empty, List.flatMap_map] at hlines
  exact Forest.eq_of_levels_eq (lines_unique hlines)

namespace Node

variable {σ : Type}

theorem shownFields_eq (fields : List Field) :
    shownFields fields = fieldList (fields.map Field.shown) := by
  simp [shownFields, fieldList]

theorem lineOf_eq {s : Store} {v : Value} {a : Summary} (h : a.At s v) (depth : Nat) :
    lineOf s v depth = .ok (a.shown depth) := by
  obtain ⟨p, d, offset, hnode, htype, hd, hfields, hposition⟩ := h
  have hcontent : Content.At s v ⟨a.type.text, d.entries, .int a.line, .int a.column⟩ :=
    ⟨p, d, offset, hnode, htype, hd, rfl, hposition⟩
  have htexts : d.entries.mapM (fieldText s) = .ok (a.fields.map Field.shown) := by
    refine mapM_ok (List.forall₂_map_right_iff.mpr (hfields.imp fun e f hf => ?_))
    rw [fieldText, Store.display_of_text? hf.1, formatValue_eq hf.2]
    rfl
  rw [hcontent.lineOf, htexts, Store.display_natCast, Store.display_natCast, Summary.shown,
    shownFields_eq]
  rfl

theorem linesOf_eq {s : Store} {about : Value → Summary} {levels : List (Value × Nat)}
    (h : ∀ l ∈ levels, (about l.1).At s l.1) :
    linesOf s levels = .ok (levels.map fun l => (about l.1).shown l.2) :=
  mapM_eq_map fun l hl => lineOf_eq (h l hl) l.2

theorem dump_of_shows {w : World σ} {root : Value} {picture : Forest Summary}
    (h : w.store.Shows root picture) : dump root w = .ok picture.shown w := by
  obtain ⟨below, about, htree, hdistinct, habout, rfl⟩ := h
  rw [dump_eq htree hdistinct,
    linesOf_eq fun l hl => habout l.1 (Forest.mem_labels_of_mem_levels hl), Forest.shown,
    Forest.levels_map, List.map_map]
  rfl

-- Trees have the same dump if and only if they have the same shape, and nodes in the same place
-- have the same type, line, column and attributes.
theorem dump_identifies {w w' : World σ} {root root' : Value} {picture picture' : Forest Summary}
    (h : w.store.Shows root picture) (h' : w'.store.Shows root' picture') :
    ∃ t t', dump root w = .ok t w ∧ dump root' w' = .ok t' w' ∧ (t = t' ↔ picture = picture') :=
  ⟨_, _, dump_of_shows h, dump_of_shows h', Forest.shown_inj, congrArg Forest.shown⟩

-- A sum with the given attributes, and a leaf below it.
private def sumWith (entries : List (Value × Value)) : World Unit where
  store := ⟨#[.list [], .dict ⟨[], {}⟩, .position (.int 1) (.int 2) (.int 1),
    .node ⟨.text "Leaf", .ref 1, .ref 0, .ref 2⟩, .list [.text "y"], .list [.ref 3],
    .dict ⟨entries, {}⟩, .position (.int 1) (.int 1) (.int 0),
    .node ⟨.text "Sum", .ref 6, .ref 5, .ref 7⟩]⟩
  log := []
  client := ()

private def leafSummary : Summary where
  type := ⟨"Leaf", by decide, by decide +kernel⟩
  fields := []
  line := 1
  column := 2

private def sumSummary (fields : List Field) : Summary where
  type := ⟨"Sum", by decide, by decide +kernel⟩
  fields := fields
  line := 1
  column := 1

private def fieldA (text : String) (h : '\\' ∉ text.toList) : Field where
  name := ⟨"a", by decide, by decide +kernel⟩
  value := .text text
  plain := h

private def fieldB : Field where
  name := ⟨"b", by decide, by decide +kernel⟩
  value := .list (.cons (.text "y") .nil)
  plain := trivial

private def sumPicture (fields : List Field) : Forest Summary :=
  .cons (sumSummary fields) (.cons leafSummary .nil .nil) .nil

private theorem sumWith_shows {entries : List (Value × Value)} {fields : List Field}
    (h : List.Forall₂ (Field.At (sumWith entries).store) entries fields) :
    (sumWith entries).store.Shows (.ref 8) (sumPicture fields) := by
  refine ⟨.cons (.ref 3) .nil .nil, fun v => if v = .ref 8 then sumSummary fields else leafSummary,
    ⟨⟨.ref 5, rfl⟩, ⟨⟨.ref 0, rfl⟩, trivial, trivial⟩, trivial⟩, by decide, fun v hv => ?_, rfl⟩
  simp only [Forest.labels, List.append_nil, List.mem_cons, List.not_mem_nil, or_false] at hv
  rcases hv with rfl | rfl
  · exact ⟨_, _, .int 0, rfl, rfl, rfl, h, rfl⟩
  · exact ⟨_, _, .int 1, rfl, rfl, rfl, .nil, rfl⟩

private def twoFields : World Unit := sumWith [(.text "a", .text "x"), (.text "b", .ref 4)]

private def fieldInText : World Unit := sumWith [(.text "a", .text "x\", b: [\"y\"]")]

-- A text that looks like its own end and one more attribute is told from two attributes.
theorem dump_identifies_fieldInText :
    ∃ t t', dump (.ref 8) twoFields = .ok t twoFields ∧
      dump (.ref 8) fieldInText = .ok t' fieldInText ∧ t ≠ t' := by
  have htwo : twoFields.store.Shows (.ref 8) (sumPicture [fieldA "x" (by decide), fieldB]) :=
    sumWith_shows (.cons ⟨rfl, rfl⟩ (.cons ⟨rfl, _, rfl, _, _, rfl, rfl, rfl⟩ .nil))
  have hone : fieldInText.store.Shows (.ref 8)
      (sumPicture [fieldA "x\", b: [\"y\"]" (by decide)]) :=
    sumWith_shows (.cons ⟨rfl, rfl⟩ .nil)
  obtain ⟨t, t', ht, ht', hsame⟩ := dump_identifies htwo hone
  refine ⟨t, t', ht, ht', fun h => ?_⟩
  have hpictures := hsame.mp h
  simp [sumPicture, sumSummary] at hpictures

end Node

end ParseKit
