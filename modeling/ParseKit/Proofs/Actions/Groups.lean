import Mathlib.Data.List.Induction
import Mathlib.Data.List.Nodup
import ParseKit.Actions.Generic

namespace ParseKit.Actions

variable {key text : String} {keys : List String} {tokens : List (String × String)}

-- The texts of the tokens whose type is a key but for case.
def textsUnder (key : String) (tokens : List (String × String)) : List String :=
  (tokens.filter fun t => Text.lowerCase t.1 = key).map Prod.snd

-- The keys of tokens, each where it first came.
def tokenKeys (tokens : List (String × String)) : List String :=
  (tokens.map fun t => Text.lowerCase t.1).eraseDups

theorem textsUnder_eq_nil (h : key ∉ tokenKeys tokens) : textsUnder key tokens = [] := by
  have hnone : ∀ t ∈ tokens, Text.lowerCase t.1 ≠ key := by
    rintro t ht rfl
    exact h (List.mem_eraseDups.mpr (List.mem_map_of_mem ht))
  simpa [textsUnder] using fun type text ht => hnone (type, text) ht

theorem textsUnder_snoc (key : String) (tokens : List (String × String)) (t : String × String) :
    textsUnder key (tokens ++ [t]) =
      if key = Text.lowerCase t.1 then textsUnder key tokens ++ [t.2]
      else textsUnder key tokens := by
  by_cases h : key = Text.lowerCase t.1
  · simp [textsUnder, List.filter_append, h]
  · simp [textsUnder, List.filter_append, h, Ne.symm h]

theorem tokenKeys_snoc (tokens : List (String × String)) (t : String × String) :
    tokenKeys (tokens ++ [t]) =
      if Text.lowerCase t.1 ∈ tokenKeys tokens then tokenKeys tokens
      else tokenKeys tokens ++ [Text.lowerCase t.1] := by
  simp only [tokenKeys, List.map_append, List.map_cons, List.map_nil, List.eraseDups_append,
    List.mem_eraseDups, List.removeAll]
  by_cases h : Text.lowerCase t.1 ∈ tokens.map fun t => Text.lowerCase t.1
  · rw [if_pos h]
    simp [h]
  · rw [if_neg h]
    simp [h, List.eraseDups_cons]

theorem nodup_tokenKeys (tokens : List (String × String)) : (tokenKeys tokens).Nodup := by
  induction tokens using List.reverseRecOn with
  | nil => exact .nil
  | append_singleton tokens t ih =>
      rw [tokenKeys_snoc]
      split
      · exact ih
      · next hnew => exact ih.append (List.nodup_singleton _) (by simpa using hnew)

-- A text is added to the group of its key, which is a new one if there was no text yet.
theorem addToGroup_map (hkeys : keys.Nodup) {texts : String → List String}
    (hnew : key ∉ keys → texts key = []) (text : String) :
    addToGroup key text (keys.map fun k => (k, texts k)) =
      (if key ∈ keys then keys else keys ++ [key]).map fun k =>
        (k, if k = key then texts k ++ [text] else texts k) := by
  induction keys with
  | nil => simp [addToGroup, hnew]
  | cons first rest ih =>
      obtain ⟨hfirst, hrest⟩ := List.nodup_cons.mp hkeys
      rw [List.map_cons, addToGroup]
      by_cases hkey : first = key
      · subst hkey
        have hothers : ∀ k ∈ rest, (k, texts k) =
            (k, if k = first then texts k ++ [text] else texts k) := by
          intro k hk
          have hne : k ≠ first := by
            rintro rfl
            exact hfirst hk
          rw [if_neg hne]
        rw [if_pos rfl, if_pos (by simp), List.map_cons, if_pos rfl, List.map_congr_left hothers]
      · have hmem : key ∈ first :: rest ↔ key ∈ rest := by
          simp [Ne.symm hkey]
        rw [if_neg hkey, ih hrest fun h => hnew (mt hmem.mp h)]
        by_cases hin : key ∈ rest
        · rw [if_pos hin, if_pos (hmem.mpr hin), List.map_cons, if_neg hkey]
        · rw [if_neg hin, if_neg (mt hmem.mp hin), List.cons_append, List.map_cons, if_neg hkey]

theorem groupTokens_snoc (tokens : List (String × String)) (t : String × String) :
    groupTokens (tokens ++ [t]) = addToGroup (Text.lowerCase t.1) t.2 (groupTokens tokens) := by
  rw [groupTokens, List.foldl_append]
  rfl

-- By induction on the tokens from the end, as the groups are made.
theorem groupTokens_eq_map (tokens : List (String × String)) :
    groupTokens tokens = (tokenKeys tokens).map fun key => (key, textsUnder key tokens) := by
  induction tokens using List.reverseRecOn with
  | nil => rfl
  | append_singleton tokens t ih =>
      rw [groupTokens_snoc, ih, addToGroup_map (nodup_tokenKeys tokens) textsUnder_eq_nil,
        tokenKeys_snoc]
      simp only [textsUnder_snoc]

theorem addToGroup_perm (key text : String) (groups : List (String × List String)) :
    ((addToGroup key text groups).flatMap Prod.snd).Perm (groups.flatMap Prod.snd ++ [text]) := by
  induction groups with
  | nil => exact .refl _
  | cons g rest ih =>
      rw [addToGroup]
      split
      · simp only [List.flatMap_cons, List.append_assoc]
        exact List.perm_append_comm.append_left g.2
      · simp only [List.flatMap_cons, List.append_assoc]
        exact ih.append_left g.2

-- No text is lost, and none comes twice.
theorem tokenGroups_perm (tokens : List (String × String)) :
    ((tokenGroups tokens).flatMap Prod.snd).Perm (tokens.map Prod.snd) := by
  have hgroups : ((groupTokens tokens).flatMap Prod.snd).Perm (tokens.map Prod.snd) := by
    induction tokens using List.reverseRecOn with
    | nil => exact .refl _
    | append_singleton tokens t ih =>
        rw [groupTokens_snoc, List.map_append]
        exact (addToGroup_perm _ _ _).trans (ih.append_right _)
  unfold tokenGroups
  split
  · exact .refl _
  · exact hgroups

theorem nodup_tokenGroups (tokens : List (String × String)) :
    ((tokenGroups tokens).map Prod.fst).Nodup := by
  unfold tokenGroups
  split
  · exact List.nodup_singleton _
  · rw [groupTokens_eq_map, List.map_map]
    simpa [Function.comp_def] using nodup_tokenKeys tokens

end ParseKit.Actions
