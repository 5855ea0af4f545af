import ParseKit.Node.Walk

namespace ParseKit

namespace WalkMode

-- The text that asks for a mode.
def name : WalkMode → String
  | before => "before"
  | after => "after"
  | both => "both"

-- The phases that a mode asks for.
def asks (mode : WalkMode) (p : Phase) : Bool :=
  match mode with
  | before => p = .before
  | after => p = .after
  | both => true

theorem ofName?_name (mode : WalkMode) : ofName? mode.name = some mode := by
  cases mode <;> rfl

theorem visits_eq_asks (mode : WalkMode) (p : Phase) : mode.visits p = mode.asks p := by
  cases mode <;> cases p <;> rfl

end WalkMode

-- Nothing, or a tree given by its root and the forest below the root, and the trees beside it.
inductive Forest (α : Type) where
  | nil
  | cons (root : α) (below beside : Forest α)
  deriving DecidableEq, Repr, Inhabited

structure Call (α : Type) where
  node : α
  depth : Nat
  phase : Phase
  deriving DecidableEq, Repr, Inhabited

namespace Call

variable {α : Type}

-- What a call says without the depth.
def mark (c : Call α) : α × Phase := (c.node, c.phase)

end Call

namespace Forest

variable {α β : Type}

def roots : Forest α → List α
  | nil => []
  | cons root _ beside => root :: beside.roots

-- All nodes, a node ahead of those below it.
def labels : Forest α → List α
  | nil => []
  | cons root below beside => root :: below.labels ++ beside.labels

def size : Forest α → Nat
  | nil => 0
  | cons _ below beside => below.size + beside.size + 1

def map (f : α → β) : Forest α → Forest β
  | nil => nil
  | cons root below beside => cons (f root) (below.map f) (beside.map f)

-- The trees of one forest, and those of another one beside them.
def append : Forest α → Forest α → Forest α
  | nil, g => g
  | cons root below beside, g => cons root below (beside.append g)

-- The calls of a walk that visits every node in both phases. The roots are at the given depth.
def calls (depth : Nat) : Forest α → List (Call α)
  | nil => []
  | cons root below beside =>
    ⟨root, depth, .before⟩ :: below.calls (depth + 1) ++
      ⟨root, depth, .after⟩ :: beside.calls depth

-- All nodes in the order of the labels, with the number of nodes above each. The roots are at the
-- given depth.
def levels (depth : Nat) : Forest α → List (α × Nat)
  | nil => []
  | cons root below beside => (root, depth) :: below.levels (depth + 1) ++ beside.levels depth

theorem roots_append (f g : Forest α) : (f.append g).roots = f.roots ++ g.roots := by
  induction f with
  | nil => rfl
  | cons root below beside _ ihs => simp only [append, roots, ihs, List.cons_append]

theorem labels_append (f g : Forest α) : (f.append g).labels = f.labels ++ g.labels := by
  induction f with
  | nil => rfl
  | cons root below beside _ ihs =>
      simp only [append, labels, ihs, List.cons_append, List.append_assoc]

theorem map_append (h : α → β) (f g : Forest α) :
    (f.append g).map h = (f.map h).append (g.map h) := by
  induction f with
  | nil => rfl
  | cons root below beside _ ihs => simp only [append, map, ihs]

theorem levels_map (g : α → β) (f : Forest α) (depth : Nat) :
    (f.map g).levels depth = (f.levels depth).map fun l => (g l.1, l.2) := by
  induction f generalizing depth with
  | nil => rfl
  | cons root below beside ihb ihs =>
      simp only [map, levels, ihb, ihs, List.cons_append, List.map_cons, List.map_append]

theorem filter_calls_before (f : Forest α) (depth : Nat) :
    (f.calls depth).filter (fun c => WalkMode.before.asks c.phase) =
      (f.levels depth).map fun l => ⟨l.1, l.2, .before⟩ := by
  induction f generalizing depth with
  | nil => rfl
  | cons root below beside ihb ihs =>
      have hopen : WalkMode.before.asks .before = true := rfl
      have hclose : WalkMode.before.asks .after = false := rfl
      simp [calls, levels, hopen, hclose, ihb, ihs]

theorem length_labels (f : Forest α) : f.labels.length = f.size := by
  induction f with
  | nil => rfl
  | cons root below beside ihb ihs =>
      simp only [labels, size, List.cons_append, List.length_cons, List.length_append, ihb, ihs]

theorem mem_labels_cons {root v : α} {below beside : Forest α} :
    v ∈ (cons root below beside).labels ↔ v = root ∨ v ∈ below.labels ∨ v ∈ beside.labels := by
  simp only [labels, List.cons_append, List.mem_cons, List.mem_append]

theorem nodup_labels_cons {root : α} {below beside : Forest α} :
    (cons root below beside).labels.Nodup ↔
      root ∉ below.labels ∧ root ∉ beside.labels ∧ below.labels.Nodup ∧ beside.labels.Nodup ∧
        ∀ v ∈ below.labels, v ∉ beside.labels := by
  have hapart : (∀ v ∈ below.labels, ∀ u ∈ beside.labels, v ≠ u) ↔
      ∀ v ∈ below.labels, v ∉ beside.labels :=
    ⟨fun h v hv hv' => h v hv v hv' rfl, fun h v hv u hu he => h v hv (he ▸ hu)⟩
  simp only [labels, List.cons_append, List.nodup_cons, List.nodup_append, List.mem_append, not_or,
    hapart, and_assoc]

theorem mem_labels_of_mem_roots {f : Forest α} {v : α} (h : v ∈ f.roots) : v ∈ f.labels := by
  induction f with
  | nil => cases h
  | cons root below beside _ ihs =>
      simp only [roots, List.mem_cons] at h
      rw [mem_labels_cons]
      rcases h with rfl | h
      · exact Or.inl rfl
      · exact Or.inr (Or.inr (ihs h))

theorem node_mem_labels {f : Forest α} {depth : Nat} {c : Call α} (h : c ∈ f.calls depth) :
    c.node ∈ f.labels := by
  induction f generalizing depth with
  | nil => simp [calls] at h
  | cons root below beside ihb ihs =>
      simp only [calls, List.cons_append, List.mem_cons, List.mem_append] at h
      rw [mem_labels_cons]
      rcases h with rfl | h | rfl | h
      · exact Or.inl rfl
      · exact Or.inr (Or.inl (ihb h))
      · exact Or.inl rfl
      · exact Or.inr (Or.inr (ihs h))

theorem nodup_marks {f : Forest α} (depth : Nat) (h : f.labels.Nodup) :
    ((f.calls depth).map Call.mark).Nodup := by
  induction f generalizing depth with
  | nil => simp [calls]
  | cons root below beside ihb ihs =>
      simp only [labels, List.cons_append, List.nodup_cons, List.mem_append, not_or,
        List.nodup_append] at h
      obtain ⟨⟨hroot, hroot'⟩, hbelow, hbeside, hdisjoint⟩ := h
      have hmem : ∀ {g : Forest α} {d : Nat} {x : α} {p : Phase},
          (x, p) ∈ (g.calls d).map Call.mark → x ∈ g.labels := by
        intro g d x p hx
        obtain ⟨c, hc, he⟩ := List.mem_map.mp hx
        have hnode : c.node = x := congrArg Prod.fst he
        exact hnode ▸ node_mem_labels hc
      simp only [calls, Call.mark, List.cons_append, List.map_cons, List.map_append,
        List.nodup_cons, List.nodup_append, List.mem_append, List.mem_cons, not_or]
      refine ⟨⟨fun hm => hroot (hmem hm), by simp, fun hm => hroot' (hmem hm)⟩,
        ihb (depth + 1) hbelow, ⟨fun hm => hroot' (hmem hm), ihs depth hbeside⟩, ?_⟩
      rintro ⟨x, p⟩ hx _ hy rfl
      rcases hy with he | hy
      · obtain ⟨rfl, rfl⟩ := Prod.mk.inj he
        exact hroot (hmem hx)
      · exact hdisjoint x (hmem hx) x (hmem hy) rfl

-- A sequence of marks behind a complete forest does not open a node.
private def Closing (marks : List (α × Phase)) : Prop := ∀ p ∈ marks.head?, p.2 = .after

private theorem closing_after (root : α) (marks : List (α × Phase)) :
    Closing ((root, .after) :: marks) := by
  simp [Closing]

-- A forest is read off the marks of its calls: a node is opened exactly where one more tree starts.
private theorem calls_prefix_unique (f g : Forest α) (d e : Nat) (rest other : List (α × Phase))
    (hrest : Closing rest) (hother : Closing other)
    (h : (f.calls d).map Call.mark ++ rest = (g.calls e).map Call.mark ++ other) :
    f = g ∧ rest = other := by
  induction f generalizing g d e rest other with
  | nil =>
      cases g with
      | nil => exact ⟨rfl, by simpa [calls] using h⟩
      | cons root below beside =>
          simp only [calls, List.map_nil, List.nil_append] at h
          simp [Closing, h, Call.mark] at hrest
  | cons root below beside ihb ihs =>
      cases g with
      | nil =>
          simp only [calls, List.map_nil, List.nil_append] at h
          simp [Closing, ← h, Call.mark] at hother
      | cons root' below' beside' =>
          simp only [calls, Call.mark, List.cons_append, List.map_cons, List.map_append,
            List.append_assoc, List.cons.injEq, Prod.mk.injEq, and_true] at h
          obtain ⟨rfl, h⟩ := h
          obtain ⟨rfl, htail⟩ := ihb below' (d + 1) (e + 1) _ _ (closing_after root _)
            (closing_after root _) h
          obtain ⟨rfl, hend⟩ := ihs beside' d e rest other hrest hother (List.cons.inj htail).2
          exact ⟨rfl, hend⟩

-- The shape of a forest is determined by the order in which its nodes are opened and closed.
theorem eq_of_marks_eq {f g : Forest α} {d e : Nat}
    (h : (f.calls d).map Call.mark = (g.calls e).map Call.mark) : f = g :=
  (calls_prefix_unique f g d e [] [] (by simp [Closing]) (by simp [Closing]) (by simpa using h)).1

-- What follows a forest in a list of nodes with depths is less deep than its roots.
private def Shallower (depth : Nat) (rest : List (α × Nat)) : Prop :=
  ∀ l ∈ rest.head?, l.2 < depth

-- A forest is read off its nodes and their depths: below a node is everything deeper that follows.
private theorem levels_prefix_unique (f g : Forest α) (depth : Nat) (rest other : List (α × Nat))
    (hrest : Shallower depth rest) (hother : Shallower depth other)
    (h : f.levels depth ++ rest = g.levels depth ++ other) : f = g ∧ rest = other := by
  induction f generalizing g depth rest other with
  | nil =>
      cases g with
      | nil => exact ⟨rfl, h⟩
      | cons root below beside =>
          rw [levels, List.nil_append] at h
          simp [Shallower, h, levels] at hrest
  | cons root below beside ihb ihs =>
      cases g with
      | nil =>
          rw [levels, levels, List.nil_append] at h
          simp [Shallower, ← h] at hother
      | cons root' below' beside' =>
          simp only [levels, List.cons_append, List.append_assoc, List.cons.injEq, Prod.mk.injEq,
            and_true] at h
          obtain ⟨rfl, h⟩ := h
          have hbeside : ∀ (b : Forest α) {r : List (α × Nat)}, Shallower depth r →
              Shallower (depth + 1) (b.levels depth ++ r) := by
            intro b r hr
            cases b with
            | nil => exact fun l hl => Nat.lt_succ_of_lt (hr l hl)
            | cons root below beside => simp [Shallower, levels]
          obtain ⟨rfl, htail⟩ := ihb below' (depth + 1) _ _ (hbeside beside hrest)
            (hbeside beside' hother) h
          obtain ⟨rfl, hend⟩ := ihs beside' depth rest other hrest hother htail
          exact ⟨rfl, hend⟩

-- The shape of a forest is determined by the depths of its nodes in order.
theorem eq_of_levels_eq {f g : Forest α} {depth : Nat} (h : f.levels depth = g.levels depth) :
    f = g :=
  (levels_prefix_unique f g depth [] [] (by simp [Shallower]) (by simp [Shallower])
    (by simpa using h)).1

theorem map_fst_levels (f : Forest α) (depth : Nat) :
    (f.levels depth).map Prod.fst = f.labels := by
  induction f generalizing depth with
  | nil => rfl
  | cons root below beside ihb ihs => simp [levels, labels, ihb, ihs]

theorem mem_labels_of_mem_levels {f : Forest α} {depth : Nat} {l : α × Nat}
    (h : l ∈ f.levels depth) : l.1 ∈ f.labels :=
  f.map_fst_levels depth ▸ List.mem_map_of_mem h

theorem exists_mem_levels {f : Forest α} {v : α} (h : v ∈ f.labels) (depth : Nat) :
    ∃ d, (v, d) ∈ f.levels depth := by
  rw [← f.map_fst_levels depth] at h
  obtain ⟨⟨_, d⟩, hl, rfl⟩ := List.mem_map.mp h
  exact ⟨d, hl⟩

end Forest

end ParseKit
