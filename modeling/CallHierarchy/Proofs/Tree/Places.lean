import Mathlib.Data.List.Basic
import CallHierarchy.Tree.Basic

/-! Where trees stand in a row of trees: the entries above each of them, from the root down. An
unfolding is a row of trees in which each entry has the entries below it that a relation gives, down
to a depth, save that a symbol is not followed below itself. There is just one such row
(`unfolds_iff`). -/

namespace CallHierarchy

theorem Entry.sameSymbol_iff {a b : Entry} :
    a.sameSymbol b = true ↔
      a.name = b.name ∧ a.path = b.path ∧ a.selectionRange = b.selectionRange := by
  simp [sameSymbol, and_assoc]

namespace Tree

/-- A tree, and the entries above it, from the root down. -/
structure Place where
  above : List Entry
  tree : Tree

mutual

/-- The places in a tree that stands below the entries `above`, in preorder. -/
def places (above : List Entry) : Tree → List Place
  | ⟨entry, children, expanded, recursive⟩ =>
    ⟨above, ⟨entry, children, expanded, recursive⟩⟩ :: placesIn (above ++ [entry]) children

/-- The places in a row of trees below the entries `above`, in preorder. -/
def placesIn (above : List Entry) : List Tree → List Place
  | [] => []
  | tree :: rest => places above tree ++ placesIn above rest

end

theorem places_eq (above : List Entry) (t : Tree) :
    places above t = ⟨above, t⟩ :: placesIn (above ++ [t.entry]) t.children := by
  cases t
  rfl

theorem placesIn_eq_flatMap (above : List Entry) (trees : List Tree) :
    placesIn above trees = trees.flatMap (places above) := by
  induction trees with
  | nil => rfl
  | cons t rest ih => rw [placesIn, ih, List.flatMap_cons]

theorem mem_placesIn {above : List Entry} {trees : List Tree} {p : Place} :
    p ∈ placesIn above trees ↔ ∃ t ∈ trees, p ∈ places above t := by
  rw [placesIn_eq_flatMap, List.mem_flatMap]

theorem mem_places {above : List Entry} {t : Tree} {p : Place} :
    p ∈ places above t ↔ p = ⟨above, t⟩ ∨ p ∈ placesIn (above ++ [t.entry]) t.children := by
  rw [places_eq, List.mem_cons]

theorem mem_placesIn_self (above : List Entry) {trees : List Tree} {t : Tree} (h : t ∈ trees) :
    ⟨above, t⟩ ∈ placesIn above trees :=
  mem_placesIn.2 ⟨t, h, mem_places.2 (.inl rfl)⟩

theorem mem_placesIn_children {above : List Entry} {trees : List Tree} {t : Tree} {p : Place}
    (h : t ∈ trees) (hp : p ∈ placesIn (above ++ [t.entry]) t.children) :
    p ∈ placesIn above trees :=
  mem_placesIn.2 ⟨t, h, mem_places.2 (.inr hp)⟩

/-- The trees of a row below the entries `above` unfold the relation `next`. -/
structure Unfolds (next : Entry → List Entry) (depth : Nat) (above entries : List Entry)
    (trees : List Tree) : Prop where
  entries : trees.map entry = entries
  /-- An entry recurs if it is the same symbol as one above it. -/
  recursive_iff : ∀ p ∈ placesIn above trees, p.tree.recursive = true ↔
    ∃ a ∈ p.above, a.name = p.tree.entry.name ∧ a.path = p.tree.entry.path ∧
      a.selectionRange = p.tree.entry.selectionRange
  expanded_iff : ∀ p ∈ placesIn above trees, p.tree.expanded = true ↔
    p.above.length < depth ∧ p.tree.recursive = false
  children : ∀ p ∈ placesIn above trees,
    p.tree.children.map entry = if p.tree.expanded then next p.tree.entry else []

/-- The tree of an entry down to `depth` levels below it. -/
def unfold (next : Entry → List Entry) : Nat → List Entry → Entry → Tree
  | 0, above, entry => ⟨entry, [], false, recurs above entry⟩
  | depth + 1, above, entry =>
    if recurs above entry then ⟨entry, [], false, true⟩
    else ⟨entry, (next entry).map (unfold next depth (above ++ [entry])), true, false⟩

variable {next : Entry → List Entry} {depth : Nat} {above entries : List Entry} {e : Entry}

theorem recurs_iff : recurs above e = true ↔
    ∃ a ∈ above, a.name = e.name ∧ a.path = e.path ∧
      a.selectionRange = e.selectionRange := by
  simp [recurs, Entry.sameSymbol_iff]

@[simp] theorem unfold_entry : (unfold next depth above e).entry = e := by
  cases depth with
  | zero => rfl
  | succ depth =>
    rw [unfold]
    split <;> rfl

theorem map_entry_unfold : (entries.map (unfold next depth above)).map Tree.entry = entries := by
  rw [List.map_map]
  exact List.map_id'' (fun _ => unfold_entry) entries

theorem unfold_recursive : (unfold next depth above e).recursive = recurs above e := by
  cases depth with
  | zero => rfl
  | succ depth =>
    rw [unfold]
    split
    · next h => exact h.symm
    · next h => exact (Bool.eq_false_iff.2 h).symm

theorem unfold_expanded :
    (unfold next depth above e).expanded = (decide (0 < depth) && !recurs above e) := by
  cases depth with
  | zero => rfl
  | succ depth =>
    rw [unfold]
    split
    · next h => simp [h]
    · next h => simp [h]

/-- Below an entry the unfolding goes on one level less deep. -/
theorem unfold_children : (unfold next depth above e).children =
    if (unfold next depth above e).expanded then
      (next e).map (unfold next (depth - 1) (above ++ [e]))
    else [] := by
  cases depth with
  | zero => rfl
  | succ depth =>
    rw [unfold]
    split <;> rfl

/-- What holds of the entries of a row, and goes over from an entry that is followed to the entries
below it, holds at every place of the unfolding. There the tree is an unfolding itself. -/
theorem exists_unfold_of_mem {motive : Nat → List Entry → Entry → Prop}
    (root : ∀ e ∈ entries, motive depth above e)
    (step : ∀ k above e, motive (k + 1) above e → recurs above e = false →
      ∀ e' ∈ next e, motive k (above ++ [e]) e')
    {p : Place} (hp : p ∈ placesIn above (entries.map (unfold next depth above))) :
    ∃ k, p.tree = unfold next k p.above p.tree.entry ∧ motive k p.above p.tree.entry := by
  induction depth generalizing above entries with
  | zero =>
    obtain ⟨t, ht, hp⟩ := mem_placesIn.1 hp
    obtain ⟨e, he, rfl⟩ := List.mem_map.1 ht
    rcases mem_places.1 hp with rfl | hp
    · exact ⟨0, by rw [unfold_entry], by simpa using root e he⟩
    · simp [unfold, placesIn] at hp
  | succ depth ih =>
    obtain ⟨t, ht, hp⟩ := mem_placesIn.1 hp
    obtain ⟨e, he, rfl⟩ := List.mem_map.1 ht
    rcases mem_places.1 hp with rfl | hp
    · exact ⟨depth + 1, by rw [unfold_entry], by simpa using root e he⟩
    · rw [unfold_entry, unfold] at hp
      split at hp
      · simp [placesIn] at hp
      · next hrec =>
        exact ih (step depth above e (root e he) (Bool.eq_false_iff.2 hrec)) hp

theorem unfolds_unfold :
    Unfolds next (above.length + depth) above entries (entries.map (unfold next depth above)) := by
  have hplace : ∀ p ∈ placesIn above (entries.map (unfold next depth above)),
      ∃ k, p.tree = unfold next k p.above p.tree.entry ∧
        p.above.length + k = above.length + depth := fun p hp =>
    exists_unfold_of_mem (motive := fun k path _ => path.length + k = above.length + depth)
      (fun _ _ => rfl)
      (fun k path e hk _ _ _ => by rw [List.length_append, List.length_singleton]; omega) hp
  refine ⟨map_entry_unfold, fun p hp => ?_, fun p hp => ?_, fun p hp => ?_⟩
  · obtain ⟨k, htree, _⟩ := hplace p hp
    rw [htree, unfold_recursive, unfold_entry]
    exact recurs_iff
  · obtain ⟨k, htree, hk⟩ := hplace p hp
    have hlt : 0 < k ↔ p.above.length < above.length + depth := by omega
    rw [htree, unfold_expanded, unfold_recursive]
    simp [hlt]
  · obtain ⟨k, htree, _⟩ := hplace p hp
    rw [htree, unfold_children, unfold_entry]
    split
    · exact map_entry_unfold
    · rfl

theorem unfolds_unfold_root :
    Unfolds next depth [] entries (entries.map (unfold next depth [])) := by
  have h : Unfolds next (([] : List Entry).length + depth) [] entries
      (entries.map (unfold next depth [])) := unfolds_unfold
  rwa [List.length_nil, Nat.zero_add] at h

/-- An unfolding of a row holds an unfolding of the row below each of its entries. -/
theorem Unfolds.below {trees : List Tree} {t : Tree} (h : Unfolds next depth above entries trees)
    (ht : t ∈ trees) (hexpanded : t.expanded = true) :
    Unfolds next depth (above ++ [t.entry]) (next t.entry) t.children := by
  have hplaces : ∀ p ∈ placesIn (above ++ [t.entry]) t.children, p ∈ placesIn above trees :=
    fun p hp => mem_placesIn_children ht hp
  have hchildren := h.children _ (mem_placesIn_self above ht)
  simp only [hexpanded, if_true] at hchildren
  exact ⟨hchildren, fun p hp => h.recursive_iff p (hplaces p hp),
    fun p hp => h.expanded_iff p (hplaces p hp), fun p hp => h.children p (hplaces p hp)⟩

/-- A tree in an unfolding is told by its entry and by what stands below it. -/
theorem Unfolds.eq_mk {trees : List Tree} {t : Tree}
    (h : Unfolds next (above.length + depth) above entries trees) (ht : t ∈ trees) :
    t = ⟨t.entry, if t.expanded then t.children else [], decide (0 < depth) && !t.recursive,
      recurs above t.entry⟩ := by
  have hplace := mem_placesIn_self above ht
  have hrecursive : t.recursive = recurs above t.entry :=
    Bool.eq_iff_iff.2 ((h.recursive_iff _ hplace).trans recurs_iff.symm)
  have hexpanded : t.expanded = (decide (0 < depth) && !t.recursive) := by
    have hiff := h.expanded_iff _ hplace
    simp only [Nat.lt_add_right_iff_pos] at hiff
    rw [Bool.eq_iff_iff, hiff]
    simp
  have hchildren := h.children _ hplace
  obtain ⟨e, children, expanded, recursive⟩ := t
  simp only at hrecursive hexpanded hchildren ⊢
  rw [← hexpanded, ← hrecursive]
  cases expanded with
  | true => rfl
  | false =>
    have hnil : children = [] := by simpa using hchildren
    rw [hnil, if_neg Bool.false_ne_true]

theorem eq_map_of_entry {trees : List Tree} {f : Entry → Tree}
    (hentries : trees.map Tree.entry = entries) (h : ∀ t ∈ trees, f t.entry = t) :
    trees = entries.map f := by
  rw [← hentries, List.map_map]
  exact ((List.map_congr_left h).trans (List.map_id trees)).symm

/-- There is one unfolding. -/
theorem unfolds_iff {trees : List Tree} :
    Unfolds next (above.length + depth) above entries trees ↔
      trees = entries.map (unfold next depth above) := by
  refine ⟨fun h => ?_, fun h => h ▸ unfolds_unfold⟩
  -- The induction is on the depth that is left below the row.
  induction depth generalizing above entries trees with
  | zero =>
    refine eq_map_of_entry h.entries fun t ht => ?_
    have heq := h.eq_mk ht
    have hclosed : t.expanded = false := congrArg Tree.expanded heq
    rw [hclosed] at heq
    exact heq.symm
  | succ depth ih =>
    refine eq_map_of_entry h.entries fun t ht => ?_
    have heq := h.eq_mk ht
    have hrecursive : t.recursive = recurs above t.entry := congrArg Tree.recursive heq
    have hexpanded : t.expanded = !t.recursive := by simpa using congrArg Tree.expanded heq
    rw [unfold]
    split
    · next hrec =>
      rw [hexpanded, hrecursive, hrec] at heq
      simpa using heq.symm
    · next hrec =>
      rw [hrecursive, Bool.eq_false_iff.2 hrec] at hexpanded
      have hlength : above.length + (depth + 1) = (above ++ [t.entry]).length + depth := by
        rw [List.length_append, List.length_singleton]
        omega
      rw [← ih (hlength ▸ h.below ht hexpanded)]
      rw [hexpanded, hrecursive, Bool.eq_false_iff.2 hrec] at heq
      simpa using heq.symm

end Tree

end CallHierarchy
