import Mathlib.Algebra.BigOperators.Group.Finset.Basic
import Mathlib.Algebra.GroupWithZero.Nat
import CallHierarchy.Proofs.Source.Documents

/-! What is in the groups of calls. The group of a key has the calls that pick the key, in their
order (`grouped_group`), so the groups of the callers of a function and those of the callees have
the same calls from one function to another (`mem_outgoing_iff`), and all the groups together have
each call once (`sum_groups`). -/

namespace CallHierarchy.Source.CallGraph

variable {g : CallGraph} {key : Function} {site : CallSite} {sites : List CallSite}
  {groups : List (Function × List CallSite)}

/-! ### One group -/

/-- A call goes behind the others of its group, or makes a new one. The other groups stay. -/
theorem mem_addTo_iff (h : (groups.map Prod.fst).Nodup) {k : Function} :
    (k, sites) ∈ addTo key site groups ↔
      if k = key then
        (∃ old, (key, old) ∈ groups ∧ sites = old ++ [site]) ∨
          key ∉ groups.map Prod.fst ∧ sites = [site]
      else (k, sites) ∈ groups := by
  induction groups with
  | nil => by_cases hk : k = key <;> simp [addTo, hk]
  | cons group groups ih =>
    obtain ⟨k', old⟩ := group
    obtain ⟨hnew, hgroups⟩ := List.nodup_cons.1 h
    have hnone {sites : List CallSite} : (k', sites) ∉ groups :=
      fun hmem => hnew (List.mem_map.2 ⟨_, hmem, rfl⟩)
    rw [addTo]
    by_cases hkey : k' = key
    · subst hkey
      by_cases hk : k = k'
      · subst hk
        simp [hnone]
      · simp [hk]
    · by_cases hk : k = key
      · subst hk
        simp [hkey, Ne.symm hkey, ih hgroups]
      · simp [hkey, hk, ih hgroups]

/-- Groups of calls: one for each key that a call picks, with the calls that pick it, in order. -/
structure Grouped (select : CallSite → Option Function) (calls : List CallSite)
    (groups : List (Function × List CallSite)) : Prop where
  nodup : (groups.map Prod.fst).Nodup
  mem_iff : ∀ {key sites}, (key, sites) ∈ groups ↔
    sites = calls.filter (fun s => select s = some key) ∧ sites ≠ []

variable {select : CallSite → Option Function} {calls : List CallSite}

theorem Grouped.skip (h : Grouped select calls groups) (hsite : select site = none) :
    Grouped select (calls ++ [site]) groups := by
  refine ⟨h.nodup, fun {key sites} => ?_⟩
  rw [h.mem_iff, List.filter_append, List.filter_cons_of_neg (by simp [hsite]), List.filter_nil,
    List.append_nil]

/-- There is a group for a key just where a call picks it. -/
theorem Grouped.mem_keys_iff (h : Grouped select calls groups) :
    key ∈ groups.map Prod.fst ↔ calls.filter (fun s => select s = some key) ≠ [] := by
  constructor
  · intro hmem
    obtain ⟨⟨_, sites⟩, hsites, rfl⟩ := List.mem_map.1 hmem
    obtain ⟨rfl, hne⟩ := h.mem_iff.1 hsites
    exact hne
  · intro hne
    exact List.mem_map.2 ⟨_, h.mem_iff.2 ⟨rfl, hne⟩, rfl⟩

theorem Grouped.add (h : Grouped select calls groups) (hsite : select site = some key) :
    Grouped select (calls ++ [site]) (addTo key site groups) := by
  constructor
  · rw [keys_addTo]
    split
    · exact h.nodup
    · next hnew => exact h.nodup.append (List.nodup_singleton key) (by simpa using hnew)
  · intro k sites
    rw [mem_addTo_iff h.nodup, List.filter_append]
    by_cases hk : k = key
    · subst hk
      rw [if_pos rfl, h.mem_keys_iff, List.filter_cons_of_pos (by simp [hsite]), List.filter_nil]
      constructor
      · rintro (⟨old, hold, rfl⟩ | ⟨hempty, rfl⟩)
        · obtain ⟨rfl, -⟩ := h.mem_iff.1 hold
          exact ⟨rfl, by simp⟩
        · exact ⟨by rw [not_not.1 hempty, List.nil_append], by simp⟩
      · rintro ⟨rfl, -⟩
        by_cases hempty : calls.filter (fun s => select s = some k) = []
        · exact .inr ⟨not_not.2 hempty, by rw [hempty, List.nil_append]⟩
        · exact .inl ⟨_, h.mem_iff.2 ⟨rfl, hempty⟩, rfl⟩
    · rw [if_neg hk, h.mem_iff, List.filter_cons_of_neg (by simp [hsite, Ne.symm hk]),
        List.filter_nil, List.append_nil]

theorem grouped_group (g : CallGraph) (select : CallSite → Option Function) :
    Grouped select g.calls (g.group select) := by
  unfold group
  generalize g.calls = calls
  -- The loop puts each call behind those before it, so the induction takes the last call off.
  induction calls using List.reverseRecOn with
  | nil => exact ⟨by simp, by simp⟩
  | append_singleton calls site ih =>
    rw [List.foldl_append, List.foldl_cons, List.foldl_nil]
    cases hsite : select site with
    | none => exact ih.skip hsite
    | some key => exact ih.add hsite

/-- The calls in groups are calls of the graph. -/
theorem mem_calls_of_mem_group {e : Function × List CallSite} (he : e ∈ g.group select)
    (hsite : site ∈ e.2) : site ∈ g.calls := by
  rw [((grouped_group g select).mem_iff.1 he).1] at hsite
  exact List.mem_of_mem_filter hsite

/-! ### All groups -/

theorem sum_addTo (key : Function) (site : CallSite) (groups : List (Function × List CallSite)) :
    ((addTo key site groups).map fun e => e.2.length).sum =
      (groups.map fun e => e.2.length).sum + 1 := by
  induction groups with
  | nil => rfl
  | cons group groups ih =>
    rw [addTo]
    split
    · simp only [List.map_cons, List.sum_cons, List.length_append, List.length_singleton]
      omega
    · simp only [List.map_cons, List.sum_cons, ih]
      omega

/-- The groups have as many calls as pick a key. -/
theorem sum_group (g : CallGraph) (select : CallSite → Option Function) :
    ((g.group select).map fun e => e.2.length).sum =
      g.calls.countP fun s => (select s).isSome := by
  unfold group
  generalize g.calls = calls
  induction calls using List.reverseRecOn with
  | nil => rfl
  | append_singleton calls site ih =>
    rw [List.foldl_append, List.foldl_cons, List.foldl_nil, List.countP_append, ← ih]
    cases hselect : select site with
    | none => simp [hselect]
    | some picked => simp [hselect, sum_addTo]

/-- Elements that fall to distinct places are as many as those that fall to each place, all
together. -/
theorem sum_countP {α β : Type} [DecidableEq β] {places : List β} (h : places.Nodup)
    {place : α → β} {xs : List α} (hxs : ∀ x ∈ xs, place x ∈ places) :
    (places.map fun p => xs.countP fun x => place x = p).sum = xs.length := by
  -- Both sides count the places of the elements as a multiset.
  have hcount (p : β) : (xs.countP fun x => place x = p) =
      (xs.map place : Multiset β).count p := by
    rw [Multiset.coe_count, List.count_eq_countP, List.countP_map]
    exact List.countP_congr fun x _ => by simp
  have hplaces : ∀ p ∈ (xs.map place : Multiset β), p ∈ places.toFinset := by
    intro p hp
    obtain ⟨x, hx, rfl⟩ := List.mem_map.1 (Multiset.mem_coe.1 hp)
    exact List.mem_toFinset.2 (hxs x hx)
  simp only [hcount]
  rw [← List.sum_toFinset _ h, Multiset.sum_count_eq_card hplaces, Multiset.coe_card,
    List.length_map]

/-! ### The two directions -/

theorem mem_groups_iff {direction : Direction} {f h : Function} :
    (h, sites) ∈ g.groups direction f ↔
      sites = g.calls.filter (fun s => s.near direction = f ∧ s.far direction = h) ∧
        sites ≠ [] := by
  have hselect (s : CallSite) : (if s.near direction = f then some (s.far direction) else none) =
      some h ↔ s.near direction = f ∧ s.far direction = h := by
    split <;> simp_all
  rw [groups_eq, (grouped_group g _).mem_iff]
  simp only [hselect]

theorem nodup_groups (g : CallGraph) (direction : Direction) (f : Function) :
    ((g.groups direction f).map Prod.fst).Nodup := by
  rw [groups_eq]
  exact (grouped_group g _).nodup

/-- What calls one function makes of another, the callees of the one say as the callers of the
other do. -/
theorem mem_outgoing_iff {caller callee : Function} :
    (callee, sites) ∈ g.groups .outgoing caller ↔
      (caller, sites) ∈ g.groups .incoming callee := by
  have hsame : g.calls.filter (fun s => s.caller = caller ∧ s.callee = callee) =
      g.calls.filter (fun s => s.callee = callee ∧ s.caller = caller) :=
    List.filter_congr fun s _ => decide_eq_decide.2 and_comm
  rw [mem_groups_iff, mem_groups_iff]
  exact hsame ▸ Iff.rfl

/-- The groups of all functions have each call once. -/
theorem sum_groups {fs : List Function} (hfs : fs.Nodup) (direction : Direction)
    (hcalls : ∀ s ∈ g.calls, s.near direction ∈ fs) :
    (fs.map fun f => ((g.groups direction f).map fun e => e.2.length).sum).sum =
      g.calls.length := by
  rw [← sum_countP hfs hcalls]
  refine congrArg List.sum (List.map_congr_left fun f _ => ?_)
  rw [groups_eq, sum_group]
  refine List.countP_congr fun s _ => ?_
  by_cases hnear : s.near direction = f <;> simp [hnear]

end CallHierarchy.Source.CallGraph
