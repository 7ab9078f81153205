import CallHierarchy.Proofs.Json.Dictionary
import CallHierarchy.Settings.Value
import Mathlib.Data.List.Induction

/-! Values laid one over the other. As tables are joined key by key, what stands at the end of a
path is what the values at the end of that path in the tables come to (`bind_at?_laid`). Of these
the last one is left, save that tables are joined again (`laid_eq_settle`). -/

namespace CallHierarchy.Value

/-- The value at the end of a path of keys. -/
def at? : List String → Value → Option Value
  | [], v => some v
  | key :: path, v => (v.get? key).bind (at? path)

/-- What values come to that are given for one setting, in order: the last one, or if this is a
table, all of them laid one over the other. -/
def settle (vs : List Value) : Option Value :=
  match vs.getLast? with
  | some (.table _) => some (vs.foldl overlay nothing)
  | last => last

/-- Values laid, in order, over what is below. -/
def laid (below : Option Value) (vs : List Value) : Option Value :=
  vs.foldl (fun below v => some (overlay (below.getD nothing) v)) below

def table? : Value → Option (Dictionary Value)
  | table entries => some entries
  | _ => none

/-- The entries of a table. Any other value has none. -/
def entries (v : Value) : Dictionary Value := v.table?.getD []

variable {key : String} {path : List String} {old new : Value} {below : Dictionary Value}

theorem table?_eq_some_iff {v : Value} {entries : Dictionary Value} :
    v.table? = some entries ↔ v = table entries := by
  cases v <;> simp [table?]

theorem at?_singleton (key : String) (v : Value) : at? [key] v = v.get? key := by
  rw [at?]
  cases v.get? key <;> rfl

theorem get?_eq (key : String) (v : Value) : v.get? key = Dictionary.get? key v.entries := by
  cases v <;> rfl

theorem overlay_of_not_table (old : Value) (h : ∀ layer, new ≠ table layer) :
    overlay old new = new := by
  cases new with
  | table layer => exact absurd rfl (h layer)
  | _ => rfl

theorem overlay_table (old : Value) (layer : Dictionary Value) :
    overlay old (table layer) = table (overlayAll old.entries layer) := by
  cases old <;> rfl

/-! ### One table over another -/

theorem get?_overlayAll {layer : Dictionary Value} (h : (layer.map Prod.fst).Nodup)
    (below : Dictionary Value) : Dictionary.get? key (overlayAll below layer) =
      laid (below.get? key) (Dictionary.get? key layer).toList := by
  induction layer generalizing below with
  | nil => rfl
  | cons e layer ih =>
    obtain ⟨k, v⟩ := e
    obtain ⟨hnew, hlayer⟩ := List.nodup_cons.1 h
    rw [overlayAll, ih hlayer, Dictionary.get?_insert, Dictionary.get?]
    split
    · next hk =>
      subst hk
      have hnone : Dictionary.get? k layer = none := by
        refine Option.eq_none_iff_forall_ne_some.2 fun w hw => hnew ?_
        exact List.mem_map.2 ⟨(k, w), (Dictionary.get?_eq_some_iff hlayer).1 hw, rfl⟩
      rw [hnone]
      rfl
    · rfl

/-- The keys of a table stay in order when another one is laid over it. -/
theorem pairwise_overlayAll (h : (below.map Prod.fst).Pairwise (· < ·)) (layer : Dictionary Value) :
    ((overlayAll below layer).map Prod.fst).Pairwise (· < ·) := by
  induction layer generalizing below with
  | nil => exact h
  | cons e layer ih => exact ih (Dictionary.pairwise_insert h _ _)

/-! ### Any number of values -/

/-- A table in which each key stands once. -/
def IsTable (v : Value) : Prop := ∃ layer, v = table layer ∧ (layer.map Prod.fst).Nodup

/-- Whether a path, up to its last key, leads through tables. It may end before. -/
def LeadsOn : List String → Value → Prop
  | [], _ => True
  | key :: path, v => v.IsTable ∧ ∀ w, v.get? key = some w → LeadsOn path w

theorem LeadsOn.of_append {path rest : List String} {v : Value} (h : LeadsOn (path ++ rest) v) :
    LeadsOn path v := by
  induction path generalizing v with
  | nil => trivial
  | cons key path ih => exact ⟨h.1, fun w hw => ih (h.2 w hw)⟩

theorem LeadsOn.isTable_of_at? {path : List String} {v w : Value} (h : LeadsOn (path ++ [key]) v)
    (hw : v.at? path = some w) : w.IsTable := by
  induction path generalizing v with
  | nil =>
    obtain rfl := Option.some.inj hw
    exact h.1
  | cons first path ih =>
    obtain ⟨next, hnext, hw⟩ := Option.bind_eq_some_iff.1 hw
    exact ih (h.2 next hnext) hw

theorem bind_get?_laid {vs : List Value} (h : ∀ v ∈ vs, v.IsTable) (below : Option Value) :
    (laid below vs).bind (get? key) = laid (below.bind (get? key)) (vs.filterMap (get? key)) := by
  induction vs generalizing below with
  | nil => rfl
  | cons v vs ih =>
    obtain ⟨layer, rfl, hlayer⟩ := h v List.mem_cons_self
    have hbelow : Dictionary.get? key (below.getD nothing).entries = below.bind (get? key) := by
      cases below with
      | none => rfl
      | some v => exact (get?_eq key v).symm
    have hfirst : (overlay (below.getD nothing) (table layer)).get? key =
        laid (below.bind (get? key)) (Dictionary.get? key layer).toList := by
      rw [overlay_table, get?, get?_overlayAll hlayer, hbelow]
    have hstep : laid below (table layer :: vs) =
        laid (some (overlay (below.getD nothing) (table layer))) vs := rfl
    rw [hstep, ih fun w hw => h w (List.mem_cons_of_mem _ hw), Option.bind_some, hfirst,
      List.filterMap_cons, get?]
    cases Dictionary.get? key layer <;> rfl

/-- What stands at the end of a path comes from the values at its end alone. -/
theorem bind_at?_laid {vs : List Value} (h : ∀ v ∈ vs, LeadsOn path v) (below : Option Value) :
    (laid below vs).bind (at? path) = laid (below.bind (at? path)) (vs.filterMap (at? path)) := by
  -- What the first key leads to in the tables laid together are again values laid together.
  induction path generalizing vs below with
  | nil =>
    have hself : ∀ below : Option Value, below.bind (at? []) = below := fun below => by
      cases below <;> rfl
    have hall : vs.filterMap (at? []) = vs := List.filterMap_some
    rw [hself, hself, hall]
  | cons key path ih =>
    have hsplit : ∀ below : Option Value,
        below.bind (at? (key :: path)) = (below.bind (get? key)).bind (at? path) := fun below =>
      (Option.bind_assoc ..).symm
    have hpath : ∀ w ∈ vs.filterMap (get? key), LeadsOn path w := by
      intro w hw
      obtain ⟨v, hv, hget⟩ := List.mem_filterMap.1 hw
      exact (h v hv).2 w hget
    have hvalues : vs.filterMap (at? (key :: path)) =
        (vs.filterMap (get? key)).filterMap (at? path) := List.filterMap_filterMap.symm
    rw [hsplit, hsplit, bind_get?_laid fun v hv => (h v hv).1, ih hpath, hvalues]

theorem laid_append (below : Option Value) (vs ws : List Value) :
    laid below (vs ++ ws) = laid (laid below vs) ws := List.foldl_append

theorem getD_laid (below : Option Value) (vs : List Value) :
    (laid below vs).getD nothing = vs.foldl overlay (below.getD nothing) := by
  induction vs generalizing below with
  | nil => rfl
  | cons v vs ih => exact ih _

/-- Of values that are laid one over the other the last one is left, unless it is a table. -/
theorem laid_eq_settle (vs : List Value) : laid none vs = settle vs := by
  cases vs using List.reverseRecOn with
  | nil => rfl
  | append_singleton vs v =>
    have hlast : laid none (vs ++ [v]) = some (overlay ((laid none vs).getD nothing) v) :=
      laid_append none vs [v]
    rw [settle, List.getLast?_concat]
    split
    · next layer heq =>
      obtain rfl := Option.some.inj heq
      rw [hlast, getD_laid, List.foldl_append]
      rfl
    · next hscalar =>
      rw [hlast, overlay_of_not_table]
      rintro layer rfl
      exact hscalar layer rfl

theorem settle_eq_none_iff {vs : List Value} : settle vs = none ↔ vs = [] := by
  rw [settle]
  split
  · next hlast =>
    refine ⟨nofun, fun hnil => ?_⟩
    rw [hnil] at hlast
    cases hlast
  · exact List.getLast?_eq_none_iff

/-- Tables come to a table whose keys are in order. -/
theorem exists_table_of_settle {vs : List Value} (h : ∀ v ∈ vs, ∃ layer, v = table layer)
    {v : Value} (hv : settle vs = some v) :
    ∃ joined, v = table joined ∧ (joined.map Prod.fst).Pairwise (· < ·) := by
  rw [← laid_eq_settle] at hv
  induction vs using List.reverseRecOn generalizing v with
  | nil => cases hv
  | append_singleton vs last ih =>
    obtain ⟨layer, rfl⟩ := h last (List.mem_append_right _ (List.mem_singleton_self _))
    rw [laid_append] at hv
    obtain rfl := Option.some.inj hv
    rw [overlay_table]
    refine ⟨_, rfl, pairwise_overlayAll ?_ layer⟩
    cases hbelow : laid none vs with
    | none => exact List.Pairwise.nil
    | some below =>
      obtain ⟨joined, rfl, hjoined⟩ := ih (fun w hw => h w (List.mem_append_left _ hw)) hbelow
      exact hjoined

/-- A value that is not a table and lies below all others counts as the first one given. -/
theorem laid_some {v : Value} (h : ∀ layer, v ≠ table layer) (vs : List Value) :
    laid (some v) vs = settle (v :: vs) := by
  rw [← laid_eq_settle]
  have hfirst : laid none (v :: vs) = laid (some (overlay nothing v)) vs := rfl
  rw [hfirst, overlay_of_not_table nothing h]

end CallHierarchy.Value
