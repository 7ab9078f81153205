import Mathlib.Data.List.Induction
import CallHierarchy.Proofs.Json.Printed

/-! Canonical values: those whose text reads back as the same value. -/

namespace CallHierarchy

namespace Dictionary

variable {α : Type}

theorem insert_of_lt {key : String} {d : Dictionary α} (h : ∀ k ∈ d.map Prod.fst, k < key)
    (value : α) : insert key value d = d ++ [(key, value)] := by
  induction d with
  | nil => rfl
  | cons e d ih =>
    obtain ⟨k, v⟩ := e
    have hk : k < key := h k (by simp)
    have hne : key ≠ k := fun heq => String.lt_irrefl k (heq ▸ hk)
    rw [insert, if_neg (String.lt_asymm hk), if_neg hne,
      ih fun k' hk' => h k' (List.mem_cons_of_mem _ hk'), List.cons_append]

/-- A row of entries whose keys increase is a dictionary as it is. -/
theorem ofList_of_pairwise {entries : List (String × α)}
    (h : (entries.map Prod.fst).Pairwise (· < ·)) : ofList entries = entries := by
  induction entries using List.reverseRecOn with
  | nil => rfl
  | append_singleton entries e ih =>
    rw [List.map_append, List.pairwise_append] at h
    obtain ⟨hentries, -, hlast⟩ := h
    have hstep : ofList (entries ++ [e]) = insert e.1 e.2 (ofList entries) := by
      rw [ofList, List.foldl_append]
      rfl
    rw [hstep, ih hentries, insert_of_lt fun k hk => hlast k hk e.1 (by simp)]

end Dictionary

namespace Json

theorem depthElements_le {vs : List Json} {n : Nat} (h : ∀ v ∈ vs, v.depth ≤ n) :
    depthElements vs ≤ n := by
  induction vs with
  | nil => exact Nat.zero_le n
  | cons v vs ih =>
    exact Nat.max_le.2 ⟨h v (by simp), ih fun w hw => h w (List.mem_cons_of_mem _ hw)⟩

theorem depthMembers_le {ms : List (String × Json)} {n : Nat} (h : ∀ m ∈ ms, m.2.depth ≤ n) :
    depthMembers ms ≤ n := by
  induction ms with
  | nil => exact Nat.zero_le n
  | cons m ms ih =>
    exact Nat.max_le.2 ⟨h m (by simp), ih fun m' hm => h m' (List.mem_cons_of_mem _ hm)⟩

/-- A value whose numbers are integers of 64 bits, whose objects have their keys in increasing
order, and in which arrays and objects stand at most `depth` deep. -/
inductive Canonical : Nat → Json → Prop
  | null {depth : Nat} : Canonical depth .null
  | bool {depth : Nat} (b : Bool) : Canonical depth (.bool b)
  | integer {depth : Nat} {n : Int} (h : Fits n) : Canonical depth (.number (.integer n))
  | string {depth : Nat} (s : String) : Canonical depth (.string s)
  | array {depth : Nat} {vs : List Json} (h : ∀ v ∈ vs, Canonical depth v) :
    Canonical (depth + 1) (.array vs)
  | object {depth : Nat} {ms : List (String × Json)} (hkeys : (ms.map Prod.fst).Pairwise (· < ·))
    (h : ∀ m ∈ ms, Canonical depth m.2) : Canonical (depth + 1) (.object ms)

namespace Canonical

variable {depth deeper : Nat} {v : Json}

theorem nat {n : Nat} (h : n < 2 ^ 64) : Canonical depth (.nat n) :=
  .integer ⟨by omega, by omega⟩

theorem integral (h : Canonical depth v) : v.Integral := by
  induction h with
  | null => exact .null
  | bool b => exact .bool b
  | integer h => exact .integer h
  | string s => exact .string s
  | array _ ih => exact .array ih
  | object _ _ ih => exact .object ih

theorem sorted_eq (h : Canonical depth v) : v.sorted = v := by
  induction h with
  | null => rfl
  | bool b => rfl
  | integer h => rfl
  | string s => rfl
  | array _ ih =>
    rw [sorted, sortedElements_eq_map, List.map_congr_left ih, List.map_id']
  | object hkeys _ ih =>
    have hmembers := List.map_congr_left fun m hm => congrArg (Prod.mk m.1) (ih m hm)
    rw [sorted, sortedMembers_eq_map, hmembers, List.map_id', Dictionary.ofList_of_pairwise hkeys]

theorem depth_le (h : Canonical depth v) : v.depth ≤ depth := by
  induction h with
  | null => exact Nat.zero_le _
  | bool b => exact Nat.zero_le _
  | integer h => exact Nat.zero_le _
  | string s => exact Nat.zero_le _
  | array _ ih => exact Nat.succ_le_succ (depthElements_le ih)
  | object _ _ ih => exact Nat.succ_le_succ (depthMembers_le ih)

theorem mono (h : Canonical depth v) (hle : depth ≤ deeper) : Canonical deeper v := by
  induction h generalizing deeper with
  | null => exact .null
  | bool b => exact .bool b
  | integer h => exact .integer h
  | string s => exact .string s
  | array _ ih =>
    obtain ⟨deeper, rfl⟩ : ∃ n, deeper = n + 1 := ⟨deeper - 1, by omega⟩
    exact .array fun v hv => ih v hv (Nat.le_of_succ_le_succ hle)
  | object hkeys _ ih =>
    obtain ⟨deeper, rfl⟩ : ∃ n, deeper = n + 1 := ⟨deeper - 1, by omega⟩
    exact .object hkeys fun m hm => ih m hm (Nat.le_of_succ_le_succ hle)

/-- An object of fields, some of which may be absent, as its keys are in order if all are there. -/
theorem ofFields {fields : List (String × Option Json)}
    (hkeys : (fields.map Prod.fst).Pairwise (· < ·))
    (h : ∀ field ∈ fields, ∀ v ∈ field.2, Canonical depth v) :
    Canonical (depth + 1) (.ofFields fields) := by
  refine .object ?_ fun m hm => ?_
  · rw [List.pairwise_map] at hkeys ⊢
    refine hkeys.filterMap _ fun field field' hlt m hm m' hm' => ?_
    obtain ⟨v, -, rfl⟩ := Option.map_eq_some_iff.1 hm
    obtain ⟨v', -, rfl⟩ := Option.map_eq_some_iff.1 hm'
    exact hlt
  · obtain ⟨field, hfield, hm⟩ := List.mem_filterMap.1 hm
    obtain ⟨v, hv, rfl⟩ := Option.map_eq_some_iff.1 hm
    exact h field hfield v hv

end Canonical

end Json

end CallHierarchy
