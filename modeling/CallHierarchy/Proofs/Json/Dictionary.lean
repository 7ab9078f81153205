import CallHierarchy.Json.Basic
import Mathlib.Data.List.Nodup

/-! Keys of dictionaries. Setting and taking out keep them in increasing order, so that each key
stands once and every entry is found (`get?_eq_some_iff`). -/

namespace CallHierarchy

namespace Dictionary

variable {α : Type} {d : Dictionary α} {key : String} {v : α}

theorem mem_insert {e : String × α} (h : e ∈ d.insert key v) : e = (key, v) ∨ e ∈ d := by
  induction d with
  | nil => exact .inl (List.mem_singleton.1 h)
  | cons first d ih =>
    rw [insert] at h
    split at h
    · exact List.mem_cons.1 h
    · split at h
      · exact (List.mem_cons.1 h).imp_right (List.mem_cons_of_mem _)
      · rcases List.mem_cons.1 h with rfl | h
        · exact .inr List.mem_cons_self
        · exact (ih h).imp_right (List.mem_cons_of_mem _)

theorem mem_keys_insert {k : String} (h : k ∈ (d.insert key v).map Prod.fst) :
    k = key ∨ k ∈ d.map Prod.fst := by
  obtain ⟨e, he, rfl⟩ := List.mem_map.1 h
  rcases mem_insert he with rfl | he
  · exact .inl rfl
  · exact .inr (List.mem_map_of_mem he)

/-- Keys in increasing order stay so. -/
theorem pairwise_insert (h : (d.map Prod.fst).Pairwise (· < ·)) (key : String) (v : α) :
    ((d.insert key v).map Prod.fst).Pairwise (· < ·) := by
  induction d with
  | nil => exact List.pairwise_singleton _ _
  | cons e d ih =>
    obtain ⟨k, w⟩ := e
    obtain ⟨hfirst, hd⟩ := List.pairwise_cons.1 h
    rw [insert]
    split
    · next hlt =>
      refine List.pairwise_cons.2 ⟨fun k' hk' => ?_, h⟩
      rcases List.mem_cons.1 hk' with rfl | hk'
      · exact hlt
      · exact String.lt_trans hlt (hfirst k' hk')
    · next hle =>
      split
      · next heq =>
        subst heq
        exact h
      · next hne =>
        have hlt : k < key := by
          by_contra hnot
          exact hne (String.le_antisymm (String.not_lt.1 hnot) (String.not_lt.1 hle))
        refine List.pairwise_cons.2 ⟨fun k' hk' => ?_, ih hd⟩
        rcases mem_keys_insert hk' with rfl | hk'
        · exact hlt
        · exact hfirst k' hk'

theorem pairwise_ofList (entries : List (String × α)) :
    ((ofList entries).map Prod.fst).Pairwise (· < ·) := by
  have hfold : ∀ d : Dictionary α, (d.map Prod.fst).Pairwise (· < ·) →
      ((entries.foldl (fun d e => insert e.1 e.2 d) d).map Prod.fst).Pairwise (· < ·) := by
    induction entries with
    | nil => exact fun d hd => hd
    | cons e entries ih => exact fun d hd => ih _ (pairwise_insert hd e.1 e.2)
  exact hfold [] List.Pairwise.nil

theorem mem_ofList {entries : List (String × α)} {e : String × α} (h : e ∈ ofList entries) :
    e ∈ entries := by
  have hfold : ∀ d : Dictionary α, e ∈ entries.foldl (fun d e => insert e.1 e.2 d) d →
      e ∈ entries ∨ e ∈ d := by
    clear h
    induction entries with
    | nil => exact fun d hd => .inr hd
    | cons first entries ih =>
      intro d hd
      rcases ih _ hd with he | he
      · exact .inl (List.mem_cons_of_mem _ he)
      · rcases mem_insert he with rfl | he
        · exact .inl List.mem_cons_self
        · exact .inr he
  exact (hfold [] h).resolve_right List.not_mem_nil

theorem pairwise_erase (h : (d.map Prod.fst).Pairwise (· < ·)) (key : String) :
    ((d.erase key).map Prod.fst).Pairwise (· < ·) :=
  h.sublist (List.filter_sublist.map _)

theorem nodup_of_pairwise (h : (d.map Prod.fst).Pairwise (· < ·)) : (d.map Prod.fst).Nodup := by
  refine h.imp fun {k k'} hlt heq => ?_
  rw [heq] at hlt
  exact String.lt_irrefl _ hlt

/-- In a dictionary whose keys are distinct, every entry is found. -/
theorem get?_eq_some_iff (h : (d.map Prod.fst).Nodup) : d.get? key = some v ↔ (key, v) ∈ d := by
  induction d with
  | nil => simp [get?]
  | cons e d ih =>
    obtain ⟨k, w⟩ := e
    obtain ⟨hnew, hd⟩ := List.nodup_cons.1 h
    rw [get?, List.mem_cons]
    split
    · next hk =>
      subst hk
      have hlater : (k, v) ∉ d := fun hmem => hnew (List.mem_map.2 ⟨(k, v), hmem, rfl⟩)
      simp [hlater, eq_comm]
    · next hk =>
      have hne : (key, v) ≠ (k, w) := fun heq => hk (congrArg Prod.fst heq).symm
      simp [ih hd, hne]

theorem get?_isSome_iff : (d.get? key).isSome ↔ key ∈ d.map Prod.fst := by
  induction d with
  | nil => simp [get?]
  | cons e d ih =>
    rw [get?, List.map_cons, List.mem_cons, ← ih]
    split
    · next hk => simp [hk]
    · next hk => simp [Ne.symm hk]

/-- Entries keep their keys when the values are read one by one. -/
theorem mapM_eq_some_iff {β : Type} {read : α → Option β} {d' : Dictionary β}
    (h : (d.map Prod.fst).Nodup) :
    (d.mapM fun (key, v) => (read v).map (key, ·)) = some d' ↔
      d'.map Prod.fst = d.map Prod.fst ∧
      ∀ key w, d'.get? key = some w → (d.get? key).bind read = some w := by
  induction d generalizing d' with
  | nil => cases d' <;> simp [get?]
  | cons e d ih =>
    obtain ⟨k, v⟩ := e
    obtain ⟨hnew, hd⟩ := List.nodup_cons.1 h
    rw [List.mapM_cons]
    constructor
    · intro hread
      obtain ⟨_, hfirst, hread⟩ := Option.bind_eq_some_iff.1 hread
      obtain ⟨w, hw, rfl⟩ := Option.map_eq_some_iff.1 hfirst
      obtain ⟨rest, hrest, hread⟩ := Option.bind_eq_some_iff.1 hread
      obtain rfl := Option.some.inj hread
      obtain ⟨hkeys, hvalues⟩ := (ih hd).1 hrest
      refine ⟨congrArg (k :: ·) hkeys, fun key w' hw' => ?_⟩
      rw [get?] at hw' ⊢
      split
      · next hk => rwa [if_pos hk, ← hw] at hw'
      · next hk =>
        rw [if_neg hk] at hw'
        exact hvalues key w' hw'
    · rintro ⟨hkeys, hvalues⟩
      obtain ⟨⟨k', w⟩, rest, rfl, hk, hrest⟩ := List.map_eq_cons_iff.1 hkeys
      obtain rfl : k' = k := hk
      have hw : read v = some w := by simpa [get?] using hvalues k' w
      have hread := (ih hd).2 ⟨hrest, fun key w' hw' => by
        have hne : k' ≠ key := by
          rintro rfl
          exact hnew (hrest ▸ get?_isSome_iff.1 (Option.isSome_of_mem hw'))
        simpa [get?, hne, hw'] using hvalues key w'⟩
      simp [hread, hw]

theorem erase_of_not_mem (h : key ∉ d.map Prod.fst) : d.erase key = d :=
  List.filter_eq_self.2 fun _ he => decide_eq_true fun heq => h (heq ▸ List.mem_map_of_mem he)

/-- What has been set at a key goes with it. -/
theorem erase_insert (d : Dictionary α) (key : String) (v : α) :
    (d.insert key v).erase key = d.erase key := by
  induction d with
  | nil => simp [insert, erase]
  | cons e d ih =>
    rw [insert]
    split
    · simp [erase]
    · split
      · next heq => simp [erase, heq]
      · next hne =>
        have hcons (d : Dictionary α) : erase key (e :: d) = e :: d.erase key :=
          List.filter_cons_of_pos (decide_eq_true (Ne.symm hne))
        exact (hcons _).trans ((congrArg (e :: ·) ih).trans (hcons d).symm)

end Dictionary

end CallHierarchy
