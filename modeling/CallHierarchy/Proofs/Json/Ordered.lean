import CallHierarchy.Json.Parser
import CallHierarchy.Proofs.Json.Dictionary
import CallHierarchy.Settings.Value

/-! Values that are read from JSON. In every table, however deep, the keys are in increasing order,
so each stands once (`ordered_of_parse?`). -/

namespace CallHierarchy

/-- Whatever a reader takes off the front of a text has a property. -/
def Yields {α : Type} (P : α → Prop) (reader : List Char → Option (α × List Char)) : Prop :=
  ∀ cs x rest, reader cs = some (x, rest) → P x

theorem Yields.exists_of_map {α β : Type} {P : α → Prop}
    {reader : List Char → Option (α × List Char)} (h : Yields P reader) {f : α → β}
    {cs rest : List Char} {y : β}
    (hread : ((reader cs).map fun (x, rest) => (f x, rest)) = some (y, rest)) :
    ∃ x, P x ∧ f x = y := by
  obtain ⟨⟨x, behind⟩, hx, heq⟩ := Option.map_eq_some_iff.1 hread
  exact ⟨x, h _ _ _ hx, (Prod.mk.inj heq).1⟩

/-- A value in which the keys of every table are in increasing order. -/
inductive Value.Ordered : Value → Prop
  | nothing : Ordered .nothing
  | bool (b : Bool) : Ordered (.bool b)
  | int (n : Int) : Ordered (.int n)
  | real (x : Binary64) : Ordered (.real x)
  | infinity (negative : Bool) : Ordered (.infinity negative)
  | notANumber : Ordered .notANumber
  | text (s : String) : Ordered (.text s)
  | array {elements : List Value} (h : ∀ v ∈ elements, Ordered v) : Ordered (.array elements)
  | table {entries : List (String × Value)} (hkeys : (entries.map Prod.fst).Pairwise (· < ·))
    (h : ∀ e ∈ entries, Ordered e.2) : Ordered (.table entries)

namespace Value.Ordered

theorem insert {entries : Dictionary Value} {v : Value} (h : Ordered (.table entries))
    (hv : Ordered v) (key : String) : Ordered (.table (entries.insert key v)) := by
  cases h with
  | table hkeys h =>
    refine .table (Dictionary.pairwise_insert hkeys key v) fun e he => ?_
    rcases Dictionary.mem_insert he with rfl | he
    · exact hv
    · exact h e he

theorem nodup {entries : Dictionary Value} (h : Ordered (.table entries)) :
    (entries.map Prod.fst).Nodup := by
  cases h with
  | table hkeys _ => exact Dictionary.nodup_of_pairwise hkeys

theorem mem_of_get? {entries : Dictionary Value} (h : Ordered (.table entries)) {key : String}
    {v : Value} (hv : (Value.table entries).get? key = some v) : (key, v) ∈ entries :=
  (Dictionary.get?_eq_some_iff h.nodup).1 hv

theorem get? {entries : Dictionary Value} (h : Ordered (.table entries)) {key : String} {v : Value}
    (hv : (Value.table entries).get? key = some v) : v.Ordered := by
  have hmem := h.mem_of_get? hv
  cases h with
  | table _ h => exact h _ hmem

end Value.Ordered

namespace Json.Reader

variable {α : Type} {P : α → Prop} {element : Reader α} {close : Char}

theorem yields_sequence (h : Yields P element) (fuel : Nat) :
    Yields (fun xs => ∀ x ∈ xs, P x) (sequence close element fuel) := by
  induction fuel with
  | zero =>
    intro cs xs rest hread
    cases hread
  | succ fuel ih =>
    intro cs xs rest hread
    obtain ⟨⟨x, behind⟩, hx, hread⟩ := Option.bind_eq_some_iff.1 hread
    dsimp only at hread
    split at hread
    · cases hread
    split at hread
    · obtain ⟨rfl, -⟩ := Prod.mk.inj (Option.some.inj hread)
      simpa using h _ _ _ hx
    split at hread
    · obtain ⟨ys, hys, rfl⟩ := ih.exists_of_map hread
      exact List.forall_mem_cons.2 ⟨h _ _ _ hx, hys⟩
    · cases hread

theorem yields_enclosed (h : Yields P element) :
    Yields (fun xs => ∀ x ∈ xs, P x) (enclosed close element) := by
  intro cs xs rest hread
  unfold enclosed at hread
  split at hread
  · cases hread
  split at hread
  · obtain ⟨rfl, -⟩ := Prod.mk.inj (Option.some.inj hread)
    exact fun _ hx => absurd hx List.not_mem_nil
  · exact yields_sequence h _ _ _ _ hread

theorem yields_member {name : Reader String} (h : Yields P element) :
    Yields (fun m => P m.2) (member name fun _ => element) := by
  intro cs m rest hread
  obtain ⟨⟨key, behind⟩, -, hread⟩ := Option.bind_eq_some_iff.1 hread
  dsimp only at hread
  split at hread
  · obtain ⟨v, hv, rfl⟩ := h.exists_of_map hread
    exact hv
  · cases hread

theorem yields_word {v : Json} (h : (Value.ofJson v).Ordered) (w : String) :
    Yields (fun v => (Value.ofJson v).Ordered) (word w v) := by
  intro cs v rest hread
  obtain ⟨behind, -, heq⟩ := Option.map_eq_some_iff.1 hread
  obtain ⟨rfl, -⟩ := Prod.mk.inj heq
  exact h

theorem yields_scalar : Yields (fun v => (Value.ofJson v).Ordered) scalar := by
  have hbool (b : Bool) : (Value.ofJson (.bool b)).Ordered := by
    rw [Value.ofJson]
    exact .bool b
  have hnull : (Value.ofJson .null).Ordered := by
    rw [Value.ofJson]
    exact .nothing
  intro cs v rest hread
  unfold scalar at hread
  split at hread
  · obtain ⟨⟨s, behind⟩, -, heq⟩ := Option.map_eq_some_iff.1 hread
    obtain ⟨rfl, -⟩ := Prod.mk.inj heq
    rw [Value.ofJson]
    exact .text s
  · exact yields_word (hbool true) _ _ _ _ hread
  · exact yields_word (hbool false) _ _ _ _ hread
  · exact yields_word hnull _ _ _ _ hread
  · obtain ⟨⟨l, behind⟩, -, hread⟩ := Option.bind_eq_some_iff.1 hread
    obtain ⟨n, -, hread⟩ := Option.bind_eq_some_iff.1 hread
    obtain ⟨rfl, -⟩ := Prod.mk.inj (Option.some.inj hread)
    cases n with
    | integer n =>
      rw [Value.ofJson]
      exact .int n
    | real x =>
      rw [Value.ofJson]
      exact .real x

theorem ordered_ofMembers {ms : List (String × Json)}
    (hkeys : (ms.map Prod.fst).Pairwise (· < ·)) (h : ∀ m ∈ ms, (Value.ofJson m.2).Ordered) :
    (Value.ofJson (.object ms)).Ordered := by
  have hmembers : Value.ofJson.ofMembers ms = ms.map fun m => (m.1, Value.ofJson m.2) := by
    clear hkeys h
    induction ms with
    | nil => rw [Value.ofJson.ofMembers, List.map_nil]
    | cons m ms ih => rw [Value.ofJson.ofMembers, ih, List.map_cons]
  rw [Value.ofJson, hmembers]
  refine .table ?_ fun e he => ?_
  · rw [List.map_map]
    exact hkeys
  · obtain ⟨m, hm, rfl⟩ := List.mem_map.1 he
    exact h m hm

theorem yields_value (depth : Nat) : Yields (fun v => (Value.ofJson v).Ordered) (value depth) := by
  unfold value
  induction depth with
  | zero =>
    intro cs v rest hread
    rw [nested] at hread
    split at hread
    · cases hread
    · cases hread
    · exact yields_scalar _ _ _ hread
  | succ depth ih =>
    intro cs v rest hread
    rw [nested] at hread
    split at hread
    · obtain ⟨vs, hvs, rfl⟩ := (yields_enclosed ih).exists_of_map hread
      rw [Value.ofJson]
      refine .array fun w hw => ?_
      obtain ⟨v, hv, rfl⟩ := List.mem_map.1 hw
      exact hvs v hv
    · obtain ⟨⟨ms, behind⟩, hms, heq⟩ := Option.map_eq_some_iff.1 hread
      obtain ⟨rfl, -⟩ := Prod.mk.inj heq
      exact ordered_ofMembers (Dictionary.pairwise_ofList ms) fun m hm =>
        yields_enclosed (yields_member ih) _ _ _ hms m (Dictionary.mem_ofList hm)
    · exact yields_scalar _ _ _ hread

end Json.Reader

theorem Json.ordered_of_parse? {s : String} {v : Json} (h : Json.parse? s = some v) :
    (Value.ofJson v).Ordered := by
  unfold Json.parse? Json.Reader.whole at h
  split at h
  · next hread =>
    split at h
    · obtain rfl := Option.some.inj h
      exact Json.Reader.yields_value _ _ _ _ hread
    · cases h
  · cases h

end CallHierarchy
