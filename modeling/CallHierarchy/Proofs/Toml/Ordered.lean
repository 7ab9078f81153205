import CallHierarchy.Proofs.Json.Ordered
import CallHierarchy.Toml.Parser
import Mathlib.Data.Option.Basic

/-! Values that are read from TOML. A value that is written down is in order by itself, and each
line of a document keeps in order what stands in the tables so far (`Entries.Sound`). So every table
of the result, however deep, has its keys in increasing order (`ordered_of_parse?`). -/

namespace CallHierarchy

namespace Toml

variable {α : Type} {P : α → Prop} {item : Reader α} {close : Char}

theorem yields_items (h : Yields P item) (fuel : Nat) :
    Yields (fun xs => ∀ x ∈ xs, P x) (items close item fuel) := by
  induction fuel with
  | zero =>
    intro cs xs rest hread
    cases hread
  | succ fuel ih =>
    intro cs xs rest hread
    obtain ⟨cs', -, hread⟩ := Option.bind_eq_some_iff.1 hread
    dsimp only at hread
    split at hread
    · cases hread
    split at hread
    · obtain ⟨rfl, -⟩ := Prod.mk.inj (Option.some.inj hread)
      exact fun _ hx => absurd hx List.not_mem_nil
    obtain ⟨⟨x, behind⟩, hx, hread⟩ := Option.bind_eq_some_iff.1 hread
    obtain ⟨behind', -, hread⟩ := Option.bind_eq_some_iff.1 hread
    dsimp only at hread
    split at hread
    · cases hread
    split at hread
    · obtain ⟨rfl, -⟩ := Prod.mk.inj (Option.some.inj hread)
      simpa using h _ _ _ hx
    split at hread
    · obtain ⟨ys, hys, rfl⟩ := ih.exists_of_map hread
      exact List.forall_mem_cons.2 ⟨h _ _ _ hx, hys⟩
    · cases hread

theorem yields_assignment {P : Value → Prop} {value : Reader Value} (h : Yields P value)
    (skip : List Char → Option (List Char)) :
    Yields (fun a => P a.2) (assignment skip value) := by
  intro cs a rest hread
  obtain ⟨⟨parts, behind⟩, -, hread⟩ := Option.bind_eq_some_iff.1 hread
  obtain ⟨behind', -, hread⟩ := Option.bind_eq_some_iff.1 hread
  dsimp only at hread
  split at hread
  · obtain ⟨behind'', -, hread⟩ := Option.bind_eq_some_iff.1 hread
    obtain ⟨v, hv, rfl⟩ := h.exists_of_map hread
    exact hv
  · cases hread

/-! ### Values that are neither arrays nor tables -/

theorem ordered_of_inRange? {n : Int} {v : Value} (h : inRange? n = some v) : v.Ordered := by
  unfold inRange? at h
  split at h
  · obtain rfl := Option.some.inj h
    exact .int n
  · cases h

theorem ordered_of_integer? {cs : List Char} {v : Value} (h : integer? cs = some v) :
    v.Ordered := by
  unfold integer? at h
  split at h
  all_goals
    obtain ⟨n, -, h⟩ := Option.bind_eq_some_iff.1 h
    exact ordered_of_inRange? h

theorem ordered_of_real? {cs : List Char} {v : Value} (h : real? cs = some v) : v.Ordered := by
  unfold real? at h
  dsimp only at h
  split at h
  · obtain rfl := Option.some.inj h
    exact .infinity _
  split at h
  · obtain rfl := Option.some.inj h
    exact .notANumber
  split at h
  · cases h
  obtain ⟨⟨before, exponent⟩, -, h⟩ := Option.bind_eq_some_iff.1 h
  dsimp only at h
  split at h
  all_goals
    obtain ⟨⟨whole, fraction⟩, -, h⟩ := Option.bind_eq_some_iff.1 h
    obtain ⟨ds, -, h⟩ := Option.bind_eq_some_iff.1 h
    obtain ⟨x, -, rfl⟩ := Option.map_eq_some_iff.1 h
    exact .real x

theorem ordered_of_moment? {cs : List Char} {v : Value} (h : moment? cs = some v) : v.Ordered := by
  have htext {text : Option (List Char)}
      (h : (text.bind fun text => some (.text (String.ofList text))) = some v) : v.Ordered := by
    obtain ⟨text, -, h⟩ := Option.bind_eq_some_iff.1 h
    obtain rfl := Option.some.inj h
    exact .text _
  unfold moment? at h
  split at h
  · exact htext h
  · exact htext h
  obtain ⟨date, -, h⟩ := Option.bind_eq_some_iff.1 h
  dsimp only at h
  split at h
  · split at h
    · exact htext h
    · cases h
  · cases h

theorem yields_word : Yields Value.Ordered word := by
  intro cs v rest hread
  unfold word at hread
  generalize cutWord cs = cut at hread
  obtain ⟨w, behind⟩ := cut
  obtain ⟨v, hw, heq⟩ := Option.map_eq_some_iff.1 hread
  obtain ⟨rfl, -⟩ := Prod.mk.inj heq
  split at hw
  · obtain rfl := Option.some.inj hw
    exact .bool true
  split at hw
  · obtain rfl := Option.some.inj hw
    exact .bool false
  rcases (Option.orElse_eq_some ..).1 hw with hinteger | ⟨-, hw⟩
  · exact ordered_of_integer? hinteger
  rcases (Option.orElse_eq_some ..).1 hw with hreal | ⟨-, hmoment⟩
  · exact ordered_of_real? hreal
  · exact ordered_of_moment? hmoment

/-! ### Tables while they are being written down -/

end Toml

/-- What stands at a key has its values in order. -/
inductive Toml.Entry.Sound : Toml.Entry → Prop
  | value {v : Value} (h : v.Ordered) : Sound (.value v)
  | table {origin : Origin} {entries : Entries} (h : ∀ e ∈ entries, Sound e.2) :
    Sound (.table origin entries)
  | tables {rows : List Entries} (h : ∀ row ∈ rows, ∀ e ∈ row, Sound e.2) : Sound (.tables rows)

namespace Toml

def Entries.Sound (es : Entries) : Prop := ∀ e ∈ es, e.2.Sound

/-- A change of what stands at a key, if anything does, that leaves something sound there. -/
def Entry.Keeps (change : Option Entry → Option Entry) : Prop :=
  ∀ old e, (∀ x ∈ old, x.Sound) → change old = some e → e.Sound

namespace Entries

variable {es es' : Entries} {e : Entry} {v : Value}

theorem sound_nil : Sound [] := fun _ he => absurd he List.not_mem_nil

theorem Sound.put (h : Sound es) (he : e.Sound) (key : String) : Sound (es.put key e) := by
  induction es with
  | nil => simpa [Entries.put, Sound] using he
  | cons first es ih =>
    obtain ⟨k, old⟩ := first
    obtain ⟨hold, hes⟩ := List.forall_mem_cons.1 h
    rw [Entries.put]
    split
    · exact List.forall_mem_cons.2 ⟨he, hes⟩
    · exact List.forall_mem_cons.2 ⟨hold, ih hes⟩

theorem Sound.find? (h : Sound es) {key : String} (he : es.find? key = some e) : e.Sound := by
  induction es with
  | nil => cases he
  | cons first es ih =>
    obtain ⟨hfirst, hes⟩ := List.forall_mem_cons.1 h
    rw [Entries.find?, List.lookup_cons] at he
    split at he
    · obtain rfl := Option.some.inj he
      exact hfirst
    · exact ih hes he

theorem Sound.assign (h : Sound es) (hv : v.Ordered) {parts : List String}
    (heq : es.assign v parts = some es') : Sound es' := by
  induction parts generalizing es es' with
  | nil => cases heq
  | cons key rest ih =>
    cases rest with
    | nil =>
      rw [Entries.assign] at heq
      split at heq
      · cases heq
      · obtain rfl := Option.some.inj heq
        exact h.put (.value hv) key
    | cons second rest =>
      rw [Entries.assign] at heq
      · split at heq
        · obtain ⟨sub, hsub, rfl⟩ := Option.map_eq_some_iff.1 heq
          exact h.put (.table (ih sound_nil hsub)) key
        · next old hfind =>
          obtain ⟨sub, hsub, rfl⟩ := Option.map_eq_some_iff.1 heq
          cases h.find? hfind with
          | table hold => exact h.put (.table (ih hold hsub)) key
        · cases heq
      · exact List.cons_ne_nil _ _

theorem Sound.through {last : Option Entry → Option Entry} (hlast : Entry.Keeps last)
    (h : Sound es) {header : List String} (heq : es.through last header = some es') :
    Sound es' := by
  induction header generalizing es es' with
  | nil => cases heq
  | cons key rest ih =>
    cases rest with
    | nil =>
      rw [Entries.through] at heq
      obtain ⟨e, he, rfl⟩ := Option.map_eq_some_iff.1 heq
      exact h.put (hlast _ e (fun x hx => h.find? hx) he) key
    | cons second rest =>
      rw [Entries.through] at heq
      · split at heq
        · obtain ⟨sub, hsub, rfl⟩ := Option.map_eq_some_iff.1 heq
          exact h.put (.table (ih sound_nil hsub)) key
        · next hfind =>
          obtain ⟨sub, hsub, rfl⟩ := Option.map_eq_some_iff.1 heq
          cases h.find? hfind with
          | table hold => exact h.put (.table (ih hold hsub)) key
        · next hfind =>
          obtain ⟨row', hrow, rfl⟩ := Option.map_eq_some_iff.1 heq
          cases h.find? hfind with
          | tables hrows =>
            obtain ⟨hfirst, hothers⟩ := List.forall_mem_cons.1 hrows
            exact h.put (.tables (List.forall_mem_cons.2 ⟨ih hfirst hrow, hothers⟩)) key
        · cases heq
      · exact List.cons_ne_nil _ _

end Entries

theorem ordered_entriesToValues {es : Entries} (h : ∀ e ∈ es, e.2.toValue.Ordered) :
    (Value.table (entriesToValues es)).Ordered := by
  induction es with
  | nil => exact .table List.Pairwise.nil fun _ he => absurd he List.not_mem_nil
  | cons e es ih =>
    obtain ⟨he, hes⟩ := List.forall_mem_cons.1 h
    rw [entriesToValues]
    exact (ih hes).insert he e.1

theorem ordered_of_mem_rowsToValues {rows : List Entries} {v : Value}
    (h : ∀ row ∈ rows, ∀ e ∈ row, e.2.toValue.Ordered) (hv : v ∈ rowsToValues rows) :
    v.Ordered := by
  induction rows with
  | nil => cases hv
  | cons row rows ih =>
    obtain ⟨hrow, hrows⟩ := List.forall_mem_cons.1 h
    rw [rowsToValues] at hv
    rcases List.mem_cons.1 hv with rfl | hv
    · exact ordered_entriesToValues hrow
    · exact ih hrows hv

theorem Entry.Sound.toValue {e : Entry} (h : e.Sound) : e.toValue.Ordered := by
  induction h with
  | value h =>
    rw [Entry.toValue]
    exact h
  | table _ ih =>
    rw [Entry.toValue]
    exact ordered_entriesToValues ih
  | tables _ ih =>
    rw [Entry.toValue]
    exact .array fun v hv => ordered_of_mem_rowsToValues ih (List.mem_reverse.1 hv)

theorem ordered_of_inlineTable? {assignments : List (List String × Value)} {v : Value}
    (h : ∀ a ∈ assignments, a.2.Ordered) (hv : inlineTable? assignments = some v) :
    v.Ordered := by
  have hfold : ∀ es es' : Entries, Entries.Sound es →
      assignments.foldlM (fun (es : Entries) a => es.assign a.2 a.1) es = some es' →
      Entries.Sound es' := by
    clear hv
    induction assignments with
    | nil =>
      intro es es' hes heq
      obtain rfl := Option.some.inj heq
      exact hes
    | cons a assignments ih =>
      obtain ⟨ha, hassignments⟩ := List.forall_mem_cons.1 h
      intro es es' hes heq
      rw [List.foldlM_cons] at heq
      obtain ⟨mid, hmid, heq⟩ := Option.bind_eq_some_iff.1 heq
      exact ih hassignments mid es' (hes.assign ha hmid) heq
  obtain ⟨entries, hentries, hv⟩ := Option.bind_eq_some_iff.1 hv
  obtain rfl := Option.some.inj hv
  exact (Entry.Sound.table (hfold [] entries Entries.sound_nil hentries)).toValue

theorem yields_value (depth : Nat) : Yields Value.Ordered (value depth) := by
  have hstring {cs : List Char} {v : Value} {rest : List Char}
      (h : ((string cs).map fun read => (Value.text read.1, read.2)) = some (v, rest)) :
      v.Ordered := by
    obtain ⟨⟨s, behind⟩, -, heq⟩ := Option.map_eq_some_iff.1 h
    obtain ⟨rfl, -⟩ := Prod.mk.inj heq
    exact .text s
  induction depth using Nat.strongRecOn with
  | _ depth ih =>
    intro cs v rest hread
    unfold value at hread
    split at hread
    · obtain ⟨vs, hvs, rfl⟩ := (yields_items (ih _ (Nat.lt_succ_self _)) _).exists_of_map hread
      exact .array hvs
    · obtain ⟨⟨assignments, behind⟩, hassignments, hread⟩ := Option.bind_eq_some_iff.1 hread
      obtain ⟨v, hv, heq⟩ := Option.map_eq_some_iff.1 hread
      obtain ⟨rfl, -⟩ := Prod.mk.inj heq
      refine ordered_of_inlineTable? ?_ hv
      exact yields_items (yields_assignment (ih _ (Nat.lt_succ_self _)) _) _ _ _ _ hassignments
    · exact hstring hread
    · split at hread
      · exact hstring hread
      · exact yields_word _ _ _ hread
    · cases hread

/-! ### Documents -/

theorem keeps_openTable : Entry.Keeps Entries.openTable := by
  intro old e h heq
  unfold Entries.openTable at heq
  split at heq
  · obtain rfl := Option.some.inj heq
    exact .table Entries.sound_nil
  · obtain rfl := Option.some.inj heq
    cases h _ rfl with
    | table h => exact .table h
  · cases heq

theorem keeps_openRow : Entry.Keeps Entries.openRow := by
  intro old e h heq
  unfold Entries.openRow at heq
  split at heq
  · obtain rfl := Option.some.inj heq
    exact .tables (List.forall_mem_singleton.2 Entries.sound_nil)
  · obtain rfl := Option.some.inj heq
    cases h _ rfl with
    | tables h => exact .tables (List.forall_mem_cons.2 ⟨Entries.sound_nil, h⟩)
  · cases heq

theorem keeps_assignIn {v : Value} (hv : v.Ordered) (parts : List String) :
    Entry.Keeps (Entries.assignIn parts v) := by
  intro old e h heq
  unfold Entries.assignIn at heq
  split at heq
  · obtain ⟨sub, hsub, rfl⟩ := Option.map_eq_some_iff.1 heq
    cases h _ rfl with
    | table h => exact .table (Entries.Sound.assign h hv hsub)
  · obtain ⟨row, hrow, rfl⟩ := Option.map_eq_some_iff.1 heq
    cases h _ rfl with
    | tables h =>
      obtain ⟨hfirst, hothers⟩ := List.forall_mem_cons.1 h
      exact .tables (List.forall_mem_cons.2 ⟨Entries.Sound.assign hfirst hv hrow, hothers⟩)
  · cases heq

variable {p p' : Progress} {cs rest : List Char}

theorem sound_enter {last : Option Entry → Option Entry} (hlast : Entry.Keeps last)
    {header : List String} (h : p.entries.Sound) (heq : p.enter last header = some p') :
    p'.entries.Sound := by
  obtain ⟨entries, hentries, heq⟩ := Option.bind_eq_some_iff.1 heq
  obtain rfl := Option.some.inj heq
  exact h.through hlast hentries

theorem sound_progress_assign {parts : List String} {v : Value} (hv : v.Ordered)
    (h : p.entries.Sound) (heq : p.assign parts v = some p') : p'.entries.Sound := by
  unfold Progress.assign at heq
  split at heq
  · obtain ⟨entries, hentries, heq⟩ := Option.bind_eq_some_iff.1 heq
    obtain rfl := Option.some.inj heq
    exact h.assign hv hentries
  · obtain ⟨entries, hentries, heq⟩ := Option.bind_eq_some_iff.1 heq
    obtain rfl := Option.some.inj heq
    exact h.through (keeps_assignIn hv _) hentries

theorem sound_statement (h : p.entries.Sound) (heq : statement p cs = some (p', rest)) :
    p'.entries.Sound := by
  unfold statement at heq
  split at heq
  · obtain ⟨⟨header, behind⟩, -, heq⟩ := Option.bind_eq_some_iff.1 heq
    dsimp only at heq
    split at heq
    · obtain ⟨q, hq, heq⟩ := Option.bind_eq_some_iff.1 heq
      obtain ⟨rfl, -⟩ := Prod.mk.inj (Option.some.inj heq)
      exact sound_enter keeps_openRow h hq
    · cases heq
  · obtain ⟨⟨header, behind⟩, -, heq⟩ := Option.bind_eq_some_iff.1 heq
    dsimp only at heq
    split at heq
    · obtain ⟨q, hq, heq⟩ := Option.bind_eq_some_iff.1 heq
      obtain ⟨rfl, -⟩ := Prod.mk.inj (Option.some.inj heq)
      exact sound_enter keeps_openTable h hq
    · cases heq
  · obtain ⟨⟨⟨parts, v⟩, behind⟩, hread, heq⟩ := Option.bind_eq_some_iff.1 heq
    obtain ⟨q, hq, heq⟩ := Option.bind_eq_some_iff.1 heq
    obtain ⟨rfl, -⟩ := Prod.mk.inj (Option.some.inj heq)
    have hv : v.Ordered := yields_assignment (yields_value maxDepth) _ _ _ _ hread
    exact sound_progress_assign hv h hq

theorem sound_statements (fuel : Nat) (h : p.entries.Sound)
    (heq : statements fuel p cs = some p') : p'.entries.Sound := by
  induction fuel generalizing p cs with
  | zero => cases heq
  | succ fuel ih =>
    obtain ⟨cs', -, heq⟩ := Option.bind_eq_some_iff.1 heq
    dsimp only at heq
    split at heq
    · obtain rfl := Option.some.inj heq
      exact h
    obtain ⟨⟨q, behind⟩, hq, heq⟩ := Option.bind_eq_some_iff.1 heq
    obtain ⟨behind', -, heq⟩ := Option.bind_eq_some_iff.1 heq
    have hsound := sound_statement h hq
    dsimp only at heq
    split at heq
    · obtain rfl := Option.some.inj heq
      exact hsound
    split at heq
    · exact ih hsound heq
    · cases heq

theorem ordered_of_parse? {s : String} {entries : Dictionary Value}
    (h : parse? s = some entries) : (Value.table entries).Ordered := by
  obtain ⟨p, hp, rfl⟩ := Option.map_eq_some_iff.1 h
  have hsound : p.entries.Sound := sound_statements _ Entries.sound_nil hp
  exact ordered_entriesToValues fun e he => (hsound e he).toValue

end Toml

end CallHierarchy
