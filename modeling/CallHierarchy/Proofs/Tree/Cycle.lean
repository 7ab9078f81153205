import CallHierarchy.Proofs.Tree.Walk

/-! Walks that end by themselves. Where the entries that a walk can reach are finitely many symbols,
no path grows past their number, since a symbol is not followed below itself. From that depth on the
depth of a walk makes no difference (`collect_bounded`). -/

namespace CallHierarchy

/-- What makes entries the same symbol: a name and its place. -/
def Entry.symbol (e : Entry) : String × String × Range := (e.name, e.path, e.selectionRange)

namespace Tree

/-- The entries that following `next` reaches from those of a row. -/
inductive Reached (next : Entry → List Entry) (entries : List Entry) : Entry → Prop
  | root {e : Entry} : e ∈ entries → Reached next entries e
  | step {e e' : Entry} : Reached next entries e → e' ∈ next e → Reached next entries e'

variable {next : Entry → List Entry} {entries above : List Entry} {e e' : Entry}
  {symbols : List (String × String × Range)}

theorem length_le_of_reached {path : List Entry} (hreached : ∀ a ∈ path, Reached next entries a)
    (hnodup : (path.map Entry.symbol).Nodup)
    (hsymbols : ∀ e, Reached next entries e → e.symbol ∈ symbols) :
    path.length ≤ symbols.length := by
  have hsub : path.map Entry.symbol ⊆ symbols := by
    intro x hx
    obtain ⟨a, ha, rfl⟩ := List.mem_map.1 hx
    exact hsymbols a (hreached a ha)
  simpa using hnodup.length_le_of_subset hsub

/-- A path to an entry that was reached, on which no symbol stands twice above the entry. -/
structure Trail (next : Entry → List Entry) (entries above : List Entry) (e : Entry) : Prop where
  reached_above : ∀ a ∈ above, Reached next entries a
  reached : Reached next entries e
  nodup : (above.map Entry.symbol).Nodup

theorem recurs_iff_mem_symbols :
    recurs above e = true ↔ e.symbol ∈ above.map Entry.symbol := by
  simp [recurs_iff, Entry.symbol]

namespace Trail

theorem root (h : e ∈ entries) : Trail next entries [] e := ⟨by simp, .root h, by simp⟩

theorem nodup_of_not_recurs (h : Trail next entries above e) (hrec : recurs above e = false) :
    ((above ++ [e]).map Entry.symbol).Nodup := by
  have hfresh : e.symbol ∉ above.map Entry.symbol :=
    fun hmem => Bool.eq_false_iff.1 hrec (recurs_iff_mem_symbols.2 hmem)
  rw [List.map_append, List.nodup_append]
  refine ⟨h.nodup, by simp, fun a ha b hb heq => hfresh ?_⟩
  rw [List.map_singleton, List.mem_singleton] at hb
  rwa [← hb, ← heq]

theorem reached_snoc (h : Trail next entries above e) :
    ∀ a ∈ above ++ [e], Reached next entries a := by
  intro a ha
  rcases List.mem_append.1 ha with ha | ha
  · exact h.reached_above a ha
  · rw [List.mem_singleton.1 ha]
    exact h.reached

/-- A trail goes on from an entry that does not recur. -/
theorem step (h : Trail next entries above e) (hrec : recurs above e = false)
    (he' : e' ∈ next e) : Trail next entries (above ++ [e]) e' :=
  ⟨h.reached_snoc, h.reached.step he', h.nodup_of_not_recurs hrec⟩

theorem length_le (h : Trail next entries above e)
    (hsymbols : ∀ e, Reached next entries e → e.symbol ∈ symbols) :
    above.length ≤ symbols.length :=
  length_le_of_reached h.reached_above h.nodup hsymbols

/-- A path with as many entries as there are symbols has no room for one more. -/
theorem recurs_of_length_le (h : Trail next entries above e)
    (hsymbols : ∀ e, Reached next entries e → e.symbol ∈ symbols)
    (hle : symbols.length ≤ above.length) : recurs above e = true := by
  by_contra hrec
  rw [Bool.not_eq_true] at hrec
  have hlonger := length_le_of_reached h.reached_snoc (h.nodup_of_not_recurs hrec) hsymbols
  rw [List.length_append, List.length_singleton] at hlonger
  omega

/-- Depth past the number of symbols makes no difference. -/
theorem unfold_eq (h : Trail next entries above e)
    (hsymbols : ∀ e, Reached next entries e → e.symbol ∈ symbols) {depth deeper : Nat}
    (hdepth : symbols.length ≤ above.length + depth)
    (hdeeper : symbols.length ≤ above.length + deeper) :
    unfold next deeper above e = unfold next depth above e := by
  induction depth generalizing above e deeper with
  | zero =>
    have hrec := h.recurs_of_length_le hsymbols hdepth
    cases deeper <;> simp [unfold, hrec]
  | succ depth ih =>
    by_cases hrec : recurs above e = true
    · cases deeper <;> simp [unfold, hrec]
    · obtain ⟨deeper, rfl⟩ : ∃ n, deeper = n + 1 := by
        refine ⟨deeper - 1, ?_⟩
        by_contra hzero
        exact hrec (h.recurs_of_length_le hsymbols (by omega))
      rw [unfold, unfold, if_neg hrec, if_neg hrec]
      congr 1
      refine List.map_congr_left fun e' he' => ih (h.step (Bool.eq_false_iff.2 hrec) he') ?_ ?_
      · rw [List.length_append, List.length_singleton]
        omega
      · rw [List.length_append, List.length_singleton]
        omega

end Trail

/-- Each place of an unfolding stands at the end of a trail. -/
theorem trail_of_mem {depth : Nat} {p : Place}
    (hp : p ∈ placesIn [] (entries.map (unfold next depth []))) :
    ∃ k, p.tree = unfold next k p.above p.tree.entry ∧ p.above.length + k = depth ∧
      Trail next entries p.above p.tree.entry :=
  exists_unfold_of_mem
    (motive := fun k path e => path.length + k = depth ∧ Trail next entries path e)
    (fun _ he => ⟨Nat.zero_add depth, .root he⟩)
    (fun k path e h hrec e' he' => ⟨by rw [List.length_append, List.length_singleton]; omega,
      h.2.step hrec he'⟩) hp

open Connection

variable {σ ε : Type} {c : Connection (StateM σ) ε} {replies : Replies ε}

/-- A path in the trees that a walk collects has at most one entry more than there are symbols, and
no symbol twice, unless the last entry is one met before, which is how entries come to be marked. A
walk that goes as deep as there are symbols therefore goes as deep as any, and stops only at entries
that are marked. -/
theorem collect_bounded (h : c.Answers replies) (node : Node)
    {symbols : List (String × String × Range)} {bound : Nat} (hbound : symbols.length ≤ bound)
    (hsymbols : ∀ e, Reached (replies.next node) node.entries e → e.symbol ∈ symbols) (s : σ) :
    (∀ depth trees, ((collect c node depth).run.run s).1 = .ok trees →
      ∀ p ∈ placesIn [] trees,
        (p.above ++ [p.tree.entry]).length ≤ bound + 1 ∧
        (p.above.map Entry.symbol).Nodup ∧
        (p.tree.recursive = true ↔ p.tree.entry.symbol ∈ p.above.map Entry.symbol)) ∧
    ∀ depth, bound ≤ depth →
      (collect c node depth).run.run s = (collect c node bound).run.run s ∧
      ∀ trees, ((collect c node depth).run.run s).1 = .ok trees →
        ∀ p ∈ placesIn [] trees, p.tree.expanded = false → p.tree.recursive = true := by
  refine ⟨fun depth trees hok p hp => ?_,
    fun depth hdepth => ⟨?_, fun trees hok p hp hclosed => ?_⟩⟩
  · rw [((collect_eq_ok_iff h).1 hok).1] at hp
    obtain ⟨k, htree, -, htrail⟩ := trail_of_mem hp
    have hlength := htrail.length_le hsymbols
    refine ⟨by rw [List.length_append, List.length_singleton]; omega, htrail.nodup, ?_⟩
    rw [htree, unfold_recursive, unfold_entry]
    exact recurs_iff_mem_symbols
  · have hsame : node.entries.map (unfold (replies.next node) depth []) =
        node.entries.map (unfold (replies.next node) bound []) :=
      List.map_congr_left fun e he =>
        (Trail.root he).unfold_eq hsymbols (by simpa using hbound) (by simp; omega)
    rw [collect_run h, collect_run h, hsame]
  · rw [((collect_eq_ok_iff h).1 hok).1] at hp
    obtain ⟨k, htree, hk, htrail⟩ := trail_of_mem hp
    rw [htree, unfold_expanded] at hclosed
    rw [htree, unfold_recursive]
    cases k with
    | zero => exact htrail.recurs_of_length_le hsymbols (by omega)
    | succ k => simpa using hclosed

/-- Two functions that call each other are followed twice, however deep the walk may go. -/
theorem collect_bounded_cycle :
    let main := Item.onLine "main" 0
    let load := Item.onLine "load" 4
    let replies : Replies String := fun _ item => .ok <| match item.name with
      | "main" => some [⟨load, []⟩]
      | _ => some [⟨main, []⟩]
    let c := recording replies
    let node := Node.ofItems .posix .outgoing [main]
    let symbols := [main, load].map fun item => (Entry.ofItem .posix item).symbol
    c.Answers replies ∧ symbols.length ≤ 2 ∧
      (∀ e, Reached (replies.next node) node.entries e → e.symbol ∈ symbols) ∧
      ∀ depth, 2 ≤ depth → (collect c node depth).run.run [] = (collect c node 2).run.run [] := by
  intro main load replies c node symbols
  have hsymbols : ∀ e, Reached (replies.next node) node.entries e → e.symbol ∈ symbols := by
    intro e he
    have hentry : e = Entry.ofItem .posix main ∨ e = Entry.ofItem .posix load := by
      induction he with
      | root h => exact .inl (List.mem_singleton.1 h)
      | step _ h ih =>
        rcases ih with rfl | rfl
        · exact .inr (List.mem_singleton.1 h)
        · exact .inl (List.mem_singleton.1 h)
    rcases hentry with rfl | rfl
    · exact List.mem_cons_self
    · exact List.mem_cons_of_mem _ List.mem_cons_self
  have hbounded := collect_bounded (recording_answers replies) node (Nat.le_refl 2) hsymbols []
  exact ⟨recording_answers replies, Nat.le_refl 2, hsymbols,
    fun depth hdepth => (hbounded.2 depth hdepth).1⟩

end Tree

end CallHierarchy
