import CallHierarchy.Proofs.Tree.Walk

/-! The depth of a walk only cuts. A walk that goes less deep collects the trees of the deeper one,
cut at its depth, and asks the same questions as far as they stand above the cut
(`collect_cut`). -/

namespace CallHierarchy

namespace Tree

/-- The tree without what stands more than `depth` levels below its root. -/
def cut : Nat → Tree → Tree
  | 0, t => { t with children := [], expanded := false }
  | depth + 1, ⟨entry, children, expanded, recursive⟩ =>
    ⟨entry, children.map (cut depth), expanded, recursive⟩

/-- The places at which the walk went on, less than `depth` entries from the root. -/
def Place.isOpenAbove (depth : Nat) (p : Place) : Bool :=
  p.tree.expanded && decide (p.above.length < depth)

section Cut

variable {next : Entry → List Entry} {depth deeper : Nat} {above entries : List Entry} {e : Entry}

/-- An unfolding cut at a depth is the unfolding down to there. -/
theorem cut_unfold (hle : depth ≤ deeper) :
    cut depth (unfold next deeper above e) = unfold next depth above e := by
  induction depth generalizing deeper above e with
  | zero => rw [cut, unfold_entry, unfold_recursive, unfold]
  | succ depth ih =>
    obtain ⟨deeper, rfl⟩ : ∃ n, deeper = n + 1 := ⟨deeper - 1, by omega⟩
    rw [unfold, unfold]
    split
    · rw [cut, List.map_nil]
    · rw [cut, List.map_map]
      congr 1
      exact List.map_congr_left fun e' _ => ih (by omega)

theorem length_le_of_mem_placesIn {p : Place}
    (hp : p ∈ placesIn above (entries.map (unfold next depth above))) :
    above.length ≤ p.above.length := by
  obtain ⟨_, _, hle⟩ := exists_unfold_of_mem
    (motive := fun _ path _ => above.length ≤ path.length) (fun _ _ => Nat.le_refl _)
    (fun _ path e hle _ _ _ => by rw [List.length_append]; omega) hp
  exact hle

/-- A shallower unfolding follows what a deeper one follows above its depth. -/
theorem followed_unfold_of_le (hle : depth ≤ deeper) :
    followed above (entries.map (unfold next depth above)) =
      ((placesIn above (entries.map (unfold next deeper above))).filter
        (Place.isOpenAbove (above.length + depth))).map (·.tree.entry.item) := by
  induction depth generalizing deeper above entries with
  | zero =>
    have hnone : (placesIn above (entries.map (unfold next deeper above))).filter
        (Place.isOpenAbove above.length) = [] := by
      refine List.filter_eq_nil_iff.2 fun p hp => ?_
      have := length_le_of_mem_placesIn hp
      simp [Place.isOpenAbove]
      omega
    rw [followed_unfold_zero, Nat.add_zero, hnone, List.map_nil]
  | succ depth ih =>
    obtain ⟨deeper, rfl⟩ : ∃ n, deeper = n + 1 := ⟨deeper - 1, by omega⟩
    rw [followed_unfold_succ, placesIn_eq_flatMap, List.flatMap_map, List.filter_flatMap,
      List.map_flatMap]
    refine List.flatMap_congr fun e _ => ?_
    rw [unfold]
    by_cases hrec : recurs above e = true
    · simp [hrec, places, placesIn, Place.isOpenAbove]
    · have hlength : (above ++ [e]).length + depth = above.length + (depth + 1) := by
        rw [List.length_append, List.length_singleton]
        omega
      have hbelow := hlength ▸ @ih deeper (above ++ [e]) (next e) (by omega)
      simp [hrec, places, Place.isOpenAbove, hbelow]

end Cut

open Connection

variable {σ ε : Type} {c : Connection (StateM σ) ε} {replies : Replies ε}

/-- If a walk succeeds, so does every walk from the same node that goes less deep. It collects the
trees of the deeper walk, cut at its own depth, and asks what the deeper one asks about the entries
above that depth, in the same order. -/
theorem collect_cut (h : c.Answers replies) (node : Node) {depth deeper : Nat}
    (hle : depth ≤ deeper) (s t : σ) {trees : List Tree}
    (hdeeper : ((collect c node deeper).run.run s).1 = .ok trees) :
    let items (places : List Place) := places.map (·.tree.entry.item)
    (collect c node deeper).run.run s = (.ok trees,
        c.after node.direction s (items ((placesIn [] trees).filter (·.tree.expanded)))) ∧
      (collect c node depth).run.run t = (.ok (trees.map (cut depth)),
        c.after node.direction t
          (items ((placesIn [] trees).filter (Place.isOpenAbove depth)))) := by
  obtain ⟨htrees, hall⟩ := (collect_eq_ok_iff h).1 hdeeper
  have hcut : trees.map (cut depth) = node.entries.map (unfold (replies.next node) depth []) := by
    rw [htrees, List.map_map]
    exact List.map_congr_left fun e _ => cut_unfold hle
  have hfollowed : followed [] (trees.map (cut depth)) =
      ((placesIn [] trees).filter (Place.isOpenAbove depth)).map (·.tree.entry.item) := by
    rw [hcut, htrees, followed_unfold_of_le hle, List.length_nil, Nat.zero_add]
  have hshallow : ((collect c node depth).run.run t).1 = .ok (trees.map (cut depth)) := by
    refine (collect_eq_ok_iff h).2 ⟨hcut, fun item hitem => hall item ?_⟩
    rw [hfollowed] at hitem
    -- What is open above the depth is open.
    refine (List.Sublist.map _ (List.monotone_filter_right _ fun p hp => ?_)).subset hitem
    exact (Bool.and_eq_true_iff.1 hp).1
  refine ⟨collect_run_of_ok h hdeeper, ?_⟩
  rw [collect_run_of_ok h hshallow, hfollowed]

/-- Of the two questions of the deeper walk the shallower one asks the first. -/
theorem collect_cut_cycle :
    let main := Item.onLine "main" 0
    let load := Item.onLine "load" 4
    let replies : Replies String := fun _ item => .ok <| match item.name with
      | "main" => some [⟨load, []⟩]
      | _ => some [⟨main, []⟩]
    let c := recording replies
    let node := Node.ofItems .posix .outgoing [main]
    ∃ trees, c.Answers replies ∧ ((collect c node 3).run.run []).1 = .ok trees ∧
      ((collect c node 3).run.run []).2 = [main, load].map (.outgoing, ·) ∧
      (collect c node 1).run.run [] = (.ok (trees.map (cut 1)), [(.outgoing, main)]) := by
  intro main load replies c node
  have hanswers : c.Answers replies := recording_answers replies
  let shown := Entry.ofItem .posix
  have hagain : recurs [shown main, shown load] (shown main) = true :=
    recurs_iff.2 ⟨shown main, List.mem_cons_self, rfl, rfl, rfl⟩
  have htrees : node.entries.map (unfold (replies.next node) 3 []) =
      [⟨shown main, [⟨shown load, [⟨shown main, [], false, true⟩], true, false⟩],
        true, false⟩] := by
    have hentries : node.entries = [shown main] := rfl
    have hmain : replies.next node (shown main) = [shown load] := rfl
    have hload : replies.next node (shown load) = [shown main] := rfl
    have hfirst : recurs [] (shown main) = false := rfl
    have hfresh : recurs [shown main] (shown load) = false := rfl
    simp only [hentries, List.map_cons, List.map_nil, unfold, hmain, hload, hfirst, hfresh, hagain,
      List.nil_append, List.cons_append, Bool.false_eq_true, if_false, if_true]
  have hdeeper : ((collect c node 3).run.run []).1 =
      .ok (node.entries.map (unfold (replies.next node) 3 [])) :=
    (collect_eq_ok_iff hanswers).2 ⟨rfl, fun _ _ => ⟨_, rfl⟩⟩
  rw [htrees] at hdeeper
  obtain ⟨hlong, hshort⟩ := collect_cut hanswers node (by decide : 1 ≤ 3) [] [] hdeeper
  rw [recording_after] at hlong hshort
  exact ⟨_, hanswers, hdeeper, congrArg Prod.snd hlong, hshort⟩

end Tree

end CallHierarchy
