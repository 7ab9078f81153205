import CallHierarchy.Proofs.MockServer.Items
import CallHierarchy.Proofs.MockServer.Transcript
import CallHierarchy.Proofs.Source.Groups

/-! The answers about callers and callees. Both come from the same calls: what the answer about the
callees of one function says of another, the answer about the callers of the other says of the one,
and every call is in an answer of each kind once (`entries_dual`). -/

namespace CallHierarchy.MockServer

open Source

open CallGraph (build)

variable {g : CallGraph} {direction : Direction} {f h : Function} {documents : Documents}

/-! ### The open documents -/

theorem ordered_updated (hdocs : (documents.map Prod.fst).Pairwise (· < ·)) (method : String)
    (params : Json) : ((updated documents method params).map Prod.fst).Pairwise (· < ·) := by
  unfold updated
  split
  · exact hdocs
  · split
    · exact Dictionary.pairwise_insert hdocs _ _
    · split
      · exact Dictionary.pairwise_insert hdocs _ _
      · exact hdocs
    · exact Dictionary.pairwise_erase hdocs _
    · exact hdocs

/-- The open documents of a server are at any time in the order of their URIs. -/
theorem Served.ordered {o : Options} {ms : List Incoming} {s : MockServer} {replies : List Reply}
    {written : List String} (hserved : Served o ms s replies written) :
    (s.documents.map Prod.fst).Pairwise (· < ·) := by
  rw [hserved.documents]
  generalize ms.filter _ = edits
  induction edits using List.reverseRecOn with
  | nil => exact .nil
  | append_singleton edits m ih =>
    rw [List.foldl_append]
    exact ordered_updated ih _ _

/-- So each has a URI of its own. -/
theorem Served.distinct {o : Options} {ms : List Incoming} {s : MockServer} {replies : List Reply}
    {written : List String} (hserved : Served o ms s replies written) :
    (s.documents.map Prod.fst).Nodup :=
  Dictionary.nodup_of_pairwise hserved.ordered

/-! ### Entries -/

/-- The entries of the answer about the calls of a function. -/
def entries (g : CallGraph) (direction : Direction) (f : Function) : List Json :=
  (groupsJson (Call.key direction) (g.groups direction f)).asArray?.getD []

/-- The entry is about calls that go from or to the function, and gives these ranges for them. -/
structure About (direction : Direction) (e : Json) (h : Function) (ranges : List Json) : Prop where
  item : e.get? (Call.key direction) = some (itemJson h)
  ranges : e.get? "fromRanges" = some (.array ranges)

/-- How many ranges an entry gives. -/
def rangeCount (e : Json) : Nat := (((e.get? "fromRanges").bind Json.asArray?).getD []).length

/-- The entry of a group. -/
def entryJson (direction : Direction) (group : Function × List CallSite) : Json :=
  .object (Dictionary.ofList
    [(Call.key direction, itemJson group.1), ("fromRanges", .array (group.2.map siteJson))])

theorem entries_eq : entries g direction f = (g.groups direction f).map (entryJson direction) := rfl

theorem about_entryJson (direction : Direction) (group : Function × List CallSite) :
    About direction (entryJson direction group) group.1 (group.2.map siteJson) := by
  have hne : "fromRanges" ≠ Call.key direction := by cases direction <;> decide
  constructor
  · simp [entryJson, Json.get?, Dictionary.get?_ofList, Dictionary.get?, hne]
  · simp [entryJson, Json.get?, Dictionary.get?_ofList, Dictionary.get?]

theorem rangeCount_entryJson (direction : Direction) (group : Function × List CallSite) :
    rangeCount (entryJson direction group) = group.2.length := by
  rw [rangeCount, (about_entryJson direction group).ranges]
  exact List.length_map _

/-- An item tells the document and the line of its function. -/
theorem place_of_itemJson (heq : itemJson f = itemJson h) : f.uri = h.uri ∧ f.line = h.line := by
  obtain ⟨-, huri, -, hselection⟩ := get?_itemJson f
  obtain ⟨-, huri', -, hselection'⟩ := get?_itemJson h
  rw [heq, huri'] at huri
  rw [heq, hselection'] at hselection
  simp only [rangeJson, Json.nat, Json.int, Option.some.injEq, Json.object.injEq, List.cons.injEq,
    Prod.mk.injEq, Json.number.injEq, Json.Number.integer.injEq] at hselection
  exact ⟨by simpa using huri.symm, by omega⟩

/-- The functions of the open documents are told apart by their items. -/
theorem eq_of_itemJson (hdocs : (documents.map Prod.fst).Nodup)
    (hf : f ∈ (build documents).functions)
    (hh : h ∈ (build documents).functions) (heq : itemJson f = itemJson h) : f = h := by
  obtain ⟨huri, hline⟩ := place_of_itemJson heq
  exact CallGraph.eq_of_line_eq_build hdocs hf hh huri hline

theorem mem_functions_of_group {group : Function × List CallSite}
    (hgroup : group ∈ (build documents).groups direction f) :
    group.1 ∈ (build documents).functions := by
  obtain ⟨hsites, hne⟩ := CallGraph.mem_groups_iff.1 hgroup
  obtain ⟨s, hs⟩ := List.exists_mem_of_ne_nil _ hne
  rw [hsites] at hs
  obtain ⟨hcall, hends⟩ := List.mem_filter.1 hs
  rw [← (decide_eq_true_iff.1 hends).2]
  exact CallGraph.far_mem_functions_build hcall direction

/-- The answer has an entry about a function just where there is a group of calls for it. -/
theorem exists_about_iff (hdocs : (documents.map Prod.fst).Nodup)
    (hh : h ∈ (build documents).functions) {ranges : List Json} :
    (∃ e ∈ entries (build documents) direction f, About direction e h ranges) ↔
      ∃ sites, (h, sites) ∈ (build documents).groups direction f ∧
        ranges = sites.map siteJson := by
  rw [entries_eq]
  constructor
  · rintro ⟨e, he, habout⟩
    obtain ⟨group, hgroup, rfl⟩ := List.mem_map.1 he
    obtain ⟨hitem, hranges⟩ := about_entryJson direction group
    have hsame : itemJson h = itemJson group.1 := Option.some.inj (habout.item.symm.trans hitem)
    obtain rfl := eq_of_itemJson hdocs hh (mem_functions_of_group hgroup) hsame
    exact ⟨group.2, hgroup, Json.array.inj (Option.some.inj (habout.ranges.symm.trans hranges))⟩
  · rintro ⟨sites, hgroup, rfl⟩
    exact ⟨_, List.mem_map_of_mem hgroup, about_entryJson direction (h, sites)⟩

/-- An entry gives the ranges of all the calls between two functions, in the order in which they are
recorded. -/
theorem exists_about_iff_ranges (hdocs : (documents.map Prod.fst).Nodup)
    (hh : h ∈ (build documents).functions) {ranges : List Json} :
    (∃ e ∈ entries (build documents) direction f, About direction e h ranges) ↔
      ranges = ((build documents).calls.filter fun s =>
        s.near direction = f ∧ s.far direction = h).map siteJson ∧ ranges ≠ [] := by
  rw [exists_about_iff hdocs hh]
  simp only [CallGraph.mem_groups_iff]
  constructor
  · rintro ⟨sites, ⟨rfl, hne⟩, rfl⟩
    exact ⟨rfl, mt List.map_eq_nil_iff.1 hne⟩
  · rintro ⟨rfl, hne⟩
    exact ⟨_, ⟨rfl, mt List.map_eq_nil_iff.2 hne⟩, rfl⟩

/-- No two entries of an answer are about the same function. -/
theorem nodup_entries (hdocs : (documents.map Prod.fst).Nodup) (direction : Direction)
    (f : Function) : ((entries (build documents) direction f).map
      fun e => e.get? (Call.key direction)).Nodup := by
  have hitems : (entries (build documents) direction f).map
      (fun e => e.get? (Call.key direction)) =
      (((build documents).groups direction f).map Prod.fst).map
        (fun h => some (itemJson h)) := by
    rw [entries_eq, List.map_map, List.map_map]
    exact List.map_congr_left fun group _ => (about_entryJson direction group).item
  rw [hitems]
  refine (CallGraph.nodup_groups _ direction f).map_on fun h hh k hk heq => ?_
  obtain ⟨group, hgroup, rfl⟩ := List.mem_map.1 hh
  obtain ⟨group', hgroup', rfl⟩ := List.mem_map.1 hk
  exact eq_of_itemJson hdocs (mem_functions_of_group hgroup) (mem_functions_of_group hgroup')
    (Option.some.inj heq)

theorem sum_entries (hdocs : (documents.map Prod.fst).Nodup) (direction : Direction) :
    ((build documents).functions.map fun f =>
      ((entries (build documents) direction f).map rangeCount).sum).sum =
      (build documents).calls.length := by
  have hnear : ∀ s ∈ (build documents).calls,
      s.near direction ∈ (build documents).functions := by
    intro s hs
    cases direction with
    | incoming => exact CallGraph.far_mem_functions_build hs .outgoing
    | outgoing => exact CallGraph.far_mem_functions_build hs .incoming
  rw [← CallGraph.sum_groups (CallGraph.nodup_functions_build hdocs) direction hnear]
  refine congrArg List.sum (List.map_congr_left fun f _ => ?_)
  rw [entries_eq, List.map_map]
  exact congrArg List.sum (List.map_congr_left fun group _ => rangeCount_entryJson direction group)

/-- The answers about callers and those about callees are two views of the recorded calls. Where
the open documents have URIs of their own, and `f` and `h` are functions of theirs:

the answer about the callees of `f` has an entry about `h` with some ranges just where the answer
about the callers of `h` has one about `f` with the same ranges in the same order, and these are
the ranges of the calls that are recorded from `f` to `h`; no answer has two entries about one
function; and the ranges in all the answers of one kind are as many as the calls. -/
theorem entries_dual (hdocs : (documents.map Prod.fst).Nodup) :
    (∀ f ∈ (build documents).functions, ∀ h ∈ (build documents).functions, ∀ ranges,
      ((∃ e ∈ entries (build documents) .outgoing f, About .outgoing e h ranges) ↔
        ∃ e ∈ entries (build documents) .incoming h, About .incoming e f ranges) ∧
      ((∃ e ∈ entries (build documents) .outgoing f, About .outgoing e h ranges) ↔
        ranges = ((build documents).calls.filter fun s =>
          s.caller = f ∧ s.callee = h).map siteJson ∧ ranges ≠ [])) ∧
    (∀ direction f, ((entries (build documents) direction f).map
      fun e => e.get? (Call.key direction)).Nodup) ∧
    ∀ direction, ((build documents).functions.map fun f =>
      ((entries (build documents) direction f).map rangeCount).sum).sum =
        (build documents).calls.length := by
  refine ⟨fun f hf h hh ranges => ⟨?_, exists_about_iff_ranges hdocs hh⟩, nodup_entries hdocs,
    sum_entries hdocs⟩
  rw [exists_about_iff hdocs hh, exists_about_iff hdocs hf]
  simp only [CallGraph.mem_outgoing_iff]

/-- A function that calls itself, two calls of one function in a line, and functions of one name in
two documents. -/
def twoSources : Documents :=
  [("a", "fn f():\n  f(); g()\nfn g():\n  f(); f()"), ("b", "fn f(): g()")]

theorem entries_dual_twoSources :
    (twoSources.map Prod.fst).Nodup ∧
      ∀ direction, ((build twoSources).functions.map fun f =>
        ((entries (build twoSources) direction f).map rangeCount).sum).sum = 8 := by
  have hdocs : (twoSources.map Prod.fst).Nodup := by decide
  have hcalls : (build twoSources).calls.length = 8 := by decide +kernel
  refine ⟨hdocs, fun direction => ?_⟩
  rw [← hcalls]
  exact (entries_dual hdocs).2.2 direction

end CallHierarchy.MockServer
