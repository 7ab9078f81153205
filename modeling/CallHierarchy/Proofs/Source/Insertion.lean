import CallHierarchy.Proofs.Source.Documents

/-! One more open document. Its functions stand somewhere among those of the others and its calls
among theirs, but what is left of each list without it is the list that there was before. So are the
groups of the calls of an old function, without those of the new ones (`CallGraph.groups_insert`).
-/

namespace CallHierarchy.Source.CallGraph

variable {documents : Documents} {uri : String} {f : Function}

/-- Whether a function is in another document than that at the URI. -/
def apart (uri : String) (f : Function) : Bool := f.uri ≠ uri

/-- Whether a call is between two such functions. -/
def callApart (uri : String) (s : CallSite) : Bool := apart uri s.caller && apart uri s.callee

theorem apart_of_mem_functions (hfresh : uri ∉ documents.map Prod.fst)
    (hf : f ∈ (build documents).functions) : apart uri f = true := by
  obtain ⟨e, he, hf⟩ := List.mem_flatMap.1 hf
  have huri : f.uri = e.1 := (stands_of_mem_functions hf).uri_eq
  exact decide_eq_true fun heq => hfresh (heq ▸ huri ▸ List.mem_map_of_mem he)

/-- What a filter leaves of rows that come one after the other, if it drops some rows and leaves of
each other row what is the row there in a second list of rows. -/
theorem filter_flatMap_of_rows {α β : Type} {keeps : β → Bool} {rows rows' : α → List β}
    {xs : List α} (stays : α → Bool)
    (hstays : ∀ x ∈ xs, stays x = true → (rows x).filter keeps = rows' x)
    (hgoes : ∀ x ∈ xs, stays x = false → (rows x).filter keeps = []) :
    (xs.flatMap rows).filter keeps = (xs.filter stays).flatMap rows' := by
  induction xs with
  | nil => rfl
  | cons x xs ih =>
    have ih := ih (fun y hy => hstays y (List.mem_cons_of_mem x hy))
      fun y hy => hgoes y (List.mem_cons_of_mem x hy)
    rw [List.flatMap_cons, List.filter_append, ih]
    cases hx : stays x with
    | true =>
      rw [hstays x List.mem_cons_self hx, List.filter_cons_of_pos hx, List.flatMap_cons]
    | false =>
      rw [hgoes x List.mem_cons_self hx, List.filter_cons_of_neg (by simp [hx]), List.nil_append]

/-! ### Functions and calls -/

/-- The functions of the old documents stay, in their order. -/
theorem functions_insert (hfresh : uri ∉ documents.map Prod.fst) (text : String) :
    (build (documents.insert uri text)).functions.filter (apart uri) =
      (build documents).functions := by
  have huri {e : String × String} {f : Function} (hf : f ∈ Source.functions e.1 e.2) :
      f.uri = e.1 := (stands_of_mem_functions hf).uri_eq
  have hold : (documents.insert uri text).filter (fun e => e.1 ≠ uri) = documents :=
    (Dictionary.erase_insert documents uri text).trans (Dictionary.erase_of_not_mem hfresh)
  refine (filter_flatMap_of_rows (fun e => decide (e.1 ≠ uri))
    (fun e _ hstays => List.filter_eq_self.2 fun f hf => ?_)
    fun e _ hgoes => List.filter_eq_nil_iff.2 fun f hf => ?_).trans
      (congrArg (List.flatMap _ ·) hold)
  · rw [apart, huri hf]
    exact hstays
  · rw [apart, huri hf, hgoes]
    exact Bool.false_ne_true

/-- The calls of some of the functions are those that there are when there are no others. -/
theorem filter_callsInLine (uri : String) (fs : List Function) (caller : Function)
    (line : List Char) (index : Nat) :
    (callsInLine fs caller line index).filter (fun s => apart uri s.callee) =
      callsInLine (fs.filter (apart uri)) caller line index := by
  unfold callsInLine
  split
  · rfl
  · refine filter_flatMap_of_rows (apart uri)
      (fun callee _ hstays => List.filter_eq_self.2 fun s hs => ?_)
      fun callee _ hgoes => List.filter_eq_nil_iff.2 fun s hs => ?_
    · obtain ⟨_, -, rfl⟩ := List.mem_map.1 hs
      exact hstays
    · obtain ⟨_, -, rfl⟩ := List.mem_map.1 hs
      exact Bool.eq_false_iff.1 hgoes

theorem filter_callsIn (uri : String) (fs : List Function) (caller : Function)
    (lines : List (List Char)) :
    (callsIn fs caller lines).filter (fun s => apart uri s.callee) =
      callsIn (fs.filter (apart uri)) caller lines := by
  rw [callsIn, List.filter_flatMap]
  exact List.flatMap_congr fun e _ => filter_callsInLine uri fs caller e.1 e.2

/-- The calls between functions of the old documents stay, in their order. -/
theorem calls_insert (hfresh : uri ∉ documents.map Prod.fst) (text : String) :
    (build (documents.insert uri text)).calls.filter (callApart uri) =
      (build documents).calls := by
  refine (filter_flatMap_of_rows (apart uri) (fun caller _ hstays => ?_)
    fun caller _ hgoes => List.filter_eq_nil_iff.2 fun s hs => ?_).trans
      (congrArg (List.flatMap _ ·) (functions_insert hfresh text))
  · -- The text of an old caller is what it was, and of its calls those of old functions stay.
    have hne : uri ≠ caller.uri := (of_decide_eq_true hstays).symm
    rw [Dictionary.get?_insert, if_neg hne]
    cases documents.get? caller.uri with
    | none => rfl
    | some text' =>
      refine (List.filter_congr fun s hs => ?_).trans
        ((filter_callsIn uri _ caller _).trans ?_)
      · rw [callApart, (mem_callsIn_iff.1 hs).1, hstays, Bool.true_and]
      · exact congrArg (callsIn · caller _) (functions_insert hfresh text)
  · split at hs
    · cases hs
    · rw [callApart, (mem_callsIn_iff.1 hs).1, hgoes, Bool.false_and]
      exact Bool.false_ne_true

/-! ### Groups -/

theorem filter_addTo (keeps : Function → Bool) (key : Function) (site : CallSite)
    (groups : List (Function × List CallSite)) :
    (addTo key site groups).filter (fun e => keeps e.1) =
      if keeps key then addTo key site (groups.filter fun e => keeps e.1)
      else groups.filter fun e => keeps e.1 := by
  induction groups with
  | nil => cases hkey : keeps key <;> simp [addTo, hkey]
  | cons group groups ih =>
    obtain ⟨k, sites⟩ := group
    rw [addTo]
    by_cases hk : k = key
    · subst hk
      cases hkey : keeps k <;> simp [addTo, hkey]
    · rw [if_neg hk]
      cases hkept : keeps k <;> cases hkey : keeps key <;> simp_all [addTo]

/-- The groups of some keys are the groups of the calls that pick these keys. -/
theorem filter_group {g g' : CallGraph} {select : CallSite → Option Function}
    {picks : CallSite → Bool} {keeps : Function → Bool} (hcalls : g.calls.filter picks = g'.calls)
    (hpicks : ∀ s key, select s = some key → picks s = keeps key) :
    (g.group select).filter (fun e => keeps e.1) = g'.group select := by
  rw [group, group, ← hcalls]
  clear hcalls
  generalize g.calls = calls
  induction calls using List.reverseRecOn with
  | nil => rfl
  | append_singleton calls site ih =>
    rw [List.filter_append, List.foldl_append, List.foldl_append, ← ih, List.foldl_cons,
      List.foldl_nil]
    cases hselect : select site with
    | none => cases hpicked : picks site <;> simp [hpicked, hselect]
    | some key =>
      rw [filter_addTo, ← hpicks site key hselect]
      cases hpicked : picks site <;> simp [hpicked, hselect]

/-- The groups of an old function stay as they are, in their order, but for those of new ones. -/
theorem groups_insert (hfresh : uri ∉ documents.map Prod.fst) (text : String)
    (direction : Direction) (hf : apart uri f = true) :
    ((build (documents.insert uri text)).groups direction f).filter (fun e => apart uri e.1) =
      (build documents).groups direction f := by
  rw [groups_eq, groups_eq]
  refine filter_group (calls_insert hfresh text) fun s key hkey => ?_
  split at hkey
  · next hnear =>
    obtain rfl := Option.some.inj hkey
    subst hnear
    cases direction with
    | incoming => exact (congrArg (_ && ·) hf).trans (Bool.and_true _)
    | outgoing => exact (congrArg (· && _) hf).trans (Bool.true_and _)
  · cases hkey

/-- So an old function is found that was found before, and no other. -/
theorem find?_insert (hfresh : uri ∉ documents.map Prod.fst) (text : String) {other : String}
    (hother : other ≠ uri) (name : String) (line : Nat) :
    (build (documents.insert uri text)).find? other name line =
      (build documents).find? other name line := by
  rw [find?, find?, ← functions_insert hfresh text, List.find?_filter]
  refine congrArg (List.find? · _) (funext fun f => Bool.eq_iff_iff.2 ?_)
  simp only [Bool.and_eq_true, beq_iff_eq, decide_eq_true_eq]
  exact ⟨fun h => ⟨decide_eq_true (h.1.1 ▸ hother), h⟩, And.right⟩

end CallHierarchy.Source.CallGraph
