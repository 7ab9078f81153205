import Mathlib.Data.List.Induction
import CallHierarchy.Direction
import CallHierarchy.Proofs.Source.Function
import CallHierarchy.Source.CallGraph

/-! The calls in a text. They come in the order of their lines, and within a line in the order in
which the functions called are defined, so that is the order in which the neighbours of a function
are listed (`neighbours_spec`). -/

namespace CallHierarchy.Source

/-- The function that a walk in a direction comes from. -/
def CallSite.near : Direction → CallSite → Function
  | .incoming, site => site.callee
  | .outgoing, site => site.caller

/-- The function that a walk in a direction goes to. -/
def CallSite.far : Direction → CallSite → Function
  | .incoming, site => site.caller
  | .outgoing, site => site.callee

/-- One call stands before another: on an earlier line, or on the same line with a callee that is
defined earlier. -/
def CallSite.Before (s t : CallSite) : Prop :=
  s.line < t.line ∨ s.line = t.line ∧ s.callee.line < t.callee.line

/-- A call as the lines of its document have it. -/
structure CallSite.Stands (functions : List Function) (lines : List (List Char)) (s : CallSite) :
    Prop where
  caller_mem : s.caller ∈ functions
  callee_mem : s.callee ∈ functions
  caller_line_le : s.caller.line ≤ s.line
  line_le : s.line ≤ s.caller.endLine
  named : ∃ line before after, lines[s.line]? = some line ∧
    line = before ++ s.callee.name.toList ++ after ∧ s.column = Utf8.width before

theorem CallSite.Stands.far_mem {fs : List Function} {lines : List (List Char)} {s : CallSite}
    (h : s.Stands fs lines) (direction : Direction) : s.far direction ∈ fs := by
  cases direction with
  | incoming => exact h.caller_mem
  | outgoing => exact h.callee_mem

/-- The pattern stands at the column `n` behind `skip` characters or more, where the characters
begin at `column`. -/
def StandsAt (pattern : List Char) (skip column : Nat) (cs : List Char) (n : Nat) : Prop :=
  ∃ before after, cs = before ++ pattern ++ after ∧ n = column + Utf8.width before ∧
    skip ≤ before.length

section StandsAt

variable {pattern cs : List Char} {skip column n : Nat}

theorem standsAt_cons {c : Char} :
    StandsAt pattern skip column (c :: cs) n ↔
      (skip = 0 ∧ pattern <+: c :: cs ∧ n = column) ∨
        StandsAt pattern (skip - 1) (column + c.utf8Size) cs n := by
  constructor
  · rintro ⟨before, after, hcs, hn, hskip⟩
    cases before with
    | nil => exact .inl ⟨Nat.eq_zero_of_le_zero hskip, ⟨after, hcs.symm⟩, hn⟩
    | cons d before =>
      obtain ⟨rfl, htail⟩ := List.cons.inj hcs
      rw [Utf8.width_cons] at hn
      rw [List.length_cons] at hskip
      exact .inr ⟨before, after, htail, by omega, by omega⟩
  · rintro (⟨rfl, ⟨after, hafter⟩, rfl⟩ | ⟨before, after, rfl, rfl, hskip⟩)
    · exact ⟨[], after, hafter.symm, rfl, Nat.le_refl 0⟩
    · refine ⟨c :: before, after, rfl, ?_, ?_⟩
      · rw [Utf8.width_cons, Nat.add_assoc]
      · rw [List.length_cons]
        omega

theorem StandsAt.mono (h : StandsAt pattern skip column cs n) {skip' : Nat} (hskip : skip' ≤ skip) :
    StandsAt pattern skip' column cs n := by
  obtain ⟨before, after, hcs, hn, hlength⟩ := h
  exact ⟨before, after, hcs, hn, Nat.le_trans hskip hlength⟩

/-- A pattern stands at the columns at which it is found. -/
theorem standsAt_of_mem (h : n ∈ matchColumns pattern skip column cs) :
    StandsAt pattern skip column cs n := by
  fun_induction matchColumns pattern skip column cs with
  | case1 => cases h
  | case2 column c cs skip ih => exact standsAt_cons.2 (.inr (ih h))
  | case3 column c cs hp ih =>
    rw [standsAt_cons]
    rcases List.mem_cons.1 h with rfl | h
    · exact .inl ⟨rfl, List.isPrefixOf_iff_prefix.1 hp, rfl⟩
    · exact .inr ((ih h).mono (Nat.zero_le _))
  | case4 column c cs hp ih => exact standsAt_cons.2 (.inr (ih h))

end StandsAt

namespace CallGraph

variable {uri text : String}

theorem functions_build : (build [(uri, text)]).functions = Source.functions uri text := by
  simp [build]

theorem calls_build : (build [(uri, text)]).calls =
    (Source.functions uri text).flatMap fun caller =>
      callsIn (Source.functions uri text) caller (Text.lines text.toList) := by
  simp only [build, List.flatMap_cons, List.flatMap_nil, List.append_nil]
  refine List.flatMap_congr fun f hf => ?_
  rw [(stands_of_mem_functions hf).uri_eq, Dictionary.get?, if_pos rfl]

variable {fs : List Function} {caller : Function} {lines : List (List Char)} {s : CallSite}

theorem mem_callsInLine_iff {line : List Char} {index : Nat} :
    s ∈ callsInLine fs caller line index ↔
      s.caller = caller ∧ s.callee ∈ fs ∧ s.line = index ∧ isComment line = false ∧
        s.column ∈ callColumns s.callee.name line ∧
        (index = caller.line → caller.nameColumn + caller.nameWidth ≤ s.column) := by
  unfold callsInLine
  by_cases hcomment : isComment line = true
  · simp [hcomment]
  · rw [if_neg hcomment]
    constructor
    · intro h
      obtain ⟨callee, hcallee, h⟩ := List.mem_flatMap.1 h
      obtain ⟨column, hcolumn, rfl⟩ := List.mem_map.1 h
      obtain ⟨hcolumn, hfirst⟩ := List.mem_filter.1 hcolumn
      refine ⟨rfl, hcallee, rfl, Bool.eq_false_iff.2 hcomment, hcolumn, fun hline => ?_⟩
      rw [if_pos hline] at hfirst
      exact of_decide_eq_true hfirst
    · rintro ⟨rfl, hcallee, rfl, -, hcolumn, hfirst⟩
      refine List.mem_flatMap.2 ⟨s.callee, hcallee, List.mem_map.2 ⟨s.column, ?_, rfl⟩⟩
      refine List.mem_filter.2 ⟨hcolumn, decide_eq_true ?_⟩
      split
      · next hline => exact hfirst hline
      · exact Nat.zero_le _

theorem mem_body_iff {first last index : Nat} {line : List Char} :
    (line, index) ∈ (lines.zipIdx.take (last + 1)).drop first ↔
      lines[index]? = some line ∧ first ≤ index ∧ index ≤ last := by
  constructor
  · intro h
    obtain ⟨i, hi⟩ := List.mem_iff_getElem?.1 h
    rw [List.getElem?_drop, List.getElem?_take, List.getElem?_zipIdx, Nat.zero_add] at hi
    split at hi
    · next hlt =>
      obtain ⟨line', hline, heq⟩ := Option.map_eq_some_iff.1 hi
      obtain ⟨rfl, rfl⟩ := Prod.mk.inj heq
      exact ⟨hline, Nat.le_add_right first i, Nat.le_of_lt_succ hlt⟩
    · cases hi
  · rintro ⟨hline, hfirst, hlast⟩
    obtain ⟨i, rfl⟩ := Nat.exists_eq_add_of_le hfirst
    refine List.mem_iff_getElem?.2 ⟨i, ?_⟩
    rw [List.getElem?_drop, List.getElem?_take, if_pos (Nat.lt_succ_of_le hlast),
      List.getElem?_zipIdx, hline]
    simp

/-- The calls in a body are those in its lines. -/
theorem mem_callsIn_iff : s ∈ callsIn fs caller lines ↔
    s.caller = caller ∧ s.callee ∈ fs ∧ (caller.line ≤ s.line ∧ s.line ≤ caller.endLine) ∧
      ∃ line, lines[s.line]? = some line ∧ isComment line = false ∧
        s.column ∈ callColumns s.callee.name line ∧
        (s.line = caller.line → caller.nameColumn + caller.nameWidth ≤ s.column) := by
  rw [callsIn, List.mem_flatMap]
  constructor
  · rintro ⟨⟨line, index⟩, hline, h⟩
    obtain ⟨hat, hbody⟩ := mem_body_iff.1 hline
    obtain ⟨hcaller, hcallee, rfl, hcall⟩ := mem_callsInLine_iff.1 h
    exact ⟨hcaller, hcallee, hbody, line, hat, hcall⟩
  · rintro ⟨hcaller, hcallee, hbody, line, hat, hcall⟩
    exact ⟨(line, s.line), mem_body_iff.2 ⟨hat, hbody⟩,
      mem_callsInLine_iff.2 ⟨hcaller, hcallee, rfl, hcall⟩⟩

theorem mem_callsIn (hcaller : caller ∈ fs) (h : s ∈ callsIn fs caller lines) :
    s.caller = caller ∧ s.Stands fs lines := by
  obtain ⟨rfl, hcallee, hbody, line, hat, -, hcolumn, -⟩ := mem_callsIn_iff.1 h
  obtain ⟨before, after, hcs, hn, -⟩ := standsAt_of_mem (List.mem_filter.1 hcolumn).1
  refine ⟨rfl, ⟨hcaller, hcallee, hbody.1, hbody.2,
    ⟨line, before, "(".toList ++ after, hat, ?_, by omega⟩⟩⟩
  rw [hcs]
  simp only [List.append_assoc]

theorem stands_of_mem_calls (h : s ∈ (build [(uri, text)]).calls) :
    s.Stands (Source.functions uri text) (Text.lines text.toList) := by
  rw [calls_build] at h
  obtain ⟨caller, hcaller, h⟩ := List.mem_flatMap.1 h
  exact (mem_callsIn hcaller h).2

/-! ### The order of the calls -/

/-- A call does not stand behind another one. -/
def NotBehind (s t : CallSite) : Prop :=
  s.line < t.line ∨ s.line = t.line ∧ s.callee.line ≤ t.callee.line

theorem pairwise_callsInLine (hfs : fs.Pairwise fun f g => f.line < g.line) (line : List Char)
    (index : Nat) : (callsInLine fs caller line index).Pairwise NotBehind := by
  unfold callsInLine
  split
  · exact .nil
  · refine List.pairwise_flatMap.2 ⟨fun callee _ => ?_, hfs.imp fun hlt s hs t ht => ?_⟩
    · exact List.pairwise_map.2 (List.pairwise_of_forall fun _ _ => .inr ⟨rfl, Nat.le_refl _⟩)
    · obtain ⟨_, -, rfl⟩ := List.mem_map.1 hs
      obtain ⟨_, -, rfl⟩ := List.mem_map.1 ht
      exact .inr ⟨rfl, Nat.le_of_lt hlt⟩

theorem pairwise_callsIn (hfs : fs.Pairwise fun f g => f.line < g.line) :
    (callsIn fs caller lines).Pairwise NotBehind := by
  refine List.pairwise_flatMap.2 ⟨fun _ _ => pairwise_callsInLine hfs _ _, ?_⟩
  have hbody := (pairwise_zipIdx lines).sublist
    ((List.drop_sublist caller.line _).trans (List.take_sublist (caller.endLine + 1) _))
  refine hbody.imp fun hlt s hs t ht => .inl ?_
  rw [(mem_callsInLine_iff.1 hs).2.2.1, (mem_callsInLine_iff.1 ht).2.2.1]
  exact hlt

/-- The calls of a text come in the order of their lines, and within a line in the order of the
functions called. -/
theorem pairwise_calls (uri text : String) : (build [(uri, text)]).calls.Pairwise NotBehind := by
  rw [calls_build]
  refine List.pairwise_flatMap.2
    ⟨fun _ _ => pairwise_callsIn (pairwise_line_functions uri text), ?_⟩
  refine (pairwise_functions uri text).imp_of_mem fun hf hg hlt s hs t ht => .inl ?_
  obtain ⟨rfl, hstands⟩ := mem_callsIn hf hs
  obtain ⟨rfl, hstands'⟩ := mem_callsIn hg ht
  exact Nat.lt_of_le_of_lt hstands.line_le (Nat.lt_of_lt_of_le hlt hstands'.caller_line_le)

/-! ### Groups -/

theorem keys_addTo (key : Function) (site : CallSite) (groups : List (Function × List CallSite)) :
    (addTo key site groups).map Prod.fst =
      if key ∈ groups.map Prod.fst then groups.map Prod.fst else groups.map Prod.fst ++ [key] := by
  induction groups with
  | nil => rfl
  | cons group groups ih =>
    obtain ⟨k, sites⟩ := group
    simp only [addTo]
    by_cases hk : k = key
    · simp [hk]
    · simp only [hk, if_false, List.map_cons, ih, List.mem_cons, Ne.symm hk, false_or]
      split <;> rfl

/-- The keys of groups, each once, in the order in which the calls pick them. -/
structure Keys (R : CallSite → CallSite → Prop) (select : CallSite → Option Function)
    (calls : List CallSite) (keys : List Function) : Prop where
  nodup : keys.Nodup
  mem_iff : ∀ key, key ∈ keys ↔ ∃ s ∈ calls, select s = some key
  ordered : keys.Pairwise fun key later =>
    ∃ s ∈ calls, select s = some key ∧ ∀ t ∈ calls, select t = some later → R s t

section Keys

variable {R : CallSite → CallSite → Prop} {select : CallSite → Option Function}
  {calls : List CallSite} {keys : List Function} {site : CallSite}

/-- A call behind the others leaves the order of the keys as it is. -/
theorem Keys.ordered_snoc (h : Keys R select calls keys) (hlast : ∀ s ∈ calls, R s site) :
    keys.Pairwise fun key later =>
      ∃ s ∈ calls ++ [site], select s = some key ∧
        ∀ t ∈ calls ++ [site], select t = some later → R s t := by
  refine h.ordered.imp fun ⟨s, hs, hselect, hbefore⟩ =>
    ⟨s, List.mem_append_left _ hs, hselect, fun t ht hlater => ?_⟩
  rcases List.mem_append.1 ht with ht | ht
  · exact hbefore t ht hlater
  · rw [List.mem_singleton.1 ht]
    exact hlast s hs

/-- A call that picks no new key leaves the keys as they are. -/
theorem Keys.snoc (h : Keys R select calls keys) (hlast : ∀ s ∈ calls, R s site)
    (hsite : ∀ key, select site = some key → key ∈ keys) :
    Keys R select (calls ++ [site]) keys := by
  refine ⟨h.nodup, fun key => ⟨fun hkey => ?_, fun ⟨s, hs, hselect⟩ => ?_⟩, h.ordered_snoc hlast⟩
  · obtain ⟨s, hs, hselect⟩ := (h.mem_iff key).1 hkey
    exact ⟨s, List.mem_append_left _ hs, hselect⟩
  · rcases List.mem_append.1 hs with hs | hs
    · exact (h.mem_iff key).2 ⟨s, hs, hselect⟩
    · rw [List.mem_singleton.1 hs] at hselect
      exact hsite key hselect

/-- A new key comes last. -/
theorem Keys.snoc_new (h : Keys R select calls keys) (hlast : ∀ s ∈ calls, R s site)
    {key : Function} (hkey : select site = some key) (hnew : key ∉ keys) :
    Keys R select (calls ++ [site]) (keys ++ [key]) := by
  refine ⟨h.nodup.append (List.nodup_singleton key) (by simpa using hnew), fun k => ?_,
    List.pairwise_append.2 ⟨h.ordered_snoc hlast, List.pairwise_singleton _ _, ?_⟩⟩
  · rw [List.mem_append, List.mem_singleton, h.mem_iff]
    constructor
    · rintro (⟨s, hs, hselect⟩ | rfl)
      · exact ⟨s, List.mem_append_left _ hs, hselect⟩
      · exact ⟨site, by simp, hkey⟩
    · rintro ⟨s, hs, hselect⟩
      rcases List.mem_append.1 hs with hs | hs
      · exact .inl ⟨s, hs, hselect⟩
      · rw [List.mem_singleton.1 hs, hkey] at hselect
        exact .inr (Option.some.inj hselect).symm
  · intro k hk k' hk'
    rw [List.mem_singleton.1 hk']
    obtain ⟨s, hs, hselect⟩ := (h.mem_iff k).1 hk
    refine ⟨s, List.mem_append_left _ hs, hselect, fun t ht hlater => ?_⟩
    rcases List.mem_append.1 ht with ht | ht
    · exact absurd ((h.mem_iff key).2 ⟨t, ht, hlater⟩) hnew
    · rw [List.mem_singleton.1 ht]
      exact hlast s hs

theorem keys_group (select : CallSite → Option Function) {g : CallGraph}
    (h : g.calls.Pairwise R) : Keys R select g.calls ((g.group select).map Prod.fst) := by
  unfold group
  generalize g.calls = calls at h
  induction calls using List.reverseRecOn with
  | nil => exact ⟨by simp, by simp, by simp⟩
  | append_singleton calls site ih =>
    obtain ⟨hcalls, -, hlast⟩ := List.pairwise_append.1 h
    replace hlast : ∀ s ∈ calls, R s site := fun s hs => hlast s hs site (by simp)
    have hkeys := ih hcalls
    rw [List.foldl_append, List.foldl_cons, List.foldl_nil]
    generalize calls.foldl _ [] = groups at hkeys
    cases hselect : select site with
    | none => exact hkeys.snoc hlast (by simp [hselect])
    | some key =>
      simp only [keys_addTo]
      split
      · next hold =>
        refine hkeys.snoc hlast fun k hk => ?_
        rwa [← Option.some.inj (hselect.symm.trans hk)]
      · next hnew => exact hkeys.snoc_new hlast hselect hnew

end Keys

/-- The groups of the calls of a function, by the functions at their other ends. -/
def groups (g : CallGraph) (direction : Direction) (f : Function) :
    List (Function × List CallSite) :=
  match direction with
  | .incoming => g.incoming f
  | .outgoing => g.outgoing f

/-- The functions one call away from a function are listed: each once, and in the order of their
first calls. -/
structure Lists (g : CallGraph) (direction : Direction) (f : Function) (hs : List Function) :
    Prop where
  nodup : hs.Nodup
  mem_iff : ∀ h, h ∈ hs ↔ ∃ s ∈ g.calls, s.near direction = f ∧ s.far direction = h
  ordered : hs.Pairwise fun h later => ∃ s ∈ g.calls, s.near direction = f ∧ s.far direction = h ∧
    ∀ t ∈ g.calls, t.near direction = f → t.far direction = later → s.Before t

theorem groups_eq (g : CallGraph) (direction : Direction) (f : Function) :
    g.groups direction f =
      g.group fun s => if s.near direction = f then some (s.far direction) else none := by
  cases direction <;> rfl

/-- Of two calls on one line, with one end the same and the other end not, the one that does not
stand behind the other stands before it. -/
theorem before_of_notBehind {direction : Direction} {s t : CallSite}
    (hs : s ∈ (build [(uri, text)]).calls) (ht : t ∈ (build [(uri, text)]).calls)
    (hnear : s.near direction = t.near direction) (hfar : s.far direction ≠ t.far direction)
    (h : NotBehind s t) : s.Before t := by
  have hs := stands_of_mem_calls hs
  have ht := stands_of_mem_calls ht
  rcases h with hlt | ⟨hline, hle⟩
  · exact .inl hlt
  · cases direction with
    | incoming =>
      -- The calls stand in the body of one function, which is the caller of both.
      exact absurd (eq_of_mem_bodies hs.caller_mem ht.caller_mem ⟨hs.caller_line_le, hs.line_le⟩
        ⟨hline ▸ ht.caller_line_le, hline ▸ ht.line_le⟩) hfar
    | outgoing =>
      refine .inr ⟨hline, Nat.lt_of_le_of_ne hle fun heq => ?_⟩
      exact hfar (eq_of_line_eq hs.callee_mem ht.callee_mem heq)

theorem lists_groups (direction : Direction) (f : Function) :
    (build [(uri, text)]).Lists direction f
      (((build [(uri, text)]).groups direction f).map Prod.fst) := by
  have hselect (s : CallSite) (h : Function) :
      (if s.near direction = f then some (s.far direction) else none) = some h ↔
        s.near direction = f ∧ s.far direction = h := by
    split <;> simp_all
  rw [groups_eq]
  obtain ⟨hnodup, hmem, hordered⟩ := keys_group
    (fun s => if s.near direction = f then some (s.far direction) else none)
    (pairwise_calls uri text)
  simp only [hselect] at hmem hordered
  refine ⟨hnodup, hmem, hordered.imp₂ (fun h later hfirst hne => ?_) hnodup⟩
  obtain ⟨s, hs, ⟨hnear, hfar⟩, hbefore⟩ := hfirst
  refine ⟨s, hs, hnear, hfar, fun t ht hnear' hfar' => ?_⟩
  refine before_of_notBehind hs ht (hnear.trans hnear'.symm) ?_ (hbefore t ht ⟨hnear', hfar'⟩)
  rw [hfar, hfar']
  exact hne

/-- A group belongs to a function of the text. -/
theorem mem_functions_of_mem_groups {direction : Direction} {f : Function}
    {e : Function × List CallSite} (he : e ∈ (build [(uri, text)]).groups direction f) :
    e.1 ∈ Source.functions uri text := by
  obtain ⟨s, hs, -, hfar⟩ := ((lists_groups direction f).mem_iff e.1).1 (List.mem_map_of_mem he)
  rw [← hfar]
  exact (stands_of_mem_calls hs).far_mem direction

end CallGraph

end CallHierarchy.Source
