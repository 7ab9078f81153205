import CallHierarchy.Proofs.Tree.Places

/-! The walk of a call tree over a connection whose reply is a function of the question. It collects
the unfolding of the replies, and it asks once about each entry that it follows, in preorder. The
first reply that fails ends it (`collect_unfolds`). -/

namespace CallHierarchy

/-! ### Runs with a state -/

section Runs

variable {σ ε α β : Type} {x : ExceptT ε (StateM σ) α} {f : α → ExceptT ε (StateM σ) β} {s s' : σ}

theorem run_bind_of_ok {a : α} (h : x.run.run s = (.ok a, s')) :
    (x >>= f).run.run s = (f a).run.run s' := by
  rw [ExceptT.run_bind, StateT.run_bind, h]
  rfl

theorem run_bind_of_error {e : ε} (h : x.run.run s = (.error e, s')) :
    (x >>= f).run.run s = (.error e, s') := by
  rw [ExceptT.run_bind, StateT.run_bind, h]
  rfl

theorem run_adapt {ε' : Type} {r : Except ε α} (h : x.run.run s = (r, s')) (g : ε → ε') :
    (x.adapt g).run.run s = (r.mapError g, s') := by
  have hadapt : (x.adapt g).run = Except.mapError g <$> x.run := rfl
  rw [hadapt, StateT.run_map]
  exact congrArg (fun p => (p.1.mapError g, p.2)) h

end Runs

/-! ### Replies -/

/-- A symbol that takes up a line of one file. -/
def Item.onLine (name : String) (line : UInt32) : Item :=
  let place : Range := ⟨⟨line, 0⟩, ⟨line + 1, 0⟩⟩
  ⟨name, 12, none, none, ⟨"file:///a", by decide⟩, place, place, none⟩

/-- What a server says about the calls of a symbol, if it always says the same. -/
abbrev Replies (ε : Type) := Direction → Item → Except ε (Option (List Call))

namespace Replies

variable {ε : Type}

/-- The items that a reply names. It names none if it failed or has nothing to say. -/
def items (replies : Replies ε) (direction : Direction) (item : Item) : List Item :=
  match replies direction item with
  | .ok calls => (calls.getD []).map Call.item
  | .error _ => []

/-- The entries below an entry of a node. -/
def next (replies : Replies ε) (node : Node) (entry : Entry) : List Entry :=
  (replies.items node.direction entry.item).map (Entry.ofItem node.style)

end Replies

/-- What asking about one item after the other comes to: the items asked about, up to the first
failure, and that failure. -/
structure Inquiry (ε : Type) where
  asked : List Item
  failure : Option ε

namespace Inquiry

variable {ε α : Type}

def of (reply : Item → Except ε α) : List Item → Inquiry ε
  | [] => ⟨[], none⟩
  | item :: rest =>
    match reply item with
    | .error e => ⟨[item], some e⟩
    | .ok _ =>
      let later := of reply rest
      { later with asked := item :: later.asked }

/-- The outcome of a walk that asks so and comes to `x`. -/
def outcome (i : Inquiry ε) (x : α) : Except (Node.Error ε) α :=
  match i.failure with
  | none => .ok x
  | some e => .error (.connection e)

variable {reply : Item → Except ε α}

theorem of_append (items more : List Item) :
    of reply (items ++ more) = match (of reply items).failure with
      | none => { of reply more with asked := (of reply items).asked ++ (of reply more).asked }
      | some _ => of reply items := by
  induction items with
  | nil => rfl
  | cons item items ih =>
    rw [List.cons_append, of, of]
    split
    · rfl
    · simp only [ih]
      split <;> simp_all

/-- Either every reply is there, or the first one that is not ends the inquiry. -/
theorem of_cases (reply : Item → Except ε α) (items : List Item) :
    (of reply items = ⟨items, none⟩ ∧ ∀ item ∈ items, ∃ x, reply item = .ok x) ∨
    ∃ before item later e, items = before ++ item :: later ∧
      (∀ i ∈ before, ∃ x, reply i = .ok x) ∧ reply item = .error e ∧
      of reply items = ⟨before ++ [item], some e⟩ := by
  induction items with
  | nil => exact .inl ⟨rfl, by simp⟩
  | cons item items ih =>
    cases hreply : reply item with
    | error e =>
      exact .inr ⟨[], item, items, e, rfl, by simp, hreply, by simp [of, hreply]⟩
    | ok x =>
      rcases ih with ⟨heq, hall⟩ | ⟨before, i, later, e, heq, hall, hi, hof⟩
      · exact .inl ⟨by simp [of, hreply, heq], by simpa [hreply] using hall⟩
      · refine .inr ⟨item :: before, i, later, e, by simp [heq], ?_, hi, by simp [of, hreply, hof]⟩
        simpa [hreply] using hall

theorem failure_of_ok {items : List Item} (h : ∀ item ∈ items, ∃ x, reply item = .ok x) :
    (of reply items).failure = none := by
  rcases of_cases reply items with ⟨heq, _⟩ | ⟨before, item, later, e, hsplit, _, hitem, _⟩
  · rw [heq]
  · obtain ⟨x, hx⟩ := h item (by rw [hsplit]; simp)
    rw [hitem] at hx
    contradiction

theorem asked_of_none {items : List Item} (h : (of reply items).failure = none) :
    (of reply items).asked = items := by
  rcases of_cases reply items with ⟨heq, _⟩ | ⟨_, _, _, _, _, _, _, heq⟩
  · rw [heq]
  · simp [heq] at h

end Inquiry

namespace Connection

variable {σ ε : Type}

/-- The state of a connection that has been asked about items in a direction. -/
def after (c : Connection (StateM σ) ε) (direction : Direction) (s : σ) (items : List Item) : σ :=
  items.foldl (fun s item => ((c.calls direction item).run.run s).2) s

/-- In states that are `ready`, the connection replies to questions about certain items as it always
does, and it stays ready. -/
structure Steady (c : Connection (StateM σ) ε) (replies : Replies ε) (direction : Direction)
    (ready : σ → Prop) (items : List Item) : Prop where
  reply : ∀ item ∈ items, ∀ s, ready s →
    ((c.calls direction item).run.run s).1 = replies direction item
  ready : ∀ item ∈ items, ∀ s, ready s → ready ((c.calls direction item).run.run s).2

variable {c : Connection (StateM σ) ε} {replies : Replies ε} {direction : Direction}
  {ready : σ → Prop} {items more : List Item}

theorem Steady.mono (h : c.Steady replies direction ready items) (hsub : more ⊆ items) :
    c.Steady replies direction ready more :=
  ⟨fun item hi => h.reply item (hsub hi), fun item hi => h.ready item (hsub hi)⟩

theorem Steady.after (h : c.Steady replies direction ready items) {s : σ} (hs : ready s) :
    ready (c.after direction s items) := by
  induction items generalizing s with
  | nil => exact hs
  | cons item items ih =>
    exact ih (h.mono (List.subset_cons_self item items)) (h.ready item (by simp) s hs)

theorem after_append (c : Connection (StateM σ) ε) (direction : Direction) (s : σ)
    (items more : List Item) : c.after direction s (items ++ more) =
      c.after direction (c.after direction s items) more :=
  List.foldl_append

/-- What comes of asking about items and then yielding `x`, and the state in which it ends. -/
def inquire {α : Type} (c : Connection (StateM σ) ε) (replies : Replies ε) (direction : Direction)
    (items : List Item) (x : α) (s : σ) : Except (Node.Error ε) α × σ :=
  let i := Inquiry.of (replies direction) items
  (i.outcome x, c.after direction s i.asked)

section Inquire

variable {α β : Type}

theorem inquire_of_some {e : ε} (h : (Inquiry.of (replies direction) items).failure = some e)
    (x : α) (s : σ) : c.inquire replies direction items x s =
      (.error (.connection e),
        c.after direction s (Inquiry.of (replies direction) items).asked) := by
  simp only [inquire, h, Inquiry.outcome]

theorem inquire_of_none (h : (Inquiry.of (replies direction) items).failure = none)
    (x : α) (s : σ) :
    c.inquire replies direction items x s = (.ok x, c.after direction s items) := by
  have hasked : (Inquiry.of (replies direction) items).asked = items := Inquiry.asked_of_none h
  simp only [inquire, h, Inquiry.outcome, hasked]

theorem inquire_append_of_some {e : ε}
    (h : (Inquiry.of (replies direction) items).failure = some e) (x : α) (s : σ) :
    c.inquire replies direction (items ++ more) x s =
      (.error (.connection e),
        c.after direction s (Inquiry.of (replies direction) items).asked) := by
  simp only [inquire, Inquiry.of_append, h, Inquiry.outcome]

theorem inquire_append_of_none (h : (Inquiry.of (replies direction) items).failure = none)
    (x : α) (s : σ) : c.inquire replies direction (items ++ more) x s =
      c.inquire replies direction more x (c.after direction s items) := by
  have hasked : (Inquiry.of (replies direction) items).asked = items := Inquiry.asked_of_none h
  simp only [inquire, Inquiry.of_append, h, Inquiry.outcome, hasked, after_append]

theorem inquire_cons_of_error {item : Item} {e : ε} (h : replies direction item = .error e)
    (x : α) (s : σ) : c.inquire replies direction (item :: items) x s =
      (.error (.connection e), ((c.calls direction item).run.run s).2) := by
  simp only [inquire, Inquiry.of, h, Inquiry.outcome, Connection.after, List.foldl_cons,
    List.foldl_nil]

theorem inquire_cons_of_ok {item : Item} {calls : Option (List Call)}
    (h : replies direction item = .ok calls) (x : α) (s : σ) :
    c.inquire replies direction (item :: items) x s =
      c.inquire replies direction items x ((c.calls direction item).run.run s).2 := by
  simp only [inquire, Inquiry.of, h, Inquiry.outcome, Connection.after, List.foldl_cons]

/-- What is done with the result of an inquiry changes the result alone. -/
theorem run_bind_inquire {run : ExceptT (Node.Error ε) (StateM σ) α} {x : α} {s : σ}
    (h : run.run.run s = c.inquire replies direction items x s) (f : α → β) :
    (run >>= fun a => pure (f a)).run.run s = c.inquire replies direction items (f x) s := by
  cases hfailure : (Inquiry.of (replies direction) items).failure with
  | some e =>
    rw [inquire_of_some hfailure] at h ⊢
    exact run_bind_of_error h
  | none =>
    rw [inquire_of_none hfailure] at h ⊢
    exact run_bind_of_ok h

/-- Inquiries one after the other are one inquiry. -/
theorem mapM_run {f : α → ExceptT (Node.Error ε) (StateM σ) β} {result : α → β}
    {asks : α → List Item} {as : List α}
    (hsteady : c.Steady replies direction ready (as.flatMap asks))
    (hf : ∀ a ∈ as, ∀ s, ready s →
      (f a).run.run s = c.inquire replies direction (asks a) (result a) s) {s : σ} (hs : ready s) :
    (as.mapM f).run.run s = c.inquire replies direction (as.flatMap asks) (as.map result) s := by
  induction as generalizing s with
  | nil => rfl
  | cons a as ih =>
    rw [List.mapM_cons, List.flatMap_cons, List.map_cons]
    have ha := hf a (by simp) s hs
    cases hfailure : (Inquiry.of (replies direction) (asks a)).failure with
    | some e =>
      rw [inquire_append_of_some hfailure]
      exact run_bind_of_error (ha.trans (inquire_of_some hfailure _ s))
    | none =>
      rw [inquire_append_of_none hfailure]
      refine (run_bind_of_ok (ha.trans (inquire_of_none hfailure _ s))).trans ?_
      have hready := (hsteady.mono (by simp : asks a ⊆ _)).after hs
      exact run_bind_inquire
        (ih (hsteady.mono (by simp)) (fun b hb => hf b (List.mem_cons_of_mem a hb)) hready) _

end Inquire

end Connection

/-! ### The walk -/

theorem Node.itemAt_of_getElem? {σ ε : Type} (c : Connection (StateM σ) ε) {node : Node}
    {index : Nat} {entry : Entry} (h : node.entries[index]? = some entry) :
    node.itemAt c index = Node.below c node.style node.direction entry.item := by
  rw [itemAt, h]

/-- The level below an item is what the reply names. -/
theorem Node.below_run {σ ε : Type} (c : Connection (StateM σ) ε) (style : PathStyle)
    (direction : Direction) (item : Item) (s : σ) :
    (Node.below c style direction item).run.run s =
      (match ((c.calls direction item).run.run s).1 with
        | .ok calls => .ok (ofItems style direction ((calls.getD []).map Call.item))
        | .error e => .error (.connection e),
      ((c.calls direction item).run.run s).2) := by
  rcases h : (c.calls direction item).run.run s with ⟨r, s'⟩
  have hadapt := run_adapt h (Node.Error.connection (ε := ε))
  cases r with
  | error e => exact run_bind_of_error hadapt
  | ok calls => exact run_bind_of_ok hadapt

namespace Tree

open Connection

/-- The items of the entries that were followed, in preorder. -/
def followed (above : List Entry) (trees : List Tree) : List Item :=
  ((placesIn above trees).filter (·.tree.expanded)).map (·.tree.entry.item)

section Followed

variable {next : Entry → List Entry} {depth : Nat} {above entries : List Entry}

theorem followed_unfold_zero : followed above (entries.map (unfold next 0 above)) = [] := by
  simp [followed, placesIn_eq_flatMap, List.flatMap_map, List.filter_flatMap, unfold, places,
    placesIn]

theorem followed_unfold_succ :
    followed above (entries.map (unfold next (depth + 1) above)) = entries.flatMap fun e =>
      if recurs above e then []
      else e.item :: followed (above ++ [e]) ((next e).map (unfold next depth (above ++ [e]))) := by
  rw [followed, placesIn_eq_flatMap, List.flatMap_map, List.filter_flatMap, List.map_flatMap]
  refine List.flatMap_congr fun e _ => ?_
  rw [unfold]
  split <;> rfl

end Followed

variable {σ ε : Type} {c : Connection (StateM σ) ε} {replies : Replies ε} {node : Node}
  {ready : σ → Prop} {log : σ → List (Direction × Item)}

/-- A walk asks about the entries that it follows, and collects the unfolding of the replies. -/
theorem collectBelow_run {depth : Nat} {above : List Entry}
    (hsteady : c.Steady replies node.direction ready
      (followed above (node.entries.map (unfold (replies.next node) depth above))))
    {s : σ} (hs : ready s) :
    (collectBelow c depth above node).run.run s =
      c.inquire replies node.direction
        (followed above (node.entries.map (unfold (replies.next node) depth above)))
        (node.entries.map (unfold (replies.next node) depth above)) s := by
  induction depth generalizing above node s with
  | zero =>
    rw [followed_unfold_zero]
    rfl
  | succ depth ih =>
    rw [followed_unfold_succ] at hsteady ⊢
    -- The index of an entry finds the entry, so the walk is one over the entries alone.
    have hzip : node.entries = node.entries.zipIdx.map Prod.fst := by simp
    rw [hzip, List.flatMap_map] at hsteady ⊢
    rw [List.map_map]
    refine mapM_run hsteady (fun ⟨e, index⟩ he s hs => ?_) hs
    have hasks := hsteady.mono fun i hi => List.mem_flatMap.2 ⟨_, he, hi⟩
    simp only [Function.comp_apply, unfold]
    by_cases hrec : recurs above e = true
    · simp only [hrec, if_true]
      rfl
    · simp only [Bool.eq_false_iff.2 hrec, Bool.false_eq_true, if_false] at hasks ⊢
      rw [Node.itemAt_of_getElem? c (List.mem_zipIdx_iff_getElem?.1 he)]
      have hbelow := Node.below_run c node.style node.direction e.item s
      rw [hasks.reply e.item (by simp) s hs] at hbelow
      cases hreply : replies node.direction e.item with
      | error cause =>
        rw [hreply] at hbelow
        rw [inquire_cons_of_error hreply]
        exact run_bind_of_error hbelow
      | ok calls =>
        rw [hreply] at hbelow
        rw [inquire_cons_of_ok hreply]
        refine (run_bind_of_ok hbelow).trans (run_bind_inquire ?_ _)
        generalize hlevel : Node.ofItems node.style node.direction
          ((calls.getD []).map Call.item) = level
        have hnext : replies.next node e = level.entries := by
          simp [← hlevel, Replies.next, Replies.items, hreply, Node.ofItems]
        have hsame : replies.next level = replies.next node := by
          rw [← hlevel]
          rfl
        have hdirection : level.direction = node.direction := by
          rw [← hlevel]
          rfl
        rw [hnext, ← hsame, ← hdirection] at hasks
        rw [hnext, ← hsame, ← hdirection]
        exact ih (hasks.mono (List.subset_cons_self _ _)) (hasks.ready e.item (by simp) s hs)

end Tree

namespace Connection

variable {σ ε : Type} {c : Connection (StateM σ) ε} {replies : Replies ε}

/-- The reply of the connection is a function of the question, whatever state it is in. -/
def Answers (c : Connection (StateM σ) ε) (replies : Replies ε) : Prop :=
  ∀ direction item s, ((c.calls direction item).run.run s).1 = replies direction item

theorem Answers.steady (h : c.Answers replies) (direction : Direction) (items : List Item) :
    c.Steady replies direction (fun _ => True) items :=
  ⟨fun item _ s _ => h direction item s, fun _ _ _ _ => trivial⟩

/-- A connection that replies by a function, and keeps the questions as its state. -/
def recording (replies : Replies ε) : Connection (StateM (List (Direction × Item))) ε where
  prepare _ _ := return none
  calls direction item :=
    ExceptT.mk (modifyGet fun log => (replies direction item, log ++ [(direction, item)]))

theorem recording_answers (replies : Replies ε) : (recording replies).Answers replies :=
  fun _ _ _ => rfl

theorem recording_after (replies : Replies ε) (direction : Direction)
    (log : List (Direction × Item)) (items : List Item) :
    (recording replies).after direction log items = log ++ items.map (direction, ·) := by
  induction items generalizing log with
  | nil => simp [after]
  | cons item items ih =>
    have hrest := ih (log ++ [(direction, item)])
    rw [List.append_assoc] at hrest
    exact hrest

end Connection

namespace Tree

open Connection

variable {σ ε : Type} {c : Connection (StateM σ) ε} {replies : Replies ε} {node : Node}
  {depth : Nat} {s : σ} {trees : List Tree}

/-- The run of a walk over a connection whose reply is a function of the question. -/
theorem collect_run (h : c.Answers replies) (node : Node) (depth : Nat) (s : σ) :
    (collect c node depth).run.run s = c.inquire replies node.direction
      (followed [] (node.entries.map (unfold (replies.next node) depth [])))
      (node.entries.map (unfold (replies.next node) depth [])) s :=
  collectBelow_run (h.steady node.direction _) trivial

/-- A walk comes to trees if they unfold the replies and each reply to it is there. -/
theorem collect_eq_ok_iff (h : c.Answers replies) :
    ((collect c node depth).run.run s).1 = .ok trees ↔
      trees = node.entries.map (unfold (replies.next node) depth []) ∧
        ∀ item ∈ followed [] trees, ∃ calls, replies node.direction item = .ok calls := by
  rw [collect_run h]
  generalize node.entries.map (unfold (replies.next node) depth []) = unfolding
  rcases Inquiry.of_cases (replies node.direction) (followed [] unfolding) with
    ⟨heq, hall⟩ | ⟨before, item, later, e, hsplit, _, hitem, heq⟩
  · rw [inquire_of_none (by rw [heq]), Except.ok.injEq, eq_comm]
    exact ⟨fun htrees => ⟨htrees, htrees ▸ hall⟩, And.left⟩
  · rw [inquire_of_some (e := e) (by rw [heq])]
    refine ⟨nofun, fun ⟨htrees, hall⟩ => ?_⟩
    obtain ⟨calls, hcalls⟩ := hall item (by rw [htrees, hsplit]; simp)
    rw [hitem] at hcalls
    contradiction

theorem collect_run_of_ok (h : c.Answers replies)
    (hok : ((collect c node depth).run.run s).1 = .ok trees) :
    (collect c node depth).run.run s =
      (.ok trees, c.after node.direction s (followed [] trees)) := by
  obtain ⟨rfl, hall⟩ := (collect_eq_ok_iff h).1 hok
  rw [collect_run h, inquire_of_none (Inquiry.failure_of_ok hall)]

/-- A walk collects the trees of a node that unfold the replies, of which there is one row. It asks
once about each entry that it follows, in preorder. If a reply fails, the first one to fail is what
the walk comes to, and nothing is asked after it. What was asked shows in the state that the walk
ends in, whatever it is that asking does to the state. -/
theorem collect_unfolds (h : c.Answers replies) (node : Node) (depth : Nat) (s : σ) :
    let run := (collect c node depth).run.run s
    (∃ trees, Unfolds (replies.next node) depth [] node.entries trees ∧
      (∀ other, Unfolds (replies.next node) depth [] node.entries other → other = trees) ∧
      ((run = (.ok trees, c.after node.direction s (followed [] trees)) ∧
          ∀ item ∈ followed [] trees, ∃ calls, replies node.direction item = .ok calls) ∨
        ∃ before item later e, followed [] trees = before ++ item :: later ∧
          (∀ i ∈ before, ∃ calls, replies node.direction i = .ok calls) ∧
          replies node.direction item = .error e ∧
          run = (.error (.connection e), c.after node.direction s (before ++ [item])))) ∧
    ∀ index length, run.1 ≠ .error (.indexOutOfRange index length) := by
  intro run
  have hrun := collect_run h node depth s
  have hunique (other : List Tree) : Unfolds (replies.next node) depth [] node.entries other ↔
      other = node.entries.map (unfold (replies.next node) depth []) := by
    rw [← unfolds_iff, List.length_nil, Nat.zero_add]
  generalize node.entries.map (unfold (replies.next node) depth []) = trees at hrun hunique
  rcases Inquiry.of_cases (replies node.direction) (followed [] trees) with
    ⟨heq, hall⟩ | ⟨before, item, later, e, hsplit, hbefore, hitem, heq⟩
  · have hok : run = (.ok trees, c.after node.direction s (followed [] trees)) :=
      hrun.trans (inquire_of_none (by rw [heq]) trees s)
    refine ⟨⟨trees, (hunique trees).2 rfl, fun other => (hunique other).1, .inl ⟨hok, hall⟩⟩, ?_⟩
    simp [hok]
  · have herror : run = (.error (.connection e), c.after node.direction s (before ++ [item])) := by
      have hfailure := hrun.trans (inquire_of_some (e := e) (by rw [heq]) trees s)
      rwa [heq] at hfailure
    refine ⟨⟨trees, (hunique trees).2 rfl, fun other => (hunique other).1,
      .inr ⟨before, item, later, e, hsplit, hbefore, hitem, herror⟩⟩, ?_⟩
    simp [herror]

/-- The third reply of this walk fails. The main function, met again below one that it calls, is not
asked about again. -/
theorem collect_unfolds_failing :
    let main := Item.onLine "main" 0
    let load := Item.onLine "load" 4
    let read := Item.onLine "read" 8
    let replies : Replies String := fun _ item => match item.name with
      | "main" => .ok (some [⟨load, []⟩, ⟨read, []⟩])
      | "load" => .ok (some [⟨main, []⟩])
      | _ => .error "gone"
    let c := recording replies
    let node := Node.ofItems .posix .outgoing [main]
    let run := (collect c node 3).run.run []
    c.Answers replies ∧
      (∃ trees, Unfolds (replies.next node) 3 [] node.entries trees) ∧
      run = (.error (.connection "gone"), [main, load, read].map (.outgoing, ·)) := by
  intro main load read replies c node run
  obtain ⟨⟨trees, htrees, -, -⟩, -⟩ := collect_unfolds (recording_answers replies) node 3 []
  refine ⟨recording_answers replies, ⟨trees, htrees⟩, ?_⟩
  let shown := Entry.ofItem .posix
  have hagain : recurs [shown main, shown load] (shown main) = true :=
    recurs_iff.2 ⟨shown main, List.mem_cons_self, rfl, rfl, rfl⟩
  have hfollowed : followed [] (node.entries.map (unfold (replies.next node) 3 [])) =
      [main, load, read] := by
    have hentries : node.entries = [shown main] := rfl
    have hmain : replies.next node (shown main) = [shown load, shown read] := rfl
    have hload : replies.next node (shown load) = [shown main] := rfl
    have hread : replies.next node (shown read) = [] := rfl
    have hfirst : recurs [] (shown main) = false := rfl
    have hfresh : recurs [shown main] (shown load) = false ∧
        recurs [shown main] (shown read) = false := ⟨rfl, rfl⟩
    simp only [hentries, followed_unfold_succ, List.flatMap_cons, List.flatMap_nil, List.nil_append,
      List.cons_append, List.append_nil, hmain, hload, hread, hfirst, hfresh, hagain,
      Bool.false_eq_true, if_false, if_true]
    rfl
  refine (collect_run (recording_answers replies) node 3 []).trans ?_
  rw [hfollowed]
  rfl

end Tree

end CallHierarchy
