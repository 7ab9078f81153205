import CallHierarchy.Proofs.Client.Turns
import CallHierarchy.Proofs.Tree.Walk
import Mathlib.Data.List.Forall2
import Mathlib.Data.List.Induction

/-! Tours of call trees: any calls that make nodes, one after the other, over a connection that may
do anything. A node has the direction of the root that it descends from, its entries show the items
of the reply that it was made of, and a question about an entry carries the item as the server sent
it (`tour_keeps`). -/

namespace CallHierarchy.Tour

variable {σ ε : Type}

/-! ### Questions -/

/-- A question to a server, with what came of it. -/
inductive Question (ε : Type) where
  | prepare (document : Uri) (position : Position) (reply : Except ε (Option (List Item)))
  | calls (direction : Direction) (item : Item) (reply : Except ε (Option (List Call)))

namespace Question

/-- The items that the reply names: those at the place, or those at the other ends of the calls. A
reply that has nothing to say names none. -/
def items : Question ε → Except ε (List Item)
  | prepare _ _ reply => reply.map (·.getD [])
  | calls _ _ reply => reply.map fun calls => (calls.getD []).map Call.item

/-- What the question makes: the level that the items form, or the failure of the connection. -/
def made (style : PathStyle) (direction : Direction) (q : Question ε) :
    Except (Node.Error ε) Node :=
  match q.items with
  | .ok items => .ok (Node.ofItems style direction items)
  | .error e => .error (.connection e)

/-- Whether the question is one about calls in a direction. -/
def walks (direction : Direction) : Question ε → Prop
  | prepare _ _ _ => False
  | calls asked _ _ => asked = direction

variable {style : PathStyle} {direction : Direction} {q : Question ε} {node : Node}

theorem made_eq_ok_iff : q.made style direction = .ok node ↔
    ∃ items, q.items = .ok items ∧ node = Node.ofItems style direction items := by
  unfold made
  cases q.items <;> simp [eq_comm]

end Question

/-- The connection, with the questions that it is asked kept beside its state. -/
def heard (c : Connection (StateM σ) ε) : Connection (StateM (σ × List (Question ε))) ε where
  prepare document position := ExceptT.mk fun (s, questions) =>
    let (reply, s) := (c.prepare document position).run.run s
    (reply, s, questions ++ [.prepare document position reply])
  calls direction item := ExceptT.mk fun (s, questions) =>
    let (reply, s) := (c.calls direction item).run.run s
    (reply, s, questions ++ [.calls direction item reply])

/-! ### Tours -/

/-- A call that makes a node. -/
inductive Step where
  /-- The symbols at a place. -/
  | root (style : PathStyle) (document : Uri) (position : Position) (direction : Direction)
  /-- The callers or callees of an item. -/
  | below (style : PathStyle) (direction : Direction) (item : Item)
  /-- The level below the entry at an index, of the node that the call of a number has made. -/
  | itemAt (maker index : Nat)

/-- A call that was made: the questions that it came to, and what it returned. -/
structure Visit (ε : Type) where
  step : Step
  questions : List (Question ε)
  outcome : Except (Node.Error ε) Node

/-- The visit that comes to one question, and makes what the question makes. -/
def Visit.asking (step : Step) (style : PathStyle) (direction : Direction) (q : Question ε) :
    Visit ε :=
  ⟨step, [q], q.made style direction⟩

/-- The node that a visit has made. -/
def node? (visits : List (Visit ε)) (n : Nat) : Option Node :=
  visits[n]?.bind (·.outcome.toOption)

theorem node?_eq_some_iff {visits : List (Visit ε)} {n : Nat} {node : Node} :
    node? visits n = some node ↔ ∃ visit, visits[n]? = some visit ∧ visit.outcome = .ok node := by
  have houtcome (outcome : Except (Node.Error ε) Node) :
      outcome.toOption = some node ↔ outcome = .ok node := by
    cases outcome <;> simp [Except.toOption]
  simp only [node?, Option.bind_eq_some_iff, houtcome]

theorem node?_of_take {visits : List (Visit ε)} {n k : Nat} {node : Node}
    (h : node? (visits.take k) n = some node) : node? visits n = some node := by
  obtain ⟨visit, hvisit, hok⟩ := node?_eq_some_iff.1 h
  rw [List.getElem?_take] at hvisit
  split at hvisit
  · exact node?_eq_some_iff.2 ⟨visit, hvisit, hok⟩
  · cases hvisit

/-- The run of a call, if the node that it is about is there. -/
def Step.run? {m : Type → Type} [Monad m] (c : Connection m ε) (visits : List (Visit ε)) :
    Step → Option (ExceptT (Node.Error ε) m Node)
  | root style document position direction => some (Node.root c style document position direction)
  | below style direction item => some (Node.below c style direction item)
  | itemAt maker index => (node? visits maker).map fun node => node.itemAt c index

/-- The node that a call is about is there. -/
def Step.applies (visits : List (Visit ε)) : Step → Prop
  | root .. | below .. => True
  | itemAt maker _ => ∃ node, node? visits maker = some node

/-- Makes a call after those that were made before. There is nothing to call on a node that is not
there. -/
def take (c : Connection (StateM σ) ε) (tour : σ × List (Visit ε)) (step : Step) :
    σ × List (Visit ε) :=
  match step.run? c tour.2, step.run? (heard c) tour.2 with
  | some run, some listened =>
    let (outcome, s) := run.run.run tour.1
    let questions := (listened.run.run (tour.1, [])).2.2
    (s, tour.2 ++ [⟨step, questions, outcome⟩])
  | _, _ => tour

/-- The calls of a tour that starts in a state of the connection. -/
def visits (c : Connection (StateM σ) ε) (s : σ) (steps : List Step) : List (Visit ε) :=
  (steps.foldl (take c) (s, [])).2

/-! ### One call -/

/-- What a call comes to after earlier ones: its questions and its outcome. -/
inductive Made (earlier : List (Visit ε)) : Visit ε → Prop where
  | root {style : PathStyle} {document : Uri} {position : Position} {direction : Direction}
      (reply : Except ε (Option (List Item))) :
      Made earlier (.asking (.root style document position direction) style direction
        (.prepare document position reply))
  | below {style : PathStyle} {direction : Direction} {item : Item}
      (reply : Except ε (Option (List Call))) :
      Made earlier (.asking (.below style direction item) style direction
        (.calls direction item reply))
  /-- The question carries the item that the server sent for the entry. -/
  | inside {maker index : Nat} {visit : Visit ε} {told : Question ε} {items : List Item}
      {node : Node} {item : Item} (hmaker : earlier[maker]? = some visit)
      (hnode : visit.outcome = .ok node) (htold : visit.questions = [told])
      (hitems : told.items = .ok items) (hitem : items[index]? = some item)
      (reply : Except ε (Option (List Call))) :
      Made earlier (.asking (.itemAt maker index) node.style node.direction
        (.calls node.direction item reply))
  | outside {maker index : Nat} {node : Node} (hnode : node? earlier maker = some node)
      (hindex : node.entries.length ≤ index) :
      Made earlier ⟨.itemAt maker index, [], .error (.indexOutOfRange index node.entries.length)⟩

/-- Visits that were made one after the other. -/
inductive Walked : List (Visit ε) → Prop where
  | nil : Walked []
  | snoc {earlier : List (Visit ε)} {visit : Visit ε} (hwalked : Walked earlier)
      (hmade : Made earlier visit) : Walked (earlier ++ [visit])

section Runs

variable {c : Connection (StateM σ) ε} {s : σ} {questions : List (Question ε)}

theorem root_run (style : PathStyle) (document : Uri) (position : Position)
    (direction : Direction) : (Node.root c style document position direction).run.run s =
      let (reply, s) := (c.prepare document position).run.run s
      ((Question.prepare document position reply).made style direction, s) := by
  rcases h : (c.prepare document position).run.run s with ⟨r, s'⟩
  have hadapt := run_adapt h (Node.Error.connection (ε := ε))
  cases r with
  | error e => exact run_bind_of_error hadapt
  | ok items => exact run_bind_of_ok hadapt

theorem below_run (style : PathStyle) (direction : Direction) (item : Item) :
    (Node.below c style direction item).run.run s =
      let (reply, s) := (c.calls direction item).run.run s
      ((Question.calls direction item reply).made style direction, s) := by
  rw [Node.below_run]
  rcases (c.calls direction item).run.run s with ⟨_ | _, s'⟩ <;> rfl

/-- A call that comes to one question, whatever the connection, is a visit that asks it. -/
theorem take_asking {earlier : List (Visit ε)} {step : Step} {style : PathStyle}
    {direction : Direction} {q : Question ε} {s' : σ}
    {run : ExceptT (Node.Error ε) (StateM σ) Node}
    {listened : ExceptT (Node.Error ε) (StateM (σ × List (Question ε))) Node}
    (hrun : step.run? c earlier = some run)
    (hlistened : step.run? (heard c) earlier = some listened)
    (hmade : run.run.run s = (q.made style direction, s'))
    (hasked : (listened.run.run (s, [])).2.2 = [q]) :
    take c (s, earlier) step = (s', earlier ++ [.asking step style direction q]) := by
  simp only [take, hrun, hlistened, hmade, hasked, Visit.asking]

end Runs

namespace Made

variable {earlier : List (Visit ε)} {visit : Visit ε}

/-- A node is made of the reply to the one question of its visit. -/
theorem told {node : Node} (h : Made earlier visit) (hnode : visit.outcome = .ok node) :
    ∃ told items, visit.questions = [told] ∧ told.items = .ok items ∧
      node.entries = items.map (Entry.ofItem node.style) := by
  have hmade (style : PathStyle) (direction : Direction) (q : Question ε)
      (hq : q.made style direction = .ok node) :
      ∃ items, q.items = .ok items ∧ node.entries = items.map (Entry.ofItem node.style) := by
    obtain ⟨items, hitems, rfl⟩ := Question.made_eq_ok_iff.1 hq
    exact ⟨items, hitems, rfl⟩
  cases h with
  | root reply | below reply | inside _ _ _ _ _ reply =>
    obtain ⟨items, hitems, hentries⟩ := hmade _ _ _ hnode
    exact ⟨_, items, rfl, hitems, hentries⟩
  | outside => cases hnode

/-- A call on a node asks about calls in the direction of that node, and what it makes has the
direction and the style of that node. -/
theorem itemAt {maker index : Nat} (h : Made earlier visit)
    (hstep : visit.step = .itemAt maker index) :
    ∃ above, node? earlier maker = some above ∧
      (∀ q ∈ visit.questions, q.walks above.direction) ∧
      ∀ node, visit.outcome = .ok node →
        node.direction = above.direction ∧ node.style = above.style := by
  cases h with
  | root reply | below reply => cases hstep
  | @inside _ _ _ _ _ above _ hmaker hnode _ _ _ reply =>
    cases hstep
    refine ⟨above, node?_eq_some_iff.2 ⟨_, hmaker, hnode⟩,
      by simp [Visit.asking, Question.walks], fun node hok => ?_⟩
    obtain ⟨items, -, rfl⟩ := Question.made_eq_ok_iff.1 hok
    exact ⟨rfl, rfl⟩
  | outside hnode _ =>
    cases hstep
    exact ⟨_, hnode, by simp, nofun⟩

end Made

/-! ### Whole tours -/

namespace Walked

variable {visits : List (Visit ε)}

theorem made (h : Walked visits) {n : Nat} {visit : Visit ε} (hn : visits[n]? = some visit) :
    Made (visits.take n) visit := by
  induction h with
  | nil => simp at hn
  | @snoc earlier last _ hlast ih =>
    rcases Nat.lt_trichotomy n earlier.length with hlt | rfl | hgt
    · rw [List.getElem?_append_left hlt] at hn
      rw [List.take_append_of_le_length (Nat.le_of_lt hlt)]
      exact ih hn
    · rw [List.getElem?_concat_length, Option.some.injEq] at hn
      rw [List.take_left, ← hn]
      exact hlast
    · rw [List.getElem?_eq_none (by simp; omega)] at hn
      cases hn

end Walked

/-- A call that applies comes to one more visit, which is made as its step says. -/
theorem take_made (c : Connection (StateM σ) ε) (s : σ) {earlier : List (Visit ε)}
    (hwalked : Walked earlier) {step : Step} (h : step.applies earlier) :
    ∃ s' visit, take c (s, earlier) step = (s', earlier ++ [visit]) ∧ visit.step = step ∧
      Made earlier visit := by
  cases step with
  | root style document position direction =>
    exact ⟨_, _, take_asking rfl rfl (root_run ..) (by rw [root_run]; rfl), rfl, .root _⟩
  | below style direction item =>
    exact ⟨_, _, take_asking rfl rfl (below_run ..) (by rw [below_run]; rfl), rfl, .below _⟩
  | itemAt maker index =>
    obtain ⟨node, hnode⟩ := h
    have hrun {m : Type → Type} [Monad m] (c : Connection m ε) :
        (Step.itemAt maker index).run? c earlier = some (node.itemAt c index) := by
      rw [Step.run?, hnode, Option.map_some]
    cases hentry : node.entries[index]? with
    | none =>
      have hthrow {m : Type → Type} [Monad m] (c : Connection m ε) : node.itemAt c index =
          throw (.indexOutOfRange index node.entries.length) := by
        rw [Node.itemAt, hentry]
      refine ⟨s, _, ?_, rfl, .outside hnode (List.getElem?_eq_none_iff.1 hentry)⟩
      simp only [take, hrun, hthrow]
      rfl
    | some entry =>
      have hbelow {τ : Type} (c : Connection (StateM τ) ε) :=
        (hrun c).trans (congrArg some (Node.itemAt_of_getElem? c hentry))
      obtain ⟨visit, hmaker, hok⟩ := node?_eq_some_iff.1 hnode
      obtain ⟨told, items, htold, hitems, hentries⟩ := (hwalked.made hmaker).told hok
      -- An entry stands at the index of its item in the reply that the node was made of.
      have hitem : items[index]? = some entry.item := by
        obtain ⟨item, hitem, rfl⟩ := Option.map_eq_some_iff.1
          (List.getElem?_map .. ▸ hentries ▸ hentry)
        exact hitem
      exact ⟨_, _, take_asking (hbelow c) (hbelow (heard c)) (below_run ..)
        (by rw [below_run]; rfl), rfl, .inside hmaker hok htold hitems hitem _⟩

theorem take_of_not_applies (c : Connection (StateM σ) ε) {tour : σ × List (Visit ε)} {step : Step}
    (h : ¬step.applies tour.2) : take c tour step = tour := by
  cases step with
  | root | below => exact absurd trivial h
  | itemAt maker index =>
    have hnone : node? tour.2 maker = none := by
      simpa [Step.applies, Option.eq_none_iff_forall_ne_some] using h
    simp only [take, Step.run?, hnone, Option.map_none]

theorem visits_walked (c : Connection (StateM σ) ε) (s : σ) (steps : List Step) :
    Walked (visits c s steps) := by
  induction steps using List.reverseRecOn with
  | nil => exact .nil
  | append_singleton steps step ih =>
    rw [visits, List.foldl_concat]
    by_cases h : step.applies (visits c s steps)
    · obtain ⟨s', visit, htake, -, hmade⟩ := take_made c _ ih h
      exact htake ▸ ih.snoc hmade
    · rw [take_of_not_applies c h]
      exact ih

/-- The visits that go down from a node: the one that made it, and those of the calls on nodes that
descend from it. -/
inductive Under (visits : List (Visit ε)) (root : Nat) : Nat → Prop where
  | here : Under visits root root
  | next {n maker index : Nat} {visit : Visit ε} (habove : Under visits root maker)
      (hvisit : visits[n]? = some visit) (hstep : visit.step = .itemAt maker index) :
      Under visits root n

/-- The nodes that descend from a node have its direction and style. -/
theorem Walked.under {visits : List (Visit ε)} (h : Walked visits) {root n : Nat}
    (hunder : Under visits root n) {top node : Node} (htop : node? visits root = some top)
    (hnode : node? visits n = some node) :
    node.direction = top.direction ∧ node.style = top.style := by
  induction hunder generalizing node with
  | here =>
    cases htop.symm.trans hnode
    exact ⟨rfl, rfl⟩
  | @next n maker index visit _ hvisit hstep ih =>
    obtain ⟨above, habove, -, hmade⟩ := (h.made hvisit).itemAt hstep
    obtain ⟨_, hn, hok⟩ := node?_eq_some_iff.1 hnode
    cases hvisit.symm.trans hn
    have hsame := hmade node hok
    have hup := ih (node?_of_take habove)
    exact ⟨hsame.1.trans hup.1, hsame.2.trans hup.2⟩

theorem Walked.under_walks {visits : List (Visit ε)} (h : Walked visits) {root n : Nat}
    (hunder : Under visits root n) {top : Node} (htop : node? visits root = some top)
    {visit : Visit ε} (hvisit : visits[n]? = some visit) {maker index : Nat}
    (hstep : visit.step = .itemAt maker index) {q : Question ε} (hq : q ∈ visit.questions) :
    q.walks top.direction := by
  obtain ⟨above, habove, hwalks, hmade⟩ := (h.made hvisit).itemAt hstep
  have hdirection : above.direction = top.direction := by
    cases hunder with
    | here =>
      obtain ⟨_, hn, hok⟩ := node?_eq_some_iff.1 htop
      cases hvisit.symm.trans hn
      exact (hmade top hok).1.symm
    | next hup hn hstep' =>
      cases hvisit.symm.trans hn
      cases hstep.symm.trans hstep'
      exact (h.under hup htop (node?_of_take habove)).1
  exact hdirection ▸ hwalks q hq

/-! ### Answers -/

/-- The items that an answer about calls names: each is at the key of the direction in its call. -/
inductive Names (direction : Direction) : Json → List Item → Prop where
  | null : Names direction .null []
  | array {elements : List Json} {items : List Item}
      (h : List.Forall₂ (fun element item => ∃ value ranges,
        element.fields? [Call.key direction, "fromRanges"] 0 = some [some value, some ranges] ∧
        Item.ofJson? value = some item) elements items) :
      Names direction (.array elements) items

theorem call_ofJson?_eq_some {key : String} {v : Json} {call : Call}
    (h : Call.ofJson? key v = some call) : ∃ value ranges,
      v.fields? [key, "fromRanges"] 0 = some [some value, some ranges] ∧
      Item.ofJson? value = some call.item := by
  unfold Call.ofJson? at h
  obtain ⟨fields, hfields, h⟩ := Option.bind_eq_some_iff.1 h
  split at h
  · rename_i value ranges
    obtain ⟨item, hitem, h⟩ := Option.bind_eq_some_iff.1 h
    obtain ⟨places, -, h⟩ := Option.bind_eq_some_iff.1 h
    cases h
    exact ⟨value, ranges, hfields, hitem⟩
  · cases h

theorem forall₂_of_mapM_eq_some {α β : Type} {read : α → Option β} {as : List α} {bs : List β}
    (h : as.mapM read = some bs) : List.Forall₂ (fun a b => read a = some b) as bs := by
  induction as generalizing bs with
  | nil => cases h; exact .nil
  | cons a as ih =>
    rw [List.mapM_cons] at h
    obtain ⟨b, hb, h⟩ := Option.bind_eq_some_iff.1 h
    obtain ⟨bs', hbs, h⟩ := Option.bind_eq_some_iff.1 h
    cases h
    exact .cons hb (ih hbs)

theorem names_of_read {direction : Direction} {v : Json} {calls : Option (List Call)}
    (h : Json.nullable? (Json.list? (Call.ofJson? (Call.key direction))) v = some calls) :
    Names direction v ((calls.getD []).map Call.item) := by
  unfold Json.nullable? at h
  split at h
  · cases h
    exact .null
  · obtain ⟨calls, hlist, rfl⟩ := Option.map_eq_some_iff.1 h
    unfold Json.list? at hlist
    split at hlist
    · refine .array (List.forall₂_map_right_iff.2 ((forall₂_of_mapM_eq_some hlist).imp ?_))
      exact fun _ _ => call_ofJson?_eq_some
    · cases hlist

theorem names_of_readCalls {direction : Direction} {answer : Except Client.Failure Json}
    {calls : Option (List Call)} (h : Client.readCalls direction answer = .ok calls) :
    ∃ v, answer = .ok v ∧ Names direction v ((calls.getD []).map Call.item) := by
  cases answer with
  | error e => cases h
  | ok v =>
    refine ⟨v, rfl, names_of_read ?_⟩
    simp only [Client.readCalls, Client.readAnswer] at h
    split at h
    · next hread =>
      rw [hread, Except.ok.inj h]
    · cases h

/-- A reply of a transport about calls is read from the answer to one request, whose method is that
of the direction. -/
theorem calls_run (t : Client.Transport (StateM σ)) (direction : Direction) (item : Item) (s : σ) :
    let (answer, after) := (t.request (CallsParams.method direction)
      (CallsParams.toJson ⟨item, none, none⟩)).run.run s
    (t.connection.calls direction item).run.run s = (Client.readCalls direction answer, after) := by
  have hask : (t.connection.calls direction item).run = Client.readCalls direction <$>
      (t.request (CallsParams.method direction) (CallsParams.toJson ⟨item, none, none⟩)).run :=
    t.run_ask _ _ _
  rw [hask]
  rfl

/-- Whatever a connection does, a tour over it consists of visits that are each made as its step
says. A call that applies adds one visit to those before it and leaves them as they are; a call that
repeats an earlier one asks again. All that descends from a node has its direction and style, and
asks about calls in that direction only. Over a transport, such a question is one request with the
method of the direction, and its items are those at the key of the direction. -/
theorem tour_keeps (c : Connection (StateM σ) ε) (s : σ) (steps : List Step) :
    Walked (visits c s steps) ∧
    (∀ step, step.applies (visits c s steps) → ∃ visit, visit.step = step ∧
      Made (visits c s steps) visit ∧ visits c s (steps ++ [step]) = visits c s steps ++ [visit]) ∧
    (∀ root n top visit, node? (visits c s steps) root = some top →
      Under (visits c s steps) root n → (visits c s steps)[n]? = some visit →
      (∀ node, visit.outcome = .ok node →
        node.direction = top.direction ∧ node.style = top.style) ∧
      ∀ maker index, visit.step = .itemAt maker index →
        ∀ q ∈ visit.questions, q.walks top.direction) ∧
    ∀ (t : Client.Transport (StateM σ)) (direction : Direction) (item : Item) (s : σ),
      let (answer, after) := (t.request (CallsParams.method direction)
        (CallsParams.toJson ⟨item, none, none⟩)).run.run s
      (t.connection.calls direction item).run.run s = (Client.readCalls direction answer, after) ∧
        ∀ calls, Client.readCalls direction answer = .ok calls →
          ∃ v, answer = .ok v ∧ Names direction v ((calls.getD []).map Call.item) := by
  have hwalked : Walked (visits c s steps) := visits_walked c s steps
  refine ⟨hwalked, fun step happlies => ?_, fun root n top visit htop hunder hvisit => ?_,
    fun t direction item s => ⟨calls_run t direction item s, fun _ => names_of_readCalls⟩⟩
  · obtain ⟨s', visit, htake, hstep, hmade⟩ := take_made c _ hwalked happlies
    refine ⟨visit, hstep, hmade, ?_⟩
    rw [visits, List.foldl_concat]
    exact congrArg Prod.snd htake
  · refine ⟨fun node hok => ?_, fun maker index hstep q hq => ?_⟩
    · exact hwalked.under hunder htop (node?_eq_some_iff.2 ⟨visit, hvisit, hok⟩)
    · exact hwalked.under_walks hunder htop hvisit hstep hq

/-- The second time that it is asked about the symbol, the server fails. -/
example :
    let main := Item.onLine "main" 0
    let c : Connection (StateM Nat) String := {
      prepare _ _ := return some [main]
      calls _ item := ExceptT.mk fun asked =>
        (if asked = 0 then .ok (some [⟨item, []⟩]) else .error "gone", asked + 1) }
    let tour := visits c 0 [.root .posix main.uri main.range.start .incoming, .itemAt 0 0,
      .itemAt 0 0, .itemAt 2 0, .itemAt 0 1]
    tour.map (·.questions.length) = [1, 1, 1, 0] ∧
      tour.map (·.outcome.toBool) = [true, true, false, false] := ⟨rfl, rfl⟩

end CallHierarchy.Tour
