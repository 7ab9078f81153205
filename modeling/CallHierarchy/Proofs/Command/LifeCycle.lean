import CallHierarchy.Proofs.Command.Plan

/-! The life cycle of the program's session with a server, whatever the server does. The session is
started before anything else is said, a document that is opened is closed again after the last
question about it, and in the end the server is told to leave (`run_lifeCycle`). A server that is
gone when the client first comes to it is told nothing (`run_endedServer`). -/

namespace CallHierarchy

open Client

variable {ω : Type}

namespace Client

/-! ### The start and the end -/

/-- How a session starts, by the look of the server when the client first comes to it. The session
is asked for if the root has a URI. A server that is gone by then is not written the request. -/
inductive Greets (process : Nat) (root : String) (look : Look) :
    List Turn → Except Failure Greeting → Prop where
  | homeless {cause : Path.UriError} (hroot : Path.toUri root = .error cause) :
      Greets process root look [] (.error (.root root cause))
  | gone {uri : Uri} {e : Failure} (hroot : Path.toUri root = .ok uri) (hlook : look ≠ .live) :
      Greets process root look
        [.request "initialize" (Transport.greetingParams process root uri) look (.error e)]
        (.error e)
  | ungranted {uri : Uri} {answer : Except Failure Json} {e : Failure}
      (hroot : Path.toUri root = .ok uri) (hlook : look = .live)
      (hanswer : readAnswer Greeting.ofJson? "initialize" answer = .error e) :
      Greets process root look
        [.request "initialize" (Transport.greetingParams process root uri) look answer] (.error e)
  | granted {uri : Uri} {answer : Except Failure Json} {greeting : Greeting} {look' : Look}
      {outcome : Except Failure Unit} (hroot : Path.toUri root = .ok uri) (hlook : look = .live)
      (hanswer : readAnswer Greeting.ofJson? "initialize" answer = .ok greeting) :
      Greets process root look
        [.request "initialize" (Transport.greetingParams process root uri) look answer,
          .notify "initialized" (.object []) look' outcome] (outcome.map fun _ => greeting)

/-- How a session ends. Only a server that has agreed to it is told to leave. -/
inductive Parts : List Turn → Prop where
  | undone {look : Look} {e : Failure} : Parts [.request "shutdown" .null look (.error e)]
  | done {look look' : Look} {v : Json} {outcome : Except Failure Unit} :
      Parts [.request "shutdown" .null look (.ok v), .notify "exit" .null look' outcome]

variable {peer : Peer ω} {timeout : Nat}

theorem tells_greet (process : Nat) (root : String) (talk : Talk ω) :
    Tells ((recorded peer timeout).greet process root).run talk
      (Greets process root (talk.link.catchUp peer.taped).look) := by
  unfold Transport.greet
  cases hroot : Path.toUri root with
  | error cause => exact .pure (.homeless hroot)
  | ok uri =>
    refine (tells_ask peer timeout _ _ _ talk).sound.bindExcept
      (fun turns greeting talk' hturns => ?_) fun turns e hturns => ?_
    · obtain ⟨hsound, answer, rfl, hanswer⟩ := hturns
      have hlook : (talk.link.catchUp peer.taped).look = .live := by
        cases answer with
        | error e => cases hanswer
        | ok v => exact (hsound _ List.mem_cons_self).look_eq_live
      refine (tells_notify peer timeout _ _ talk').bindExcept (fun more _ _ hmore => ?_)
        fun more e hmore => ?_
      · subst hmore
        exact .pure (.granted hroot hlook hanswer.symm)
      · subst hmore
        exact .granted hroot hlook hanswer.symm
    · obtain ⟨hsound, answer, rfl, hanswer⟩ := hturns
      by_cases hlook : (talk.link.catchUp peer.taped).look = .live
      · exact .ungranted hroot hlook hanswer.symm
      · cases answer with
        | error e' =>
          cases hanswer
          exact .gone hroot hlook
        | ok v => exact absurd (hsound _ List.mem_cons_self).look_eq_live hlook

theorem tells_part (talk : Talk ω) :
    Tells (recorded peer timeout).part.run talk fun turns _ => Parts turns := by
  refine (tells_request peer timeout _ _ talk).bindExcept (fun turns v talk' hturns => ?_)
    fun turns e hturns => ?_
  · subst hturns
    refine (tells_notify peer timeout _ _ talk').mono fun more outcome hmore => ?_
    subst hmore
    exact .done
  · subst hturns
    exact .undone

end Client

/-! ### Questions about calls -/

/-- A request for the calls of an item in a direction. -/
def callsTurn (direction : Direction) (item : Item) (look : Look) (answer : Except Failure Json) :
    Turn :=
  .request (CallsParams.method direction) (CallsParams.toJson ⟨item, none, none⟩) look answer

/-- The turns of a walk in a direction. They are questions about calls, and the first that has no
answer ends it. -/
inductive Walks {α : Type} (direction : Direction) :
    List Turn → Except (Node.Error Failure) α → Prop where
  | done (a : α) : Walks direction [] (.ok a)
  | failed {item : Item} {look : Look} {answer : Except Failure Json} {e : Failure}
      (hanswer : readCalls direction answer = .error e) :
      Walks direction [callsTurn direction item look answer] (.error (.connection e))
  | next {item : Item} {look : Look} {answer : Except Failure Json} {calls : Option (List Call)}
      {turns : List Turn} {r : Except (Node.Error Failure) α}
      (hanswer : readCalls direction answer = .ok calls) (hrest : Walks direction turns r) :
      Walks direction (callsTurn direction item look answer :: turns) r

namespace Walks

variable {α β : Type} {direction : Direction} {turns more : List Turn}
  {r : Except (Node.Error Failure) α} {r' : Except (Node.Error Failure) β}

/-- A walk that has come to its end goes on with another one. -/
theorem append (h : Walks direction turns r) {a : α} (hr : r = .ok a)
    (hmore : Walks direction more r') : Walks direction (turns ++ more) r' := by
  induction h with
  | done => exact hmore
  | failed => cases hr
  | next hanswer _ ih => exact .next hanswer (ih hr)

theorem error (h : Walks direction turns r) {e : Node.Error Failure} (hr : r = .error e) :
    Walks direction turns (.error e : Except (Node.Error Failure) β) := by
  induction h with
  | done => cases hr
  | failed hanswer =>
    cases hr
    exact .failed hanswer
  | next hanswer _ ih => exact .next hanswer (ih hr)

end Walks

section Walk

variable {α β : Type} {peer : Peer ω} {timeout : Nat} {direction : Direction}

theorem tells_calls (item : Item) (talk : Talk ω) :
    Tells ((recorded peer timeout).connection.calls direction item).run talk fun turns r =>
      ∃ look answer, turns = [callsTurn direction item look answer] ∧
        r = readCalls direction answer := by
  refine Tells.mono (tells_ask peer timeout _ _ _ talk) fun turns r h => ?_
  obtain ⟨answer, hturns, hr⟩ := h
  exact ⟨_, answer, hturns, hr⟩

/-- The level below an item comes of one question, and has the direction of it. -/
theorem tells_below (style : PathStyle) (item : Item) (talk : Talk ω) :
    Tells (Node.below (recorded peer timeout).connection style direction item).run talk
      fun turns r => Walks direction turns r ∧
        ∀ level, r = .ok level → level.direction = direction := by
  refine (tells_calls item talk).bindAdapt (fun turns calls _ hturns => ?_) fun turns e hturns => ?_
  · obtain ⟨look, answer, rfl, hanswer⟩ := hturns
    refine .pure ⟨.next hanswer.symm (.done _), fun level hlevel => ?_⟩
    cases hlevel
    rfl
  · obtain ⟨look, answer, rfl, hanswer⟩ := hturns
    exact ⟨.failed hanswer.symm, nofun⟩

theorem tells_mapM {as : List α} {f : α → ExceptT (Node.Error Failure) (StateM (Talk ω)) β}
    (h : ∀ a ∈ as, ∀ talk, Tells (f a).run talk (Walks direction)) (talk : Talk ω) :
    Tells (as.mapM f).run talk (Walks direction) := by
  induction as generalizing talk with
  | nil => exact .pure (.done [])
  | cons a as ih =>
    rw [List.mapM_cons]
    refine (h a (by simp) talk).bindExcept (fun turns b talk' hturns => ?_)
      fun turns e hturns => hturns.error rfl
    refine (ih (fun a ha => h a (List.mem_cons_of_mem _ ha)) talk').bindExcept
      (fun more bs talk'' hmore => ?_) fun more e hmore => hturns.append rfl (hmore.error rfl)
    exact .pure (by simpa using hturns.append rfl (hmore.append rfl (.done (b :: bs))))

theorem tells_collectBelow (depth : Nat) (above : List Entry) (node : Node) (talk : Talk ω) :
    Tells (Tree.collectBelow (recorded peer timeout).connection depth above node).run talk
      (Walks node.direction) := by
  induction depth generalizing above node talk with
  | zero => exact .pure (.done _)
  | succ depth ih =>
    refine tells_mapM (fun ⟨entry, index⟩ hentry talk => ?_) talk
    by_cases hrecurs : Tree.recurs above entry = true
    · simp only [hrecurs, if_true]
      exact .pure (.done _)
    · simp only [hrecurs, if_false, Bool.false_eq_true]
      -- The index of an entry finds the entry, so each question is about one that is there.
      rw [Node.itemAt_of_getElem? _ (List.mem_zipIdx_iff_getElem?.1 hentry)]
      refine (tells_below node.style entry.item talk).bindExcept
        (fun turns level talk' hturns => ?_) fun turns e hturns => hturns.1.error rfl
      refine (ih _ level talk').bindExcept (fun more children _ hmore => ?_) fun more e hmore => ?_
      · rw [hturns.2 level rfl] at hmore
        exact .pure (hturns.1.append rfl (hmore.append rfl (.done _)))
      · rw [hturns.2 level rfl] at hmore
        exact hturns.1.append rfl (hmore.error rfl)

end Walk

/-! ### Queries -/

namespace Query

/-- The request for the symbols at the place that a query is about. -/
def prepareTurn (query : Query) (document : Uri) (look : Look) (answer : Except Failure Json) :
    Turn :=
  .request PrepareParams.method (PrepareParams.toJson ⟨document, query.position, none⟩) look answer

def readItems : Except Failure Json → Except Failure (Option (List Item)) :=
  readAnswer (Json.nullable? (Json.list? Item.ofJson?)) PrepareParams.method

/-- What is asked while a document is open: for the symbols at the place and, if there is an answer,
for calls in the direction of the query. -/
inductive Asks (query : Query) (document : Uri) :
    List Turn → Except (Node.Error Failure) (List Tree) → Prop where
  | unprepared {look : Look} {answer : Except Failure Json} {e : Failure}
      (hanswer : readItems answer = .error e) :
      Asks query document [query.prepareTurn document look answer] (.error (.connection e))
  | prepared {look : Look} {answer : Except Failure Json} {items : Option (List Item)}
      {turns : List Turn} {found : Except (Node.Error Failure) (List Tree)}
      (hanswer : readItems answer = .ok items) (hwalk : Walks query.direction turns found) :
      Asks query document (query.prepareTurn document look answer :: turns) found

/-- How a document is opened and, if the server could be told so, closed again. -/
inductive Opens (query : Query) (d : Document) :
    List Turn → Except Error (List Tree) → Prop where
  | unopened {look : Look} {e : Failure} :
      Opens query d [.notify "textDocument/didOpen" d.openParams look (.error e)]
        (.error (.client e))
  | opened {look look' : Look} {turns : List Turn}
      {found : Except (Node.Error Failure) (List Tree)} {outcome : Except Failure Unit}
      (hasks : Asks query d.uri turns found) :
      Opens query d
        ([.notify "textDocument/didOpen" d.openParams look (.ok ())] ++ turns ++
          [.notify "textDocument/didClose" (Document.closeParams d.uri) look' outcome])
        (found.mapError .tree)

/-- The turns of a query, by the look of the server when the client first comes to it. A document is
opened only if the server has granted the session and knows call hierarchies, and the file is a text
with a URI. -/
inductive Goes (process : Nat) (read : String → Option (List UInt8)) (query : Query)
    (look : Look) : List Turn → Except Error (List Tree) → Prop where
  | ungreeted {turns : List Turn} {e : Failure}
      (hgreets : Greets process query.root look turns (.error e)) :
      Goes process read query look turns (.error (.client e))
  | unsupported {turns : List Turn} {greeting : Greeting}
      (hgreets : Greets process query.root look turns (.ok greeting))
      (hoffers : greeting.capabilities.offersCalls = false) :
      Goes process read query look turns
        (.error (.unsupported ((greeting.server.map ServerInfo.name).getD "language server")))
  | undocumented {turns : List Turn} {greeting : Greeting} {cause : Document.Error}
      (hgreets : Greets process query.root look turns (.ok greeting))
      (hoffers : greeting.capabilities.offersCalls = true)
      (hfile : Document.ofFile query.file (read query.file) = .error cause) :
      Goes process read query look turns (.error (.document cause))
  | documented {turns more : List Turn} {greeting : Greeting} {d : Document}
      {found : Except Error (List Tree)}
      (hgreets : Greets process query.root look turns (.ok greeting))
      (hoffers : greeting.capabilities.offersCalls = true)
      (hfile : Document.ofFile query.file (read query.file) = .ok d)
      (hopens : Opens query d more found) :
      Goes process read query look (turns ++ more) found

variable {peer : Peer ω} {timeout : Nat} {query : Query}

theorem tells_prepare (document : Uri) (talk : Talk ω) :
    Tells ((recorded peer timeout).connection.prepare document query.position).run talk
      fun turns r => ∃ look answer, turns = [query.prepareTurn document look answer] ∧
        r = readItems answer := by
  refine Tells.mono (tells_ask peer timeout _ _ _ talk) fun turns r h => ?_
  obtain ⟨answer, hturns, hr⟩ := h
  exact ⟨_, answer, hturns, hr⟩

theorem tells_root (document : Uri) (talk : Talk ω) :
    Tells (Node.root (recorded peer timeout).connection .native document query.position
      query.direction).run talk fun turns r => ∃ look answer,
        turns = [query.prepareTurn document look answer] ∧
        match r with
        | .error e => ∃ cause, e = .connection cause ∧ readItems answer = .error cause
        | .ok node => node.direction = query.direction ∧ ∃ items, readItems answer = .ok items := by
  refine (tells_prepare document talk).bindAdapt (fun turns items _ hturns => ?_)
    fun turns e hturns => ?_
  · obtain ⟨look, answer, rfl, hanswer⟩ := hturns
    exact .pure ⟨look, answer, rfl, rfl, items, hanswer.symm⟩
  · obtain ⟨look, answer, rfl, hanswer⟩ := hturns
    exact ⟨look, answer, rfl, e, rfl, hanswer.symm⟩

theorem tells_trees (document : Uri) (talk : Talk ω) :
    Tells (trees (recorded peer timeout) query document).run talk (Asks query document) := by
  refine (tells_root document talk).bindExcept (fun turns node talk' hturns => ?_)
    fun turns e hturns => ?_
  · obtain ⟨look, answer, rfl, hdirection, items, hanswer⟩ := hturns
    refine (tells_collectBelow query.depth [] node talk').mono fun more r hwalk => ?_
    exact .prepared hanswer (hdirection ▸ hwalk)
  · obtain ⟨look, answer, rfl, cause, rfl, hanswer⟩ := hturns
    exact .unprepared hanswer

/-- Whatever comes of the questions, the document is closed after them. -/
theorem tells_withDocument (d : Document) (talk : Talk ω) :
    Tells (withDocument (recorded peer timeout) query d).run talk (Opens query d) := by
  refine (tells_notify peer timeout _ _ talk).bindAdapt (fun turns _ talk' hturns => ?_)
    fun turns e hturns => ?_
  · subst hturns
    refine (tells_trees d.uri talk').bindLift fun asked found talk'' hasks => ?_
    refine (tells_notify peer timeout _ _ talk'').bindLift fun closed _ _ hclosed => ?_
    subst hclosed
    cases found with
    | ok trees => exact .pure (.opened hasks)
    | error cause => exact .pure (.opened hasks)
  · subst hturns
    exact .unopened

theorem tells_run (process : Nat) (read : String → Option (List UInt8)) (talk : Talk ω) :
    Tells (run (recorded peer timeout) process (fun path => Pure.pure (read path)) query).run talk
      (Goes process read query (talk.link.catchUp peer.taped).look) := by
  refine (tells_greet process query.root talk).bindAdapt (fun turns greeting talk' hturns => ?_)
    fun turns e hturns => .ungreeted hturns
  -- The session is on. From here on, nothing is said unless a document is opened.
  cases hoffers : greeting.capabilities.offersCalls with
  | false =>
    simp only [Bool.not_false, if_true]
    exact .pure (by simpa using Goes.unsupported hturns hoffers)
  | true =>
    simp only [Bool.not_true, if_false, Bool.false_eq_true]
    have hread : Tells (Pure.pure (read query.file)) talk' fun turns bytes =>
        turns = [] ∧ bytes = read query.file := .pure ⟨rfl, rfl⟩
    refine hread.bindLift fun _ bytes talk'' hbytes => ?_
    obtain ⟨rfl, rfl⟩ := hbytes
    cases hfile : Document.ofFile query.file (read query.file) with
    | error cause => exact .pure (by simpa using Goes.undocumented hturns hoffers hfile)
    | ok d =>
      exact (tells_withDocument d talk'').mono fun more found hopens =>
        .documented hturns hoffers hfile hopens

/-- The turns of a whole session: those of the query, and then those of the end. -/
inductive Lives (process : Nat) (read : String → Option (List UInt8)) (query : Query)
    (look : Look) : List Turn → Except Error (List Tree) → Prop where
  | mk {turns more : List Turn} {found : Except Error (List Tree)}
      (hgoes : Goes process read query look turns found) (hparts : Parts more) :
      Lives process read query look (turns ++ more) found

theorem tells_session (peer : Peer ω) (timeout : Nat) (query : Query) (process : Nat)
    (read : String → Option (List UInt8)) (talk : Talk ω) :
    Tells (session (recorded peer timeout) process (fun path => Pure.pure (read path)) query) talk
      (Lives process read query (talk.link.catchUp peer.taped).look) := by
  refine (tells_run process read talk).bind fun turns found talk' hgoes => ?_
  refine (tells_part talk').bind fun more _ _ hparts => ?_
  exact .pure (by simpa using Lives.mk hgoes hparts)

end Query

/-! ### The program -/

namespace Command

namespace Machine

variable {peer : Peer ω}

/-- The one session of a plan is a whole one. -/
theorem carryOut_lives {machine : Machine peer} {arguments : Arguments} {plan : Plan peer}
    {r : Except Error Outcome} {talk : Talk ω} (h : machine.carryOut arguments plan = (r, talk)) :
    talk.Sound ∧ ∃ found,
      Query.Lives machine.process machine.read plan.query plan.firstLook talk.turns found ∧
      match found with
      | .ok _ => ∃ outcome, r = .ok outcome ∧ outcome.exitCode = 0
      | .error cause => r = .error (.query cause) := by
  have hserver : plan.started.link.server = (plan.started.server, []) :=
    Link.foldl_perform_server plan.started.opening _
  have hsound : Talk.Sound (⟨plan.started.link, []⟩ : Talk ω) := by
    refine ⟨nofun, ?_⟩
    rw [hserver]
    exact .nil
  have htells := Query.tells_session peer plan.timeout plan.query machine.process machine.read
    ⟨plan.started.link, []⟩ hsound
  unfold carryOut at h
  rcases hsession : (Query.session (recorded peer plan.timeout) machine.process
    (fun path => pure (machine.read path)) plan.query).run ⟨plan.started.link, []⟩
    with ⟨found, talk'⟩
  simp only [hsession, Prod.mk.injEq] at h
  obtain ⟨rfl, rfl⟩ := h
  rw [hsession] at htells
  obtain ⟨hsound', turns, hturns, hlives⟩ := htells
  rw [List.nil_append] at hturns
  refine ⟨hsound', found, hturns ▸ hlives, ?_⟩
  cases found with
  | ok trees => exact ⟨_, rfl, present_exitCode ..⟩
  | error cause => rfl

end Machine

/-- A server that has its responses ready. Each time that bytes reach it, it gives the next one or
keeps silent. -/
def rehearsed : Peer (List (Option Response)) where
  feed
    | [], _ => ([], [])
    | r :: rest, _ => (rest, r.toList.map fun r => .write (Message.frame r.toJson))

/-- A machine with one file, on which that server is started. -/
def Machine.rehearsing (responses : List (Option Response)) (opening : List Act) :
    Machine rehearsed where
  read path := if path = "/w/main.rs" then some (Utf8.encode "fn main() {}") else none
  canonical := some
  launch _ _ := some ⟨responses, opening⟩
  environment := []
  process := 1
  isTerminal := false

/-- The responses of a server that knows call hierarchies, and finds no symbol at a place. -/
def noSymbols : List (Option Response) :=
  let response (n : Int64) (v : Json) : Option Response :=
    some ⟨rpcVersion, some (.number n), some v, none⟩
  [response 1 (.object [("capabilities", .object [("callHierarchyProvider", .bool true)])]),
    none, none, response 2 .null, none, response 3 .null]

/-- Whatever a server does, the session with it takes its course: the server is greeted, a document
is opened, asked about and closed again, and in the end the server is told to leave, whatever came
before. It is written the turns that it can be written, in this order, and apart from them nothing
but answers to its own requests. If it is gone when the client first comes to it, it is not greeted.
The exit code tells whether the query came to trees, whatever becomes of the end. Without a plan
there is no session. -/
theorem run_lifeCycle {peer : Peer ω} (machine : Machine peer) (commandLine : List String)
    (talk : Talk ω) :
    let (outcome, talk') := (run machine.host commandLine).run talk
    match machine.planOf commandLine with
    | none => talk' = talk
    | some plan => talk'.Sound ∧ ∃ found,
      Query.Lives machine.process machine.read plan.query plan.firstLook talk'.turns found ∧
        outcome.exitCode = match found with
          | .ok _ => 0
          | .error _ => 1 := by
  unfold run Machine.planOf
  cases Arguments.ofCommandLine commandLine with
  | error refusal => cases refusal <;> rfl
  | ok arguments =>
    have hrun := machine.answer_run arguments talk
    cases hplan : machine.plan arguments with
    | error e =>
      rw [hplan] at hrun
      simp only [StateT.run_bind, hrun, hplan]
      rfl
    | ok plan =>
      rcases hcarried : machine.carryOut arguments plan with ⟨r, talk'⟩
      obtain ⟨hsound, found, hlives, hfound⟩ := Machine.carryOut_lives hcarried
      rw [hplan] at hrun
      simp only [StateT.run_bind, hrun, hplan, hcarried]
      cases found with
      | ok trees =>
        obtain ⟨outcome, rfl, hcode⟩ := hfound
        exact ⟨hsound, _, hlives, hcode⟩
      | error cause =>
        obtain rfl := hfound
        exact ⟨hsound, _, hlives, rfl⟩

/-- A query about a place without a symbol. All seven messages are written. -/
theorem run_lifeCycle_noSymbols :
    let machine := Machine.rehearsing noSymbols []
    let commandLine := ["/w/main.rs", "1", "1", "--server", "ls"]
    let ran := (run machine.host commandLine).run ⟨.start ([], []), []⟩
    ran.2.turns.map Turn.sent = List.replicate 7 true ∧ ∃ plan trees,
      machine.planOf commandLine = some plan ∧ plan.firstLook = .live ∧ ran.2.Sound ∧
        Query.Lives machine.process machine.read plan.query .live ran.2.turns (.ok trees) := by
  intro machine commandLine ran
  have hlook : (machine.planOf commandLine).map Plan.firstLook = some .live := by decide +kernel
  have hran : ran.1.exitCode = 0 ∧ ran.2.turns.map Turn.sent = List.replicate 7 true := by
    decide +kernel
  -- The run is done. From here on it is not to be unfolded again.
  clear_value machine commandLine
  obtain ⟨plan, hplan, hlook⟩ := Option.map_eq_some_iff.1 hlook
  have hlife := run_lifeCycle machine commandLine ⟨.start ([], []), []⟩
  simp only [hplan] at hlife
  obtain ⟨hsound, found, hlives, hcode⟩ := hlife
  cases found with
  | ok trees => exact ⟨hran.2, plan, trees, hplan, hlook, hsound, hlook ▸ hlives⟩
  | error cause => exact absurd (hran.1.symm.trans hcode) Nat.zero_ne_one

/-- A server that ends as soon as it starts is written nothing, although the root has a URI. -/
theorem run_endedServer :
    let machine := Machine.rehearsing [] [.exit]
    let commandLine := ["/w/main.rs", "1", "1", "--server", "ls"]
    let ran := (run machine.host commandLine).run ⟨.start ([], []), []⟩
    (machine.planOf commandLine).map (·.query.root) = some "/w" ∧ (Path.toUri "/w").isOk = true ∧
      ran.2.link.server.2 = [] ∧ ran.1 = ⟨1, "", "Error: LSP server is not running\n"⟩ := by
  decide +kernel

end Command

end CallHierarchy
