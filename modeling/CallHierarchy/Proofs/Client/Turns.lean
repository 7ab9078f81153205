import CallHierarchy.Proofs.Client.Simulation

/-! What a client says to its server. Each request and notification is a turn, with the look of the
server when its turn came and with what came of it. The server is written the turns that it can be
written, in order, and between them nothing but answers to its own requests (`Link.request_turn`,
`Link.notify_turn`). What a whole run says follows from what its parts say (`Tells`). -/

namespace CallHierarchy.Client

variable {ω : Type}

/-! ### Turns -/

/-- What there is to see of the server when a turn comes. -/
structure Look where
  /-- Whether the client holds the server to be there. -/
  alive : Bool
  /-- Whether the server can be written to: it has not ended. -/
  writable : Bool
  deriving DecidableEq, Repr

def Look.live : Look := ⟨true, true⟩

/-- A request or a notification, with what came of it. -/
inductive Turn where
  | request (method : String) (params : Json) (look : Look) (answer : Except Failure Json)
  | notify (method : String) (params : Json) (look : Look) (outcome : Except Failure Unit)

namespace Turn

/-- Whether the server is written the message. A request to a server that is not held to be there is
not tried. -/
def sent : Turn → Bool
  | request _ _ look _ => look.alive && look.writable
  | notify _ _ look _ => look.writable

/-- What comes of a turn by the look of the server. -/
inductive Sound : Turn → Prop where
  | refused {method : String} {params : Json} {look : Look} (halive : look.alive = false) :
      Sound (request method params look (.error .notRunning))
  | broken {method : String} {params : Json} {look : Look} (halive : look.alive = true)
      (hwritable : look.writable = false) :
      Sound (request method params look (.error .unwritable))
  | written {method : String} {params : Json} {answer : Except Failure Json}
      (hrunning : answer ≠ .error .notRunning) (hwritten : answer ≠ .error .unwritable) :
      Sound (request method params .live answer)
  | noticed {method : String} {params : Json} {look : Look} (hwritable : look.writable = true) :
      Sound (notify method params look (.ok ()))
  | unnoticed {method : String} {params : Json} {look : Look} (hwritable : look.writable = false) :
      Sound (notify method params look (.error .unwritable))

/-- A request has a result only if its server could be written to. -/
theorem Sound.look_eq_live {method : String} {params v : Json} {look : Look}
    (h : (request method params look (.ok v)).Sound) : look = .live := by
  cases h
  rfl

/-- The bytes that the message of a turn is written in. -/
def Writes : Turn → List UInt8 → Prop
  | request method params _ _, bytes =>
    ∃ id, bytes = Message.frame (Request.toJson ⟨rpcVersion, id, method, params⟩)
  | notify method params _ _, bytes =>
    bytes = Message.frame (Notification.toJson ⟨rpcVersion, method, params⟩)

end Turn

/-- Whether bytes are the answer to a request of the server's: that it is not understood. -/
def Declines (bytes : List UInt8) : Prop :=
  ∃ id method, bytes = Message.frame (Response.methodNotFound id method).toJson

/-- What the server was written comes from turns: the message of each turn that was sent, in order,
and between them answers to requests of its own. -/
inductive Carries : List (List UInt8) → List Turn → Prop where
  | nil : Carries [] []
  | decline {tape : List (List UInt8)} {turns : List Turn} {bytes : List UInt8}
      (h : Carries tape turns) (hbytes : Declines bytes) : Carries (tape ++ [bytes]) turns
  | sent {tape : List (List UInt8)} {turns : List Turn} {turn : Turn} {bytes : List UInt8}
      (h : Carries tape turns) (hsent : turn.sent = true) (hbytes : turn.Writes bytes) :
      Carries (tape ++ [bytes]) (turns ++ [turn])
  | unsent {tape : List (List UInt8)} {turns : List Turn} {turn : Turn} (h : Carries tape turns)
      (hsent : turn.sent = false) : Carries tape (turns ++ [turn])

/-- The server, with what it is written kept beside its state. -/
def Peer.taped (peer : Peer ω) : Peer (ω × List (List UInt8)) where
  feed := fun (server, tape) bytes =>
    let (server, acts) := peer.feed server bytes
    ((server, tape ++ [bytes]), acts)

/-! ### Answers to requests of the server's -/

theorem State.receiveBodies_replies (s : State) (bodies : List String) :
    ∀ r ∈ (s.receiveBodies bodies).2, ∃ id method, r = .methodNotFound id method := by
  induction bodies generalizing s with
  | nil => simp [receiveBodies]
  | cons body bodies ih =>
    intro r hr
    rcases List.mem_append.1 hr with hr | hr
    · have hr : r ∈ (s.receiveBody body).2.toList := hr
      unfold receiveBody at hr
      split at hr
      · next message _ =>
        cases message with
        | request q => exact ⟨q.id, q.method, by simpa [receive] using hr⟩
        | response q => simp [receive] at hr
        | notification q => simp [receive] at hr
      · simp at hr
    · exact ih _ r hr

theorem State.read_replies (s : State) (bytes : List UInt8) :
    ∀ r ∈ (s.read bytes).2, ∃ id method, r = .methodNotFound id method := by
  cases hreading : s.reading with
  | true =>
    rw [State.read_eq_receiveBodies hreading]
    exact s.receiveBodies_replies _
  | false => simp [State.read, hreading]

namespace Link

variable {peer : Peer ω}

def look (link : Link ω) : Look := ⟨link.state.alive, link.writable⟩

/-- The server is written nothing but answers to its requests. -/
def Declined (link link' : Link (ω × List (List UInt8))) : Prop :=
  ∃ more, link'.server.2 = link.server.2 ++ more ∧ ∀ bytes ∈ more, Declines bytes

variable {link link' link'' : Link (ω × List (List UInt8))}

theorem Declined.of_eq (h : link'.server = link.server) : Declined link link' :=
  ⟨[], by simp [h], nofun⟩

theorem Declined.trans (h : Declined link link') (h' : Declined link' link'') :
    Declined link link'' := by
  obtain ⟨more, heq, hall⟩ := h
  obtain ⟨more', heq', hall'⟩ := h'
  refine ⟨more ++ more', by rw [heq', heq, List.append_assoc], fun bytes hbytes => ?_⟩
  exact (List.mem_append.1 hbytes).elim (hall bytes) (hall' bytes)

theorem foldl_perform_server (acts : List Act) (link : Link ω) :
    (acts.foldl perform link).server = link.server := by
  induction acts generalizing link with
  | nil => rfl
  | cons act acts ih =>
    rw [List.foldl_cons, ih]
    cases act <;> rfl

theorem write_tape (peer : Peer ω) (link : Link (ω × List (List UInt8))) (bytes : List UInt8) :
    (link.write peer.taped bytes).server.2 = link.server.2 ++ [bytes] :=
  congrArg Prod.snd (foldl_perform_server _ _)

theorem declined_replies (replies : List Response)
    (h : ∀ r ∈ replies, ∃ id method, r = .methodNotFound id method)
    (link : Link (ω × List (List UInt8))) : Declined link (link.reply peer.taped replies) := by
  induction replies generalizing link with
  | nil => exact .of_eq rfl
  | cons r replies ih =>
    rw [reply, List.foldl_cons]
    refine Declined.trans ?_ (ih (fun r hr => h r (List.mem_cons_of_mem _ hr)) _)
    split
    · obtain ⟨id, method, rfl⟩ := h r List.mem_cons_self
      exact ⟨[_], write_tape peer link _, by simpa using ⟨id, method, rfl⟩⟩
    · exact .of_eq rfl

theorem declined_deliver (link : Link (ω × List (List UInt8))) (a : Arrival) :
    Declined link (link.deliver peer.taped a) := by
  unfold deliver
  cases a.bytes with
  | none => exact .of_eq rfl
  | some bytes => exact (Declined.of_eq rfl).trans (declined_replies _ (State.read_replies _ _) _)

theorem declined_deliverWhile (goOn : Link (ω × List (List UInt8)) → Arrival → Bool)
    (arrivals : List Arrival) (link : Link (ω × List (List UInt8))) :
    Declined link (deliverWhile peer.taped goOn arrivals link) := by
  induction arrivals generalizing link with
  | nil => exact .of_eq rfl
  | cons a rest ih =>
    simp only [deliverWhile]
    split
    · exact (declined_deliver link a).trans (ih _)
    · exact .of_eq rfl

theorem declined_deliverQueue (goOn : Link (ω × List (List UInt8)) → Arrival → Bool)
    (link : Link (ω × List (List UInt8))) :
    Declined link (link.deliverQueue peer.taped goOn) :=
  (Declined.of_eq rfl).trans (declined_deliverWhile goOn _ _)

theorem declined_catchUp (peer : Peer ω) (link : Link (ω × List (List UInt8))) :
    Declined link (link.catchUp peer.taped) :=
  declined_deliverQueue _ link

theorem declined_await (timeout : Nat) (link : Link (ω × List (List UInt8))) (phase : Phase) :
    Declined link (link.await peer.taped timeout phase).1 := by
  simp only [await]
  split
  · exact (declined_deliverQueue _ link).trans (.of_eq rfl)
  · exact (declined_deliverQueue _ link).trans (.of_eq rfl)

/-! ### What comes of a turn -/

theorem begin_of_alive {link : Link ω} (h : link.state.alive = true) :
    link.begin.2 = .confirmed link.state.issued := by
  simp [begin, advance, Phase.advance, State.issue, State.register, State.withdraw, h]

theorem begin_of_gone {link : Link ω} (h : link.state.alive = false) :
    link.begin.2 = .done .notRunning := by
  simp [begin, advance, Phase.advance, h]

/-- A request that waits ends neither as one that is turned away nor as one that is not written. -/
theorem await_ending (peer : Peer ω) (timeout : Nat) (link : Link ω) (n : Nat) :
    ∃ ending, (link.await peer timeout (.waiting n)).2 = .done ending ∧
      ending ≠ .notRunning ∧ ending ≠ .unwritable := by
  simp only [await]
  generalize deliverQueue peer _ link = waited
  split
  · exact ⟨.timedOut, rfl, by simp, by simp⟩
  · next hends =>
    simp only [advance, Phase.advance] at hends ⊢
    cases hanswer : waited.state.answer? n with
    | some r => exact ⟨.answered r, rfl, by simp, by simp⟩
    | none =>
      cases hawaits : waited.state.awaits n with
      | true => simp [hanswer, hawaits, Phase.ending?] at hends
      | false => exact ⟨.closed, rfl, by simp, by simp⟩

theorem request_of_gone (peer : Peer ω) (timeout : Nat) (method : String) (params : Json)
    {link : Link ω} (halive : (link.catchUp peer).state.alive = false) :
    link.request peer timeout method params =
      (.error .notRunning, (link.catchUp peer).begin.1.catchUp peer) := by
  simp only [request, begin_of_gone halive]
  rfl

theorem request_of_ended (peer : Peer ω) (timeout : Nat) (method : String) (params : Json)
    {link : Link ω} (halive : (link.catchUp peer).state.alive = true)
    (hwritable : (link.catchUp peer).writable = false) :
    ∃ state, link.request peer timeout method params =
      (.error .unwritable, ({ link.catchUp peer with state } : Link ω).catchUp peer) := by
  have hbegun : (link.catchUp peer).begin.1.writable = false := hwritable
  simp only [request, begin_of_alive halive, Phase.writes?, hbegun, advance, Phase.advance]
  exact ⟨_, rfl⟩

/-- The client has written a request that it has begun. -/
def asked (peer : Peer ω) (method : String) (params : Json) (link : Link ω) : Link ω :=
  link.begin.1.write peer (Message.frame (Request.toJson
    ⟨rpcVersion, State.idAfter link.state.issued, method, params⟩))

/-- A request to a server that is there is written, and then waits. -/
theorem request_of_live (peer : Peer ω) (timeout : Nat) (method : String) (params : Json)
    {link : Link ω} (halive : (link.catchUp peer).state.alive = true)
    (hwritable : (link.catchUp peer).writable = true) :
    ∃ ending : Ending, ending ≠ .notRunning ∧ ending ≠ .unwritable ∧
      link.request peer timeout method params = (ending.result method timeout,
        ((((link.catchUp peer).asked peer method params).await peer timeout
          (.waiting (link.catchUp peer).state.issued)).1).catchUp peer) := by
  have hbegun : (link.catchUp peer).begin.1.writable = true := hwritable
  obtain ⟨ending, hdone, hrunning, hwritten⟩ := await_ending peer timeout
    ((link.catchUp peer).asked peer method params) (link.catchUp peer).state.issued
  refine ⟨ending, hrunning, hwritten, ?_⟩
  simp only [request, begin_of_alive halive, Phase.writes?, hbegun, advance, Phase.advance, if_true]
  exact congrArg (fun phase => ((phase.ending?.getD .closed).result method timeout, _)) hdone

end Link

/-- Answers to the server's requests go between turns. -/
theorem Carries.declined {link link' : Link (ω × List (List UInt8))} {turns : List Turn}
    (h : Carries link.server.2 turns) (hdeclined : Link.Declined link link') :
    Carries link'.server.2 turns := by
  obtain ⟨more, heq, hall⟩ := hdeclined
  rw [heq]
  clear heq
  induction more using List.reverseRecOn with
  | nil => rwa [List.append_nil]
  | append_singleton more bytes ih =>
    rw [← List.append_assoc]
    exact (ih fun b hb => hall b (List.mem_append_left _ hb)).decline (hall bytes (by simp))

theorem Ending.result_ne (method : String) (timeout : Nat) {ending : Ending}
    (hrunning : ending ≠ .notRunning) (hwritten : ending ≠ .unwritable) :
    ending.result method timeout ≠ .error .notRunning ∧
      ending.result method timeout ≠ .error .unwritable := by
  cases ending with
  | notRunning => exact absurd rfl hrunning
  | unwritable => exact absurd rfl hwritten
  | closed | timedOut => exact ⟨nofun, nofun⟩
  | answered r =>
    simp only [result]
    cases r.error <;> exact ⟨nofun, nofun⟩

namespace Link

/-- What comes of a request agrees with the look of the server, and the server is written the
request if it can be. -/
theorem request_turn (peer : Peer ω) (timeout : Nat) (method : String) (params : Json)
    {link : Link (ω × List (List UInt8))} {turns : List Turn}
    (h : Carries link.server.2 turns) :
    let (answer, link') := link.request peer.taped timeout method params
    let turn := Turn.request method params (link.catchUp peer.taped).look answer
    turn.Sound ∧ Carries link'.server.2 (turns ++ [turn]) := by
  have hcaught := h.declined (declined_catchUp peer link)
  cases halive : (link.catchUp peer.taped).state.alive with
  | false =>
    rw [request_of_gone _ _ _ _ halive]
    refine ⟨.refused halive, .unsent (hcaught.declined ?_) (by simp [Turn.sent, look, halive])⟩
    exact (Declined.of_eq rfl).trans (declined_catchUp peer _)
  | true =>
    cases hwritable : (link.catchUp peer.taped).writable with
    | false =>
      obtain ⟨state, hrequest⟩ := request_of_ended _ timeout method params halive hwritable
      rw [hrequest]
      refine ⟨.broken halive hwritable,
        .unsent (hcaught.declined ?_) (by simp [Turn.sent, look, hwritable])⟩
      exact (Declined.of_eq rfl).trans (declined_catchUp peer _)
    | true =>
      obtain ⟨ending, hrunning, hwritten, hrequest⟩ :=
        request_of_live _ timeout method params halive hwritable
      have hlook : (link.catchUp peer.taped).look = .live := by
        rw [look, halive, hwritable]
        rfl
      have hresult := Ending.result_ne method timeout hrunning hwritten
      rw [hrequest]
      simp only [hlook]
      refine ⟨.written hresult.1 hresult.2, ?_⟩
      -- Answers that the client gives while it waits come behind the request.
      have hasked : Carries ((link.catchUp peer.taped).asked peer.taped method params).server.2
          (turns ++ [.request method params .live (ending.result method timeout)]) := by
        rw [asked, write_tape]
        exact hcaught.sent rfl ⟨_, rfl⟩
      exact hasked.declined ((declined_await timeout _ _).trans (declined_catchUp peer _))

/-- What comes of a notification agrees with the look of the server, and the server is written the
notification if it can be. -/
theorem notify_turn (peer : Peer ω) (method : String) (params : Json)
    {link : Link (ω × List (List UInt8))} {turns : List Turn} (h : Carries link.server.2 turns) :
    let (outcome, link') := link.notify peer.taped method params
    let turn := Turn.notify method params (link.catchUp peer.taped).look outcome
    turn.Sound ∧ Carries link'.server.2 (turns ++ [turn]) := by
  have hcaught := h.declined (declined_catchUp peer link)
  simp only [notify]
  cases hwritable : (link.catchUp peer.taped).writable with
  | false => exact ⟨.unnoticed hwritable, hcaught.unsent hwritable⟩
  | true =>
    refine ⟨.noticed hwritable, Carries.declined ?_ (declined_catchUp peer _)⟩
    rw [write_tape]
    exact hcaught.sent hwritable rfl

end Link

/-! ### Runs that keep their turns -/

/-- A client and its server, with the turns that the client has taken. -/
structure Talk (ω : Type) where
  link : Link (ω × List (List UInt8))
  turns : List Turn

/-- What came of each turn agrees with the look of the server, and the server was written the
turns. -/
structure Talk.Sound (talk : Talk ω) : Prop where
  turns : ∀ turn ∈ talk.turns, turn.Sound
  tape : Carries talk.link.server.2 talk.turns

/-- The link to a server as a transport that keeps the turns. -/
def recorded (peer : Peer ω) (timeout : Nat) : Transport (StateM (Talk ω)) where
  request method params := ExceptT.mk fun talk =>
    let (answer, link) := talk.link.request peer.taped timeout method params
    let look := (talk.link.catchUp peer.taped).look
    (answer, ⟨link, talk.turns ++ [.request method params look answer]⟩)
  notify method params := ExceptT.mk fun talk =>
    let (outcome, link) := talk.link.notify peer.taped method params
    let look := (talk.link.catchUp peer.taped).look
    (outcome, ⟨link, talk.turns ++ [.notify method params look outcome]⟩)

/-- The run `x` takes sound turns in a talk, and the predicate holds of them and of the result. -/
def Tells {α : Type} (x : StateM (Talk ω) α) (talk : Talk ω) (P : List Turn → α → Prop) : Prop :=
  talk.Sound → (x.run talk).2.Sound ∧
    ∃ turns, (x.run talk).2.turns = talk.turns ++ turns ∧ P turns (x.run talk).1

namespace Tells

variable {α β ε : Type} {talk : Talk ω}

theorem mono {x : StateM (Talk ω) α} {P Q : List Turn → α → Prop} (h : Tells x talk P)
    (hPQ : ∀ turns a, P turns a → Q turns a) : Tells x talk Q := by
  intro hsound
  obtain ⟨hsound', turns, heq, hP⟩ := h hsound
  exact ⟨hsound', turns, heq, hPQ turns _ hP⟩

/-- What came of the turns that a run takes agrees with the look of the server. -/
theorem sound {x : StateM (Talk ω) α} {P : List Turn → α → Prop} (h : Tells x talk P) :
    Tells x talk fun turns a => (∀ turn ∈ turns, turn.Sound) ∧ P turns a := by
  intro hsound
  obtain ⟨hsound', turns, heq, hP⟩ := h hsound
  refine ⟨hsound', turns, heq, fun turn hturn => hsound'.turns turn ?_, hP⟩
  rw [heq]
  exact List.mem_append_right _ hturn

theorem pure {a : α} {P : List Turn → α → Prop} (h : P [] a) :
    Tells (Pure.pure a : StateM (Talk ω) α) talk P :=
  fun hsound => ⟨hsound, [], (List.append_nil _).symm, h⟩

/-- One run after the other takes the turns of both. -/
theorem bind {x : StateM (Talk ω) α} {f : α → StateM (Talk ω) β} {P : List Turn → α → Prop}
    {Q : List Turn → β → Prop} (hx : Tells x talk P)
    (hf : ∀ turns a talk, P turns a → Tells (f a) talk fun more b => Q (turns ++ more) b) :
    Tells (x >>= f) talk Q := by
  intro hsound
  obtain ⟨hsound', turns, heq, hP⟩ := hx hsound
  obtain ⟨hsound'', more, heq', hQ⟩ := hf turns _ _ hP hsound'
  refine ⟨hsound'', turns ++ more, ?_, hQ⟩
  rw [← List.append_assoc, ← heq]
  exact heq'

/-- After a run that fails, the other one is left out. -/
theorem bindExcept {x : ExceptT ε (StateM (Talk ω)) α} {f : α → ExceptT ε (StateM (Talk ω)) β}
    {P : List Turn → Except ε α → Prop} {Q : List Turn → Except ε β → Prop}
    (hx : Tells x.run talk P)
    (hok : ∀ turns a talk, P turns (.ok a) → Tells (f a).run talk fun more r => Q (turns ++ more) r)
    (herror : ∀ turns e, P turns (.error e) → Q turns (.error e)) :
    Tells (x >>= f).run talk Q := by
  rw [ExceptT.run_bind]
  refine hx.bind fun turns r talk hP => ?_
  cases r with
  | ok a => exact hok turns a talk hP
  | error e => exact pure (by simpa using herror turns e hP)

theorem map {x : StateM (Talk ω) α} {P : List Turn → α → Prop} (h : Tells x talk P) (f : α → β) :
    Tells (f <$> x) talk fun turns b => ∃ a, P turns a ∧ b = f a :=
  fun hsound => by
    obtain ⟨hsound', turns, heq, hP⟩ := h hsound
    exact ⟨hsound', turns, heq, _, hP, rfl⟩

/-- The same where the failure of the first run is told in other terms. -/
theorem bindAdapt {ε' : Type} {x : ExceptT ε (StateM (Talk ω)) α} {g : ε → ε'}
    {f : α → ExceptT ε' (StateM (Talk ω)) β} {P : List Turn → Except ε α → Prop}
    {Q : List Turn → Except ε' β → Prop} (hx : Tells x.run talk P)
    (hok : ∀ turns a talk, P turns (.ok a) → Tells (f a).run talk fun more r => Q (turns ++ more) r)
    (herror : ∀ turns e, P turns (.error e) → Q turns (.error (g e))) :
    Tells (x.adapt g >>= f).run talk Q := by
  have hadapt : Tells (x.adapt g).run talk fun turns r' => ∃ r, P turns r ∧ r' = r.mapError g :=
    hx.map _
  refine hadapt.bindExcept (fun turns a talk' h => ?_) fun turns e h => ?_
  · obtain ⟨r, hP, hr⟩ := h
    cases r with
    | error e => cases hr
    | ok b =>
      cases hr
      exact hok turns a talk' hP
  · obtain ⟨r, hP, hr⟩ := h
    cases r with
    | error e' =>
      cases hr
      exact herror turns e' hP
    | ok b => cases hr

theorem bindLift {x : StateM (Talk ω) α} {f : α → ExceptT ε (StateM (Talk ω)) β}
    {P : List Turn → α → Prop} {Q : List Turn → Except ε β → Prop} (hx : Tells x talk P)
    (hf : ∀ turns a talk, P turns a → Tells (f a).run talk fun more r => Q (turns ++ more) r) :
    Tells (ExceptT.lift x >>= f).run talk Q := by
  rw [ExceptT.run_bind_lift]
  exact hx.bind hf

end Tells

/-! ### Questions with answers of a type -/

/-- What the answer to a request comes to, if its result is to be of a type. -/
def readAnswer {α : Type} (read : Json → Option α) (method : String) :
    Except Failure Json → Except Failure α
  | .error e => .error e
  | .ok v =>
    match read v with
    | some x => .ok x
    | none => .error (.badResult method)

/-- What an answer about the calls of an item comes to. -/
def readCalls (direction : Direction) :
    Except Failure Json → Except Failure (Option (List Call)) :=
  readAnswer (Json.nullable? (Json.list? (Call.ofJson? (Call.key direction))))
    (CallsParams.method direction)

/-- A question is one request, and what its answer comes to. -/
theorem Transport.run_ask {m : Type → Type} [Monad m] [LawfulMonad m] (t : Transport m) {α : Type}
    (read : Json → Option α) (method : String) (params : Json) :
    (t.ask read method params).run = readAnswer read method <$> (t.request method params).run := by
  rw [ask, ExceptT.run_bind, map_eq_pure_bind]
  refine bind_congr fun answer => ?_
  cases answer with
  | error e => rfl
  | ok v =>
    simp only [readAnswer]
    cases read v <;> rfl

section Recorded

variable {talk : Talk ω}

theorem Talk.Sound.snoc (h : talk.Sound) {link : Link (ω × List (List UInt8))} {turn : Turn}
    (hturn : turn.Sound) (htape : Carries link.server.2 (talk.turns ++ [turn])) :
    Talk.Sound ⟨link, talk.turns ++ [turn]⟩ :=
  ⟨fun t ht => (List.mem_append.1 ht).elim (h.turns t) fun ht => List.mem_singleton.1 ht ▸ hturn,
    htape⟩

theorem tells_request (peer : Peer ω) (timeout : Nat) (method : String) (params : Json)
    (talk : Talk ω) :
    Tells ((recorded peer timeout).request method params).run talk fun turns answer =>
      turns = [.request method params (talk.link.catchUp peer.taped).look answer] := by
  intro hsound
  have hturn := Link.request_turn peer timeout method params hsound.tape
  exact ⟨hsound.snoc hturn.1 hturn.2, _, rfl, rfl⟩

theorem tells_notify (peer : Peer ω) (timeout : Nat) (method : String) (params : Json)
    (talk : Talk ω) :
    Tells ((recorded peer timeout).notify method params).run talk fun turns outcome =>
      turns = [.notify method params (talk.link.catchUp peer.taped).look outcome] := by
  intro hsound
  have hturn := Link.notify_turn peer method params hsound.tape
  exact ⟨hsound.snoc hturn.1 hturn.2, _, rfl, rfl⟩

theorem tells_ask {α : Type} (peer : Peer ω) (timeout : Nat) (read : Json → Option α)
    (method : String) (params : Json) (talk : Talk ω) :
    Tells ((recorded peer timeout).ask read method params).run talk fun turns r =>
      ∃ answer, turns = [.request method params (talk.link.catchUp peer.taped).look answer] ∧
        r = readAnswer read method answer := by
  rw [Transport.run_ask]
  refine ((tells_request peer timeout method params talk).map _).mono fun turns r h => ?_
  obtain ⟨answer, hturns, hr⟩ := h
  exact ⟨answer, hturns, hr⟩

end Recorded

end CallHierarchy.Client
