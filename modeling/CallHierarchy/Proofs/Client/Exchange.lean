import CallHierarchy.Client.Link
import CallHierarchy.Proofs.Client.Reading
import CallHierarchy.Proofs.Json.Canonical
import CallHierarchy.Proofs.Wire.Size

/-! An exchange between a client and a server that has nothing else to say. A request to which the
server answers at once comes to the result that the server wrote, in however many pieces the client
reads it (`Quiet.request`). -/

namespace CallHierarchy

/-- Before a frame is there as a whole, there is nothing. -/
theorem Frame.front_of_append {buffer more : List UInt8} {text : String}
    (h : front (buffer ++ more) = .body text []) (hmore : more ≠ []) :
    front buffer = .incomplete := by
  by_contra hne
  rw [front_append more hne] at h
  cases hfront : front buffer with
  | incomplete => exact hne hfront
  | fault cause rest =>
    rw [hfront] at h
    cases h
  | body text' rest =>
    rw [hfront] at h
    exact hmore (List.append_eq_nil_iff.1 (Front.body.inj h).2).2

/-- A response with a result arrives as it was sent. -/
theorem Message.sendable_response (n : Int64) {v : Json}
    (hv : v.Canonical (Json.Reader.maxDepth - 1)) (hsize : Utf8.width v.print < 2 ^ 63 + 2 ^ 61) :
    (response ⟨rpcVersion, some (.number n), some v, none⟩).Sendable where
  identified := by simp
  integral := by simpa [freeForm] using hv.integral
  ordered := by simpa [freeForm] using hv.sorted_eq
  shallow := by
    have hdepth : Json.depthMembers [("jsonrpc", .string rpcVersion), ("id", .int64 n),
        ("result", v)] ≤ Json.Reader.maxDepth - 1 :=
      Json.depthMembers_le (by simpa [Json.depth, Json.int64, Json.int] using hv.depth_le)
    exact Nat.succ_le_succ hdepth
  counted := length_frame_le (by
    have hwidth := Response.width_print_le n v
    rw [Message.toJson]
    omega)

namespace Client

namespace State

variable {s : State} {bytes : List UInt8}

theorem receiveBody_unread (s : State) (unread : List UInt8) (body : String) :
    ({ s with unread } : State).receiveBody body =
      ({ (s.receiveBody body).1 with unread }, (s.receiveBody body).2) := by
  refine (s.receiveBody_with unread s.reading body).trans ?_
  rw [← s.receiveBody_reading body]

theorem read_of_incomplete (hr : s.reading = true)
    (h : Frame.front (s.unread ++ bytes) = .incomplete) :
    s.read bytes = ({ s with unread := s.unread ++ bytes }, []) := by
  have hdrain := Frame.drain_of_incomplete h
  rw [read_eq hr (by rw [hdrain]), hdrain]
  rfl

theorem read_of_body (hr : s.reading = true) {body : String}
    (h : Frame.front (s.unread ++ bytes) = .body body []) :
    s.read bytes =
      ({ (s.receiveBody body).1 with unread := [] }, (s.receiveBody body).2.toList) := by
  have hdrain : Frame.drain (s.unread ++ bytes) = ⟨[body], none, []⟩ := by
    rw [Frame.drain_of_body h, Frame.drain_of_incomplete Frame.front_nil]
  rw [read_eq hr (by rw [hdrain]), hdrain]
  simp [receiveBodies]

end State

namespace Link

theorem ne_nil_of_mem_readsOf {bytes piece : List UInt8} (h : piece ∈ readsOf bytes) :
    piece ≠ [] := by
  obtain ⟨i, hi, rfl⟩ := List.mem_map.1 h
  have hlt := List.mem_range.1 hi
  refine List.ne_nil_of_length_pos ?_
  rw [List.length_take, List.length_drop]
  simp only [readSize] at hlt ⊢
  omega

/-- The pieces in which the client reads bytes are all of the bytes. -/
theorem flatten_readsOf (bytes : List UInt8) : (readsOf bytes).flatten = bytes := by
  have htake (n : Nat) : ((List.range n).map fun i =>
      (bytes.drop (i * readSize)).take readSize).flatten = bytes.take (n * readSize) := by
    induction n with
    | zero => simp
    | succ n ih =>
      rw [List.range_succ, List.map_append, List.flatten_append, ih, Nat.succ_mul, List.take_add]
      simp
  rw [readsOf, htake, List.take_of_length_le]
  simp only [readSize]
  omega

section Deliver

variable {ω : Type} (peer : Peer ω) (link : Link ω) {body : String} {reads : List (List UInt8)}

/-- The link when the client has read the first bytes of a frame. -/
def holding (unread : List UInt8) : Link ω := { link with state := { link.state with unread } }

theorem deliver_holding (hr : link.state.reading = true) {unread piece : List UInt8}
    (h : Frame.front (unread ++ piece) = .incomplete) :
    (link.holding unread).deliver peer ⟨link.clock, some piece⟩ =
      link.holding (unread ++ piece) := by
  have hread : ({ link.state with unread } : State).read piece =
      ({ link.state with unread := unread ++ piece }, []) := State.read_of_incomplete hr h
  simp [deliver, holding, hread]

theorem deliver_last (hr : link.state.reading = true) {unread piece : List UInt8}
    (h : Frame.front (unread ++ piece) = .body body [])
    (hreply : (link.state.receiveBody body).2 = none) :
    (link.holding unread).deliver peer ⟨link.clock, some piece⟩ =
      ({ link with state := (link.state.receiveBody body).1 } : Link ω).holding [] := by
  have hbody : ({ link.state with unread } : State).receiveBody body =
      ({ (link.state.receiveBody body).1 with unread }, none) := by
    rw [State.receiveBody_unread, hreply]
  have hread : ({ link.state with unread } : State).read piece =
      ({ (link.state.receiveBody body).1 with unread := [] }, []) := by
    refine (State.read_of_body (s := { link.state with unread }) hr h).trans ?_
    rw [hbody]
    rfl
  simp [deliver, holding, hread]

/-- The client goes through the pieces of a frame, and then takes in the body. -/
theorem deliverWhile_reads {goOn : Link ω → Arrival → Bool} (hr : link.state.reading = true)
    (hne : reads ≠ []) (hpieces : ∀ piece ∈ reads, piece ≠ []) {unread : List UInt8}
    (hfront : Frame.front (unread ++ reads.flatten) = .body body [])
    (hgoOn : ∀ unread piece, goOn (link.holding unread) ⟨link.clock, some piece⟩ = true)
    (hreply : (link.state.receiveBody body).2 = none) :
    deliverWhile peer goOn (reads.map fun piece => ⟨link.clock, some piece⟩)
        (link.holding unread) =
      ({ link with state := (link.state.receiveBody body).1 } : Link ω).holding [] := by
  induction reads generalizing unread with
  | nil => exact absurd rfl hne
  | cons piece reads ih =>
    rw [List.map_cons, deliverWhile, if_pos (hgoOn unread piece)]
    rw [List.flatten_cons, ← List.append_assoc] at hfront
    -- Only the last piece makes the frame whole.
    by_cases hlast : reads = []
    · rw [hlast, List.flatten_nil, List.append_nil] at hfront
      rw [deliver_last peer link hr hfront hreply, hlast]
      rfl
    · have hmore : reads.flatten ≠ [] := by
        obtain ⟨next, rest, rfl⟩ := List.exists_cons_of_ne_nil hlast
        simp [hpieces next (by simp)]
      rw [deliver_holding peer link hr (Frame.front_of_append hfront hmore)]
      exact ih hlast (fun p hp => hpieces p (List.mem_cons_of_mem _ hp)) hfront

end Deliver

/-! ### Quiet links -/

/-- Nothing is under way: no request waits, each answer that arrived is one to a request of before,
and the server has nothing more to say. -/
structure Quiet {ω : Type} (link : Link ω) : Prop where
  alive : link.state.alive = true
  reading : link.state.reading = true
  unread : link.state.unread = []
  pending : link.state.pending = []
  answers : ∀ a ∈ link.state.answers, a.1 < link.state.issued
  queue : link.queue = []
  endedAt : link.endedAt = none
  busyUntil : link.busyUntil ≤ link.clock

theorem quiet_start {ω : Type} (server : ω) : (start server).Quiet :=
  ⟨rfl, rfl, rfl, rfl, by simp [start, State.start], rfl, rfl, Nat.le_refl 0⟩

theorem getD_present (v : Json) : (Json.present (some v)).getD .null = v := by
  cases v <;> rfl

namespace Quiet

variable {ω : Type} {peer : Peer ω} {link : Link ω} {server' : ω} {timeout : Nat}
  {method : String} {params v : Json}

theorem writable (h : link.Quiet) : link.writable = true := by
  rw [Link.writable, h.endedAt]
  rfl

theorem catchUp (h : link.Quiet) : link.catchUp peer = link := by
  unfold Link.catchUp deliverQueue
  rw [h.queue, deliverWhile, ← h.queue]

/-- The state of a client that has asked its next question and waits for the answer. -/
def asking (s : State) : State := s.issue.2.register s.issued

/-- The state of a client that has got the answer to its next question. -/
def answered (s : State) (r : Response) : State :=
  { s with issued := s.issued + 1, answers := (s.issued, r) :: s.answers }

/-- What the server writes at once is on its way at once. -/
theorem write_eq (h : link.Quiet) (state : State) {sent bytes : List UInt8}
    (hfeed : peer.feed link.server sent = (server', [.write bytes])) :
    ({ link with state } : Link ω).write peer sent =
      { link with
        state
        server := server'
        busyUntil := link.clock
        queue := (readsOf bytes).map fun piece => ⟨link.clock, some piece⟩ } := by
  simp only [write, hfeed, List.foldl_cons, List.foldl_nil, perform, h.queue, List.nil_append,
    Nat.max_eq_right h.busyUntil]

theorem begin_eq (h : link.Quiet) :
    link.begin = ({ link with state := asking link.state }, .confirmed link.state.issued) := by
  simp [begin, advance, Phase.advance, h.alive, State.issue, State.register, State.withdraw, asking]

theorem pending_asking (h : link.Quiet) : (asking link.state).pending =
    [(State.idAfter link.state.issued, link.state.issued)] := by
  simp [asking, State.issue, State.register, State.withdraw, h.pending]

/-- The answer has not arrived before the question is asked. -/
theorem answer?_asking (h : link.Quiet) : (asking link.state).answer? link.state.issued = none :=
  List.lookup_eq_none_iff.2 fun a ha => bne_iff_ne.2 (Nat.ne_of_gt (h.answers a ha))

theorem route_asking (h : link.Quiet) {r : Response}
    (hid : r.id = some (State.idAfter link.state.issued)) :
    (asking link.state).route r = answered link.state r := by
  have hpending := h.pending
  have hlookup : (asking link.state).pending.lookup (State.idAfter link.state.issued) =
      some link.state.issued := by
    rw [h.pending_asking, List.lookup_cons_self]
  have hwithdraw : (asking link.state).withdraw (State.idAfter link.state.issued) =
      { link.state with issued := link.state.issued + 1 } := by
    simp [asking, State.issue, State.register, State.withdraw, hpending]
  simp only [State.route, hid, hlookup, hwithdraw]
  rfl

theorem receiveBody_asking (h : link.Quiet) {r r' : Response} (hr : (Message.response r).Sendable)
    (hr' : (Message.response r).received = .response r')
    (hid : r'.id = some (State.idAfter link.state.issued)) :
    (asking link.state).receiveBody r.toJson.compact = (answered link.state r', none) := by
  have hparse : Message.parse r.toJson.compact = .ok (.response r') :=
    hr.parse_compact.trans (congrArg Except.ok hr')
  rw [← h.route_asking hid, State.receiveBody, hparse]
  rfl

/-- A request that waits goes on waiting as long as no answer has arrived. -/
theorem advance_asking (h : link.Quiet) (asked : Link ω) (hstate : asked.state = asking link.state)
    (unread : List UInt8) :
    ((asked.holding unread).advance (.waiting link.state.issued)).2 =
      .waiting link.state.issued := by
  have hanswer := h.answer?_asking
  have hpending := h.pending_asking
  rw [← hstate] at hanswer hpending
  simp only [State.answer?] at hanswer
  simp [advance, Phase.advance, holding, State.answer?, State.awaits, hanswer, hpending]

/-- The client has asked its next question, and a message with the answer is on its way. -/
structure Answered (link asked : Link ω) (r r' : Response) : Prop where
  state : asked.state = asking link.state
  queue : asked.queue =
    (readsOf (Message.frame r.toJson)).map fun piece => ⟨asked.clock, some piece⟩
  sendable : (Message.response r).Sendable
  received : (Message.response r).received = .response r'
  id : r'.id = some (State.idAfter link.state.issued)

section Answered

variable (peer) {asked : Link ω} {r r' : Response}

/-- The client takes in the answer, in one piece after the other. -/
theorem deliverQueue_asking (h : link.Quiet) (hasked : Answered link asked r r')
    (goOn : Link ω → Arrival → Bool)
    (hgoOn : ∀ unread piece, goOn (({ asked with queue := [] } : Link ω).holding unread)
      ⟨asked.clock, some piece⟩ = true) :
    asked.deliverQueue peer goOn =
      { asked with state := answered link.state r', queue := [] } := by
  have hfront : Frame.front ([] ++ (readsOf (Message.frame r.toJson)).flatten) =
      .body r.toJson.compact [] := by
    rw [flatten_readsOf, List.nil_append]
    exact List.append_nil (Message.frame r.toJson) ▸ Frame.front_encode hasked.sendable.counted []
  have hne : readsOf (Message.frame r.toJson) ≠ [] := by
    intro hnil
    rw [hnil] at hfront
    cases hfront
  have hbody := h.receiveBody_asking hasked.sendable hasked.received hasked.id
  rw [← hasked.state] at hbody
  have hreading : asked.state.reading = true := by
    rw [hasked.state]
    exact h.reading
  have hunread : asked.state.unread = [] := by
    rw [hasked.state]
    exact h.unread
  have hbefore : ({ asked with queue := [] } : Link ω).holding [] = { asked with queue := [] } := by
    rw [← hunread]
    rfl
  have hafter : ({ asked with state := answered link.state r', queue := [] } : Link ω).holding [] =
      { asked with state := answered link.state r', queue := [] } := by
    simp [holding, answered, h.unread]
  have hall := deliverWhile_reads peer { asked with queue := [] } hreading hne
    (fun piece => ne_nil_of_mem_readsOf) hfront hgoOn (by rw [hbody])
  simp only [hbody, hbefore, hafter] at hall
  rw [deliverQueue, hasked.queue]
  exact hall

/-- The client gets the answer before its time has run out. -/
theorem await_eq (h : link.Quiet) (hasked : Answered link asked r r') (htimeout : 0 < timeout) :
    asked.await peer timeout (.waiting link.state.issued) =
      ({ asked with state := answered link.state r', queue := [] }, .done (.answered r')) := by
  have hdone : ({ asked with state := answered link.state r', queue := [] } : Link ω).advance
      (.waiting link.state.issued) =
        ({ asked with state := answered link.state r', queue := [] }, .done (.answered r')) := by
    simp [advance, Phase.advance, answered, State.answer?]
  have hall := h.deliverQueue_asking peer hasked
    (fun l a => (l.advance (.waiting link.state.issued)).2.ending?.isNone &&
      a.time < asked.clock + timeout)
    fun unread piece => by
      have hadvance := h.advance_asking { asked with queue := [] } hasked.state unread
      simp [hadvance, Phase.ending?, htimeout]
  simp only [await, hall, hdone]
  simp [Phase.ending?]

end Answered

/-- A server that answers a question at once does so to the client. -/
theorem request (h : link.Quiet) (htimeout : 0 < timeout)
    (hfeed : peer.feed link.server (Message.frame (Request.toJson
        ⟨rpcVersion, State.idAfter link.state.issued, method, params⟩)) =
      (server', [.write (Message.frame (Response.toJson
        ⟨rpcVersion, some (State.idAfter link.state.issued), some v, none⟩))]))
    (hsendable : (Message.response
      ⟨rpcVersion, some (State.idAfter link.state.issued), some v, none⟩).Sendable) :
    ∃ link', link.request peer timeout method params = (.ok v, link') ∧ link'.Quiet ∧
      link'.server = server' := by
  generalize hid : State.idAfter link.state.issued = id at hfeed hsendable
  let r : Response := ⟨rpcVersion, some id, some v, none⟩
  let r' : Response := ⟨rpcVersion, some id, Json.present (some v), none⟩
  let asked : Link ω :=
    { link with
      state := asking link.state
      server := server'
      busyUntil := link.clock
      queue := (readsOf (Message.frame r.toJson)).map fun piece => ⟨link.clock, some piece⟩ }
  have hasked : Answered link asked r r' := ⟨rfl, rfl, hsendable, rfl, by rw [hid]⟩
  have hwrite : ({ link with state := asking link.state } : Link ω).write peer
      (Message.frame (Request.toJson ⟨rpcVersion, id, method, params⟩)) = asked :=
    h.write_eq (asking link.state) hfeed
  have hawait := h.await_eq peer hasked htimeout
  have hwritable : ({ link with state := asking link.state } : Link ω).writable = true := h.writable
  have hbegin : ({ link with state := asking link.state } : Link ω).advance
      (.confirmed link.state.issued) =
        ({ link with state := asking link.state }, .waiting link.state.issued) := by
    simp only [advance, Phase.advance, hwritable, if_true]
  let last : Link ω := { asked with state := answered link.state r', queue := [] }
  have hlast : last.Quiet :=
    { alive := h.alive
      reading := h.reading
      unread := h.unread
      pending := h.pending
      answers := List.forall_mem_cons.2
        ⟨Nat.lt_succ_self _, fun a ha => Nat.lt_succ_of_lt (h.answers a ha)⟩
      queue := rfl
      endedAt := h.endedAt
      busyUntil := Nat.le_refl _ }
  refine ⟨last, ?_, hlast, rfl⟩
  unfold Link.request
  simp only [h.catchUp, h.begin_eq, Phase.writes?, hid, hbegin, hwritable, if_true, hwrite, hawait]
  rw [hlast.catchUp]
  simp only [Phase.ending?, Option.getD_some, Ending.result, r', getD_present]

/-- A server takes in a notification and says nothing. -/
theorem notify (h : link.Quiet)
    (hfeed : peer.feed link.server (Message.frame (Notification.toJson
      ⟨rpcVersion, method, params⟩)) = (server', [])) :
    ∃ link', link.notify peer method params = (.ok (), link') ∧ link'.Quiet ∧
      link'.server = server' := by
  have hwrite : link.write peer (Message.frame (Notification.toJson
      ⟨rpcVersion, method, params⟩)) =
        { link with server := server', busyUntil := link.clock } := by
    simp only [write, hfeed, List.foldl_nil, Nat.max_eq_right h.busyUntil]
  have hlast : ({ link with server := server', busyUntil := link.clock } : Link ω).Quiet :=
    { h with busyUntil := Nat.le_refl _ }
  refine ⟨_, ?_, hlast, rfl⟩
  unfold Link.notify
  simp only [h.catchUp, h.writable, if_true, hwrite]
  rw [hlast.catchUp]

end Quiet

end Link

end Client

end CallHierarchy
