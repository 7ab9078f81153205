import CallHierarchy.Proofs.Client.Reading
import CallHierarchy.Proofs.Client.Turns
import CallHierarchy.Proofs.Item.Kept
import CallHierarchy.Proofs.Wire.RoundTrip

/-! The requests of the server. The client refuses each one once, under its own identity and in the
order in which they come. It never takes one for an answer, even where a request of its own waits
under the same identity (`Pool.run_requests`). -/

namespace CallHierarchy

/-! ### Which bodies are requests -/

namespace Json

theorem exact_int64 : Exact asInt64? int64 := by
  intro v n
  rw [asInt64?, Option.map_eq_some_iff]
  simp only [asInt?_eq_some_iff]
  constructor
  · rintro ⟨k, ⟨rfl, hlow, hhigh⟩, rfl⟩
    rw [int64, Int64.toInt_ofInt_of_le hlow (by omega)]
  · rintro rfl
    have hhigh := n.toInt_lt
    exact ⟨n.toInt, ⟨rfl, n.le_toInt, by omega⟩, Int64.ofInt_toInt n⟩

/-- An identity is an integer of 64 bits or a text. -/
theorem exact_requestId : Exact RequestId.ofJson? RequestId.toJson := by
  intro v id
  constructor
  · intro h
    unfold RequestId.ofJson? at h
    split at h
    · next n hn =>
      cases h
      exact (exact_int64 v n).1 hn
    · obtain ⟨s, hs, rfl⟩ := Option.map_eq_some_iff.1 h
      exact (exact_string v s).1 hs
  · rintro rfl
    exact RequestId.ofJson?_toJson id

end Json

/-- The value has the fields of the request. Parameters may be left out, which comes to `null`. -/
structure Request.Given (r : Request) (v : Json) : Prop where
  version : v.get? "jsonrpc" = some (.string r.version)
  id : v.get? "id" = some r.id.toJson
  method : v.get? "method" = some (.string r.method)
  params : (v.get? "params").getD .null = r.params

theorem Request.ofJson?_eq_some_iff {members : List (String × Json)} {r : Request} :
    Request.ofJson? (.object members) = some r ↔ r.Given (.object members) := by
  constructor
  · intro h
    rw [ofJson?] at h
    obtain ⟨fields, hfields, h⟩ := Option.bind_eq_some_iff.1 h
    split at h
    · next version id method params =>
      simp only [Json.fields?, List.map_cons, List.map_nil, Option.some.injEq, List.cons.injEq,
        and_true] at hfields
      obtain ⟨hversion, hid, hmethod, hparams⟩ := hfields
      obtain ⟨v, hv, h⟩ := Option.bind_eq_some_iff.1 h
      obtain ⟨i, hi, h⟩ := Option.bind_eq_some_iff.1 h
      obtain ⟨m, hm, h⟩ := Option.bind_eq_some_iff.1 h
      cases h
      obtain rfl := (Json.exact_string _ _).1 hv
      obtain rfl := (Json.exact_requestId _ _).1 hi
      obtain rfl := (Json.exact_string _ _).1 hm
      exact ⟨hversion, hid, hmethod, congrArg (·.getD .null) hparams⟩
    · cases h
  · rintro ⟨hversion, hid, hmethod, hparams⟩
    simp only [Json.get?] at hversion hid hmethod hparams
    simp [ofJson?, Json.fields?, hversion, hid, hmethod, hparams, Json.asString?,
      RequestId.ofJson?_toJson]

namespace Message

/-- A value with a method and an identity is sorted as a request. -/
theorem ofJson_eq_request_iff {body : String} {v : Json} {r : Request} :
    ofJson body v = .ok (.request r) ↔ r.Given v := by
  cases v with
  | object members =>
    rw [← Request.ofJson?_eq_some_iff]
    constructor
    · intro h
      rw [ofJson] at h
      split at h
      · cases h
      · split at h
        · next message hsorted =>
          cases h
          split at hsorted
          · obtain ⟨q, hq, heq⟩ := Option.map_eq_some_iff.1 hsorted
            cases heq
            exact hq
          · obtain ⟨q, -, heq⟩ := Option.map_eq_some_iff.1 hsorted
            cases heq
          · obtain ⟨q, -, heq⟩ := Option.map_eq_some_iff.1 hsorted
            cases heq
        · cases h
    · intro h
      have hgiven := Request.ofJson?_eq_some_iff.1 h
      simp [ofJson, hgiven.method, hgiven.id, RequestId.present_toJson, h]
  | _ =>
    constructor
    · intro h
      cases h
    · intro h
      cases h.method

/-- The request that a body is, if it is one. -/
def request? (text : String) : Option Request :=
  match parse text with
  | .ok (.request r) => some r
  | _ => none

theorem request?_eq_some_iff {text : String} {r : Request} :
    request? text = some r ↔ parse text = .ok (.request r) := by
  unfold request?
  split
  · next q hparse => simp [hparse]
  · next hne =>
    constructor
    · intro h
      cases h
    · intro h
      exact absurd h (hne r)

/-- A body is a request if its value has the fields of one. -/
theorem request?_iff_given {text : String} {r : Request} :
    request? text = some r ↔ ∃ v, Json.parse? text = some v ∧ r.Given v := by
  rw [request?_eq_some_iff, parse]
  cases Json.parse? text with
  | none => simp
  | some v => simp [ofJson_eq_request_iff]

end Message

/-- The answer that refuses a request. -/
def Request.refusal (r : Request) : Response where
  version := rpcVersion
  id := some r.id
  result := none
  error := some ⟨-32601, "Method '" ++ r.method ++ "' not supported by client", none⟩

namespace Client

namespace State

variable {s : State} {text : String}

/-- A request leaves the client as it is, and is refused. -/
theorem receiveBody_of_request {r : Request} (h : Message.request? text = some r) :
    s.receiveBody text = (s, some r.refusal) := by
  rw [receiveBody, Message.request?_eq_some_iff.1 h]
  rfl

/-- Nothing else is replied to. -/
theorem receiveBody_of_other (h : Message.request? text = none) :
    (s.receiveBody text).2 = none := by
  unfold receiveBody
  split
  · next message hparse =>
    cases message with
    | request r => cases h.symm.trans (Message.request?_eq_some_iff.2 hparse)
    | notification | response => rfl
  · rfl

theorem receiveBody_reply (s : State) (text : String) :
    (s.receiveBody text).2 = (Message.request? text).map Request.refusal := by
  cases h : Message.request? text with
  | some r => rw [receiveBody_of_request h, Option.map_some]
  | none => rw [receiveBody_of_other h, Option.map_none]

theorem receiveBodies_reply (s : State) (bodies : List String) :
    (s.receiveBodies bodies).2 = (bodies.filterMap Message.request?).map Request.refusal := by
  induction bodies generalizing s with
  | nil => rfl
  | cons body bodies ih =>
    simp only [receiveBodies, ih, receiveBody_reply, List.filterMap_cons]
    cases Message.request? body <;> rfl

end State

/-! ### Runs -/

namespace Event

/-- Whether the event ends the reading. -/
def ends : Event → Bool
  | halt | lose => true
  | _ => false

/-- The body that arrives. -/
def body? : Event → Option String
  | body text => some text
  | _ => none

/-- Whether a request of the server arrives. -/
def asks (e : Event) : Bool := (e.body?.bind Message.request?).isSome

theorem body?_of_ends {e : Event} (h : e.ends = true) : e.body? = none := by
  cases e with
  | halt | lose => rfl
  | _ => cases h

end Event

namespace Pool

/-- The bodies that arrive while the client still reads. -/
def heard (events : List Event) : List String :=
  (events.takeWhile fun e => !e.ends).filterMap Event.body?

variable {p : Pool} {e : Event}

theorem reads_act {i : Nat} {move : State → Job → State × Job}
    (h : ∀ j, (move p.state j).1.reading = p.state.reading) : (p.act i move).reads = p.reads := by
  unfold act
  split
  · rfl
  · next j _ => exact congrArg (decide (p.reader = .running) && ·) (h j)

theorem reads_step (p : Pool) (e : Event) : (p.step e).reads = (p.reads && !e.ends) := by
  cases e with
  | call => exact (Bool.and_true _).symm
  | advance i writable =>
    refine (reads_act fun j => ?_).trans (Bool.and_true _).symm
    exact (Phase.move_advance writable p.state j.phase).reading
  | expire i =>
    refine (reads_act fun j => ?_).trans (Bool.and_true _).symm
    exact (Phase.move_expire p.state j.phase).reading
  | body text =>
    simp only [step]
    split
    · simp [reads, State.receiveBody_reading, Event.ends]
    · exact (Bool.and_true _).symm
  | halt =>
    simp only [step]
    split
    · simp [reads, Event.ends]
    · next h => simpa [Event.ends] using h
  | lose =>
    simp only [step]
    split
    · simp [reads, Event.ends]
    · next h => simpa [Event.ends] using h
  | clear =>
    simp only [step]
    split
    · next h => simp [reads, h]
    · exact (Bool.and_true _).symm

/-- What an event adds to the replies. -/
theorem replies_step (p : Pool) (e : Event) :
    (p.step e).replies = p.replies ++
      if p.reads then (e.body?.bind Message.request?).toList.map Request.refusal else [] := by
  cases e with
  | call => simp [step, add, Event.body?]
  | advance | expire =>
    simp only [step, act]
    split <;> simp [put, Event.body?]
  | body text =>
    simp only [step]
    split
    · simp only [State.receiveBody_reply, Event.body?, Option.bind_some]
      cases Message.request? text <;> rfl
    · simp
  | halt | lose | clear =>
    simp only [step]
    split <;> simp [Event.body?]

/-- The client refuses the requests among the bodies that it hears, each one once and in order. -/
theorem replies_foldl (events : List Event) (p : Pool) :
    (events.foldl step p).replies = p.replies ++
      if p.reads then ((heard events).filterMap Message.request?).map Request.refusal else [] := by
  induction events generalizing p with
  | nil => simp [heard]
  | cons e events ih =>
    -- What the later events add depends on whether the client still reads after this one.
    rw [List.foldl_cons, ih, replies_step, reads_step, List.append_assoc]
    cases p.reads with
    | false => simp
    | true =>
      cases hends : e.ends with
      | true => simp [heard, hends, Event.body?_of_ends hends]
      | false =>
        have hheard : heard (e :: events) = e.body?.toList ++ heard events := by
          rw [heard, List.takeWhile_cons_of_pos (by simp [hends]), List.filterMap_cons]
          cases e.body? <;> rfl
        rw [hheard]
        cases hbody : e.body? with
        | none => simp
        | some text => cases hrequest : Message.request? text <;> simp [hrequest]

/-- The client without what it has replied. -/
def silent (p : Pool) : Pool := { p with replies := [] }

theorem silent_state (p : Pool) : p.silent.state = p.state := rfl

/-- A request of the server does nothing but add to the replies. -/
theorem silent_step_of_asks (h : e.asks = true) : (p.step e).silent = p.silent := by
  obtain ⟨r, hr⟩ := Option.isSome_iff_exists.1 h
  obtain ⟨text, htext, hr⟩ := Option.bind_eq_some_iff.1 hr
  cases e with
  | body =>
    cases htext
    simp only [step]
    split
    · rw [State.receiveBody_of_request hr]
      rfl
    · rfl
  | _ => cases htext

/-- What the client has replied plays no part in what happens. -/
theorem step_silent (h : e.asks = false) : p.silent.step e = (p.step e).silent := by
  cases e with
  | call => rfl
  | advance i | expire i =>
    have hjob : p.silent.job? i = p.job? i := rfl
    simp only [step, act, hjob]
    cases p.job? i <;> rfl
  | body text =>
    have hother : Message.request? text = none :=
      Option.not_isSome_iff_eq_none.1 (Bool.eq_false_iff.1 h)
    simp only [step]
    show (if p.reads then _ else _) = _
    split
    · simp [silent, State.receiveBody_of_other hother]
    · rfl
  | halt | lose =>
    simp only [step]
    show (if p.reads then _ else _) = _
    split <;> rfl
  | clear =>
    simp only [step]
    show (if p.reader = .lost then _ else _) = _
    split <;> rfl

theorem foldl_silent (events : List Event) (p : Pool) :
    (events.filter fun e => !e.asks).foldl step p.silent = (events.foldl step p).silent := by
  induction events generalizing p with
  | nil => rfl
  | cons e events ih =>
    rw [List.filter_cons, List.foldl_cons, ← ih]
    cases h : e.asks with
    | true => rw [silent_step_of_asks h]; rfl
    | false => rw [← step_silent h]; rfl

end Pool

/-! ### What the server is written -/

namespace Link

variable {ω : Type} {peer : Peer ω} {link link' link'' : Link (ω × List (List UInt8))}

/-- The server is written replies in order, each in a frame of its own, until it cannot be written
to any more. -/
def Replied (link link' : Link (ω × List (List UInt8))) (replies : List Response) : Prop :=
  ∃ written unwritten, replies = written ++ unwritten ∧
    link'.server.2 = link.server.2 ++ written.map (fun r => Message.frame r.toJson) ∧
    (unwritten ≠ [] → link'.writable = false)

theorem reply_of_unwritable (h : link.writable = false) (replies : List Response) :
    link.reply peer.taped replies = link := by
  induction replies with
  | nil => rfl
  | cons r replies ih => simpa [reply, h] using ih

theorem replied_reply (replies : List Response) (link : Link (ω × List (List UInt8))) :
    Replied link (link.reply peer.taped replies) replies := by
  induction replies generalizing link with
  | nil => exact ⟨[], [], rfl, (List.append_nil _).symm, (absurd rfl ·)⟩
  | cons r replies ih =>
    cases h : link.writable with
    | false =>
      rw [reply_of_unwritable h]
      exact ⟨[], r :: replies, rfl, (List.append_nil _).symm, fun _ => h⟩
    | true =>
      obtain ⟨written, unwritten, hsplit, htape, hstops⟩ :=
        ih (link.write peer.taped (Message.frame r.toJson))
      have hstep : link.reply peer.taped (r :: replies) =
          (link.write peer.taped (Message.frame r.toJson)).reply peer.taped replies := by
        rw [reply, List.foldl_cons, if_pos h, reply]
      rw [hstep]
      refine ⟨r :: written, unwritten, by rw [hsplit, List.cons_append], ?_, hstops⟩
      rw [htape, write_tape, List.append_assoc]
      rfl

/-- The client gets to bytes, each with the time at which they arrive. -/
def hear (peer : Peer ω) (link : Link ω) (reads : List (Nat × List UInt8)) : Link ω :=
  reads.foldl (fun link (time, bytes) => link.deliver peer ⟨time, some bytes⟩) link

/-- A server that cannot be written to stays so, and is written nothing. -/
theorem deliver_of_unwritable (peer : Peer ω) (h : link.writable = false) (time : Nat)
    (bytes : List UInt8) :
    (link.deliver peer.taped ⟨time, some bytes⟩).server = link.server ∧
      (link.deliver peer.taped ⟨time, some bytes⟩).writable = false := by
  -- The clock does not go back, so a server that has ended by now has ended by then.
  have hlater : ({ link with
      clock := max link.clock time
      state := (link.state.read bytes).1 } : Link _).writable = false := by
    unfold writable at h ⊢
    cases hended : link.endedAt with
    | none => simp [hended] at h
    | some ending =>
      simp only [hended, Option.all_some, decide_eq_false_iff_not] at h ⊢
      omega
  rw [deliver_bytes, reply_of_unwritable hlater]
  exact ⟨rfl, hlater⟩

theorem hear_of_unwritable (h : link.writable = false) (reads : List (Nat × List UInt8)) :
    (link.hear peer.taped reads).server = link.server ∧
      (link.hear peer.taped reads).writable = false := by
  induction reads generalizing link with
  | nil => exact ⟨rfl, h⟩
  | cons read reads ih =>
    obtain ⟨hserver, hwritable⟩ := deliver_of_unwritable peer h read.1 read.2
    obtain ⟨hserver', hwritable'⟩ := ih hwritable
    exact ⟨hserver'.trans hserver, hwritable'⟩

theorem Replied.trans {replies more : List Response} (h : Replied link link' replies)
    (h' : Replied link' link'' more)
    (hstays : link'.writable = false → link''.server = link'.server ∧ link''.writable = false) :
    Replied link link'' (replies ++ more) := by
  obtain ⟨written, unwritten, rfl, htape, hstops⟩ := h
  cases unwritten with
  | nil =>
    obtain ⟨written', unwritten', rfl, htape', hstops'⟩ := h'
    refine ⟨written ++ written', unwritten', by simp, ?_, hstops'⟩
    rw [htape', htape, List.map_append, List.append_assoc]
  | cons r unwritten =>
    obtain ⟨hserver, hwritable⟩ := hstays (hstops (List.cons_ne_nil _ _))
    refine ⟨written, r :: unwritten ++ more, List.append_assoc _ _ _, ?_, fun _ => hwritable⟩
    rw [hserver, htape]

theorem replied_hear (peer : Peer ω) (link : Link (ω × List (List UInt8)))
    (reads : List (Nat × List UInt8)) :
    Replied link (link.hear peer.taped reads) (link.state.readAll (reads.map Prod.snd)).2 := by
  induction reads generalizing link with
  | nil => exact ⟨[], [], rfl, (List.append_nil _).symm, (absurd rfl ·)⟩
  | cons read reads ih =>
    have hfirst : Replied link (link.deliver peer.taped ⟨read.1, some read.2⟩)
        (link.state.read read.2).2 := replied_reply _ _
    have hlater := ih (link.deliver peer.taped ⟨read.1, some read.2⟩)
    rw [deliver_state] at hlater
    exact hfirst.trans hlater fun h => hear_of_unwritable h reads

/-- The replies that go to the server are refusals of the requests that arrive. -/
theorem replied_requests (peer : Peer ω) (link : Link (ω × List (List UInt8)))
    (reads : List (Nat × List UInt8)) (hreading : link.state.reading = true)
    (hunread : link.state.unread = [])
    (hfault : (Frame.drain (reads.map Prod.snd).flatten).fault = none) :
    Replied link (link.hear peer.taped reads)
      (((Frame.drain (reads.map Prod.snd).flatten).bodies.filterMap Message.request?).map
        Request.refusal) := by
  have hreplied := replied_hear peer link reads
  have hfront : Frame.front link.state.unread = .incomplete := by rw [hunread]; rfl
  rw [State.readAll_eq_read _ hreading hfront (by rwa [hunread]),
    State.read_eq_receiveBodies hreading, State.receiveBodies_reply, hunread] at hreplied
  exact hreplied

end Link

/-- The client refuses every request of the server's, and takes none for an answer.

A body is a request if it is the JSON of an object with a version, a method and an identity, which
is an integer of 64 bits or a text. The client replies to the requests that it hears, once to each
and in order, and to nothing else: the reply has the identity of the request and the code of a
method that is not known. A request changes nothing else, whatever its identity, so that without
the server's requests the client comes to the same requests of its own, pending or answered. And
the replies are what the server is written, as long as it can be written to. -/
theorem Pool.run_requests :
    (∀ text r, Message.request? text = some r ↔
      ∃ v, Json.parse? text = some v ∧ r.Given v) ∧
    (∀ events, (run events).replies =
      ((heard events).filterMap Message.request?).map Request.refusal) ∧
    (∀ events text r, Message.request? text = some r →
      (run (events ++ [.body text])).silent = (run events).silent) ∧
    (∀ events, run (events.filter fun e => !e.asks) = (run events).silent) ∧
    ∀ (ω : Type) (peer : Peer ω) (link : Link (ω × List (List UInt8)))
      (reads : List (Nat × List UInt8)), link.state.reading = true → link.state.unread = [] →
      (Frame.drain (reads.map Prod.snd).flatten).fault = none →
      Link.Replied link (link.hear peer.taped reads)
        (((Frame.drain (reads.map Prod.snd).flatten).bodies.filterMap Message.request?).map
          Request.refusal) := by
  refine ⟨fun text r => Message.request?_iff_given, fun events => ?_, fun events text r h => ?_,
    fun events => ?_, fun ω peer link reads => Link.replied_requests peer link reads⟩
  · exact replies_foldl events start
  · rw [run_concat]
    exact silent_step_of_asks (Option.isSome_iff_exists.2 ⟨r, h⟩)
  · exact foldl_silent events start

end Client

/-- A request of the server's under the identity of the client's first one. -/
def Request.shared : Request := ⟨rpcVersion, .number 1, "b", .null⟩

theorem Request.sendable_shared : (Message.request shared).Sendable := by
  refine ⟨by simp, fun v hv => ?_, fun v hv => ?_, by decide +kernel, by decide +kernel⟩
  · cases List.mem_singleton.1 hv
    exact .null
  · cases List.mem_singleton.1 hv
    rfl

/-- The request comes while the client's own waits. -/
theorem Client.Pool.run_requests_shared :
    let events : List Event := .call "a" .null :: List.replicate 5 (.advance 0 true)
    let text := (Message.request .shared).toJson.compact
    let peer : Peer Unit := ⟨fun server _ => (server, [])⟩
    let link : Link (Unit × List (List UInt8)) := .start ((), [])
    let stream := [(0, Message.frame (Message.request .shared).toJson)]
    Message.request? text = some .shared ∧
      (run (events ++ [.body text])).state.pending = [(.number 1, 0)] ∧
      (run (events ++ [.body text])).replies = [Request.shared.refusal] ∧
      link.state.reading = true ∧ link.state.unread = [] ∧
      (Frame.drain (stream.map Prod.snd).flatten).fault = none ∧
      Link.Replied link (link.hear peer.taped stream) [Request.shared.refusal] := by
  intro events text peer link stream
  have hrequest : Message.request? text = some .shared :=
    Message.request?_eq_some_iff.2 Request.sendable_shared.parse_compact
  have hdrain : Frame.drain (stream.map Prod.snd).flatten = ⟨[text], none, []⟩ := by
    have hstream : (stream.map Prod.snd).flatten = [text].flatMap Frame.encode := rfl
    rw [hstream]
    refine Frame.drain_flatMap_encode fun body hbody => ?_
    rw [List.mem_singleton.1 hbody]
    exact Request.sendable_shared.counted
  obtain ⟨-, hreplies, hsilent, -, hwire⟩ := run_requests
  refine ⟨hrequest, ?_, ?_, rfl, rfl, by rw [hdrain], ?_⟩
  · rw [← silent_state, hsilent events text .shared hrequest]
    rfl
  · have hheard : heard (events ++ [.body text]) = [text] := rfl
    rw [hreplies, hheard, List.filterMap_cons_some hrequest]
    rfl
  · have hreplied := hwire Unit peer link stream rfl rfl (by rw [hdrain])
    rw [hdrain, List.filterMap_cons_some hrequest] at hreplied
    exact hreplied

end CallHierarchy
