import CallHierarchy.Client.Link
import CallHierarchy.Proofs.Client.Pending

/-! A client that talks to its server one request at a time goes through events of a client with any
number of requests. Each of its requests is one of that client's, and its result is how that one
ends (`request_simulated`). Between its requests nothing waits (`Reachable.pending_eq_nil`). -/

namespace CallHierarchy.Client

/-! ### The bytes that have not made a frame -/

theorem Phase.advance_unread (writable : Bool) (s : State) (unread : List UInt8) (phase : Phase) :
    phase.advance writable { s with unread } =
      ({ (phase.advance writable s).1 with unread }, (phase.advance writable s).2) := by
  cases phase with
  | start =>
    simp only [advance]
    split <;> rfl
  | checked => rfl
  | numbered n => rfl
  | registered n =>
    simp only [advance]
    split <;> rfl
  | confirmed n =>
    simp only [advance]
    split <;> rfl
  | waiting n =>
    have hanswer : ({ s with unread } : State).answer? n = s.answer? n := rfl
    have hawaits : ({ s with unread } : State).awaits n = s.awaits n := rfl
    simp only [advance, hanswer, hawaits]
    cases s.answer? n with
    | some r => rfl
    | none => cases s.awaits n <;> rfl
  | done ending => rfl

theorem Phase.expire_unread (s : State) (unread : List UInt8) (phase : Phase) :
    phase.expire { s with unread } =
      ({ (phase.expire s).1 with unread }, (phase.expire s).2) := by
  cases phase <;> rfl

namespace Pool

/-- The state is the one that events lead to, apart from the bytes that have not made a frame. The
reader is not between its last two steps. -/
structure Shows (events : List Event) (s : State) : Prop where
  state : s = { (run events).state with unread := s.unread }
  reader : (run events).reader ≠ .lost

/-- More events lead to the state, and leave the requests as they are. -/
def Reaches (events : List Event) (s : State) : Prop :=
  ∃ more, Shows (events ++ more) s ∧ (run (events ++ more)).jobs = (run events).jobs

/-- All requests have ended. -/
def Idle (events : List Event) : Prop :=
  ∀ k j, (run events).job? k = some j → ∃ ending, j.phase = .done ending

/-- The events lead to the state, with one request in the phase. The others have ended. -/
structure Follows (events : List Event) (i : Nat) (s : State) (phase : Phase) : Prop where
  shows : Shows events s
  job : ∃ j, (run events).job? i = some j ∧ j.phase = phase
  others : ∀ k j, k ≠ i → (run events).job? k = some j → ∃ ending, j.phase = .done ending

/-- More events lead to the state, with the request in the phase. -/
def Leads (events : List Event) (i : Nat) (s : State) (phase : Phase) : Prop :=
  ∃ more, Follows (events ++ more) i s phase

variable {events : List Event} {s s' : State} {i : Nat} {phase phase' : Phase}

theorem Shows.reaches (h : Shows events s) : Reaches events s :=
  ⟨[], by rwa [List.append_nil], by rw [List.append_nil]⟩

theorem Reaches.trans (h : Reaches events s)
    (hlater : ∀ events, Shows events s → Reaches events s') : Reaches events s' := by
  obtain ⟨more, hshows, hjobs⟩ := h
  obtain ⟨later, hshows', hjobs'⟩ := hlater _ hshows
  rw [List.append_assoc] at hshows' hjobs'
  exact ⟨more ++ later, hshows', hjobs'.trans hjobs⟩

theorem Follows.reaches (h : Follows events i s phase) (hlater : Reaches events s') :
    Leads events i s' phase := by
  obtain ⟨more, hshows, hjobs⟩ := hlater
  have hjob : ∀ k, (run (events ++ more)).job? k = (run events).job? k :=
    fun k => congrArg (·[k]?) hjobs
  refine ⟨more, hshows, ?_, fun k j hk hold => h.others k j hk ((hjob k).symm.trans hold)⟩
  rw [hjob]
  exact h.job

theorem Follows.idle {ending : Ending} (h : Follows events i s (.done ending)) : Idle events := by
  intro k j hk
  by_cases hi : k = i
  · subst hi
    obtain ⟨j', hjob, hphase⟩ := h.job
    obtain rfl : j = j' := Option.some.inj (hk.symm.trans hjob)
    exact ⟨ending, hphase⟩
  · exact h.others k j hi hk

theorem Leads.of_append {first : List Event} (h : Leads (events ++ first) i s phase) :
    Leads events i s phase := by
  obtain ⟨later, hfollows⟩ := h
  rw [List.append_assoc] at hfollows
  exact ⟨first ++ later, hfollows⟩

theorem Leads.trans (h : Leads events i s phase)
    (hlater : ∀ events, Follows events i s phase → Leads events i s' phase') :
    Leads events i s' phase' := by
  obtain ⟨first, hfollows⟩ := h
  exact (hlater _ hfollows).of_append

theorem Idle.of_jobs_eq {events' : List Event} (h : Idle events)
    (hjobs : (run events').jobs = (run events).jobs) : Idle events' :=
  fun k j hk => h k j ((congrArg (·[k]?) hjobs).symm.trans hk)

theorem Reaches.idle (h : Reaches events s) (hidle : Idle events) :
    ∃ events, Shows events s ∧ Idle events := by
  obtain ⟨more, hshows, hjobs⟩ := h
  exact ⟨_, hshows, hidle.of_jobs_eq hjobs⟩

theorem Shows.pending_eq_nil (h : Shows events s) (hidle : Idle events) : s.pending = [] := by
  have hpending : s.pending = (run events).state.pending := by
    rw [h.state]
  rw [hpending]
  refine (sound_run events).pending_eq_nil fun j hj => ?_
  obtain ⟨k, hk⟩ := List.mem_iff_getElem?.1 hj
  exact hidle k j hk

/-! ### Steps of the reader -/

/-- A client that reads is one whose reader runs. -/
theorem Shows.reads_eq (h : Shows events s) : (run events).reads = s.reading := by
  have hreading : s.reading = (run events).state.reading := by
    rw [h.state]
  have hwatched := (sound_run events).watched
  cases hreader : (run events).reader with
  | running => simp [Pool.reads, hreader, hreading]
  | lost => exact absurd hreader h.reader
  | ended => simp [Pool.reads, hreader, hreading, hwatched.still hreader]

theorem Shows.lose_clear (h : Shows events s) : Reaches events s.lose.clear := by
  have hreads := h.reads_eq
  cases hreading : s.reading with
  | false =>
    have hsame : s.lose.clear = s := by simp [State.lose, State.clear, hreading]
    rw [hsame]
    exact h.reaches
  | true =>
    rw [hreading] at hreads
    have hrun : run (events ++ [.lose, .clear]) = { run events with
        state := (run events).state.lose.clear, reader := .ended } := by
      rw [run_append]
      simp [step, hreads]
    refine ⟨[.lose, .clear], ⟨?_, by simp [hrun]⟩, by rw [hrun]⟩
    have hpool : (run events).state.reading = true := (reads_eq_true.1 hreads).2
    rw [hrun]
    simp only [State.lose, State.clear, hreading, hpool, if_true]
    rw [h.state]

theorem Shows.read (h : Shows events s) (bytes : List UInt8) : Reaches events (s.read bytes).1 := by
  have hreads := h.reads_eq
  cases hreading : s.reading with
  | false =>
    have hsame : (s.read bytes).1 = s := by simp [State.read, hreading]
    rw [hsame]
    exact h.reaches
  | true =>
    rw [hreading] at hreads
    rw [State.read_eq_receiveBodies hreading]
    generalize Frame.drain (s.unread ++ bytes) = d
    have hbodies := foldl_body hreads d.bodies
    rw [← run_append] at hbodies
    have hstate := State.receiveBodies_unread (run events).state s.unread d.bodies
    rw [← h.state] at hstate
    have hpool : ((run events).state.receiveBodies d.bodies).1.reading = true :=
      (State.receiveBodies_reading _ _).trans (reads_eq_true.1 hreads).2
    by_cases hfault : d.fault = some .overflow
    · -- The length that overflows comes after the messages.
      have hrun : run (events ++ (d.bodies.map .body ++ [.halt])) = { run events with
          state := { ((run events).state.receiveBodies d.bodies).1 with reading := false }
          replies := (run events).replies ++ ((run events).state.receiveBodies d.bodies).2 } := by
        rw [← List.append_assoc, run_concat, hbodies]
        simp [step, Pool.reads, (reads_eq_true.1 hreads).1, hpool]
      refine ⟨d.bodies.map .body ++ [.halt], ⟨?_, ?_⟩, ?_⟩
      · rw [hrun, hstate]
        simp [hfault]
      · rw [hrun]
        exact h.reader
      · rw [hrun]
    · refine ⟨d.bodies.map .body, ⟨?_, ?_⟩, ?_⟩
      · rw [hbodies, hstate]
        simp [hfault, ← hpool]
      · rw [hbodies]
        exact h.reader
      · rw [hbodies]

/-! ### Steps of a request -/

/-- An event that takes a request a step further does so wherever the bytes stand. -/
theorem Follows.step (h : Follows events i s phase) {e : Event}
    (next : State → Phase → State × Phase)
    (hstep : ∀ {p j}, Pool.job? p i = some j → (p.step e).state = (next p.state j.phase).1 ∧
      (p.step e).reader = p.reader ∧
      ∃ j', (p.step e).job? i = some j' ∧ j'.phase = (next p.state j.phase).2)
    (hframe : ∀ (p : Pool) k, k ≠ i → (p.step e).job? k = p.job? k)
    (hunread : ∀ s unread phase, next { s with unread } phase =
      ({ (next s phase).1 with unread }, (next s phase).2)) :
    Leads events i (next s phase).1 (next s phase).2 := by
  obtain ⟨j, hjob, rfl⟩ := h.job
  obtain ⟨hstate, hreader, hjob'⟩ := hstep hjob
  have heq := hunread (run events).state s.unread j.phase
  rw [← h.shows.state] at heq
  rw [heq]
  refine ⟨[e], ⟨?_, ?_⟩, ?_, fun k j hk hold => ?_⟩
  · rw [run_concat, hstate]
  · rw [run_concat, hreader]
    exact h.shows.reader
  · rw [run_concat]
    exact hjob'
  · rw [run_concat, hframe _ k hk] at hold
    exact h.others k j hk hold

theorem Follows.advance (h : Follows events i s phase) (writable : Bool) :
    Leads events i (phase.advance writable s).1 (phase.advance writable s).2 :=
  h.step (fun s phase => phase.advance writable s) (fun hjob => step_advance hjob writable)
    (fun p _ hk => job?_act_ne p hk _) (Phase.advance_unread writable)

theorem Follows.expire (h : Follows events i s phase) :
    Leads events i (phase.expire s).1 (phase.expire s).2 :=
  h.step (fun s phase => phase.expire s) step_expire (fun p _ hk => job?_act_ne p hk _)
    Phase.expire_unread

/-- A call adds a request that has not begun. -/
theorem Shows.call (h : Shows events s) (hidle : Idle events) (method : String) (params : Json) :
    Leads events (run events).jobs.length s .start := by
  have hstep : run (events ++ [.call method params]) =
      (run events).add (.start method params) := run_concat _ _
  refine ⟨[.call method params], ⟨?_, ?_⟩, ⟨.start method params, ?_, rfl⟩, fun k j hk hold => ?_⟩
  · rw [hstep]
    exact h.state
  · rw [hstep]
    exact h.reader
  · rw [hstep]
    exact List.getElem?_concat_length
  · rw [hstep] at hold
    rcases job?_of_add hold with hold | ⟨hnew, _⟩
    · exact hidle k j hold
    · exact absurd hnew hk

end Pool

namespace Link

open Pool (run Shows Reaches Idle Follows Leads)

variable {ω : Type} {peer : Peer ω} {events : List Event} {link : Link ω} {i : Nat} {phase : Phase}

/-! ### What the server does -/

theorem foldl_perform_state (acts : List Act) (link : Link ω) :
    (acts.foldl perform link).state = link.state := by
  induction acts generalizing link with
  | nil => rfl
  | cons act acts ih =>
    rw [List.foldl_cons, ih]
    cases act <;> rfl

theorem write_state (peer : Peer ω) (link : Link ω) (bytes : List UInt8) :
    (link.write peer bytes).state = link.state :=
  foldl_perform_state _ _

/-- What the client does with replies. -/
def reply (peer : Peer ω) (link : Link ω) (replies : List Response) : Link ω :=
  replies.foldl
    (fun link r => if link.writable then link.write peer (Message.frame r.toJson) else link) link

theorem reply_state (peer : Peer ω) (link : Link ω) (replies : List Response) :
    (link.reply peer replies).state = link.state := by
  induction replies generalizing link with
  | nil => rfl
  | cons r replies ih =>
    rw [reply, List.foldl_cons]
    refine (ih _).trans ?_
    split
    · exact write_state peer link _
    · rfl

theorem deliver_bytes (peer : Peer ω) (link : Link ω) (time : Nat) (bytes : List UInt8) :
    link.deliver peer ⟨time, some bytes⟩ = ({ link with
      clock := max link.clock time
      state := (link.state.read bytes).1 } : Link ω).reply peer (link.state.read bytes).2 := rfl

theorem deliver_state (peer : Peer ω) (link : Link ω) (a : Arrival) :
    (link.deliver peer a).state = match a.bytes with
      | none => link.state.lose.clear
      | some bytes => (link.state.read bytes).1 := by
  unfold deliver
  cases a.bytes with
  | none => rfl
  | some bytes => exact reply_state peer _ _

theorem shows_deliver (h : Shows events link.state) (a : Arrival) :
    Reaches events (link.deliver peer a).state := by
  rw [deliver_state]
  split
  · exact h.lose_clear
  · exact h.read _

theorem shows_deliverWhile (goOn : Link ω → Arrival → Bool) (arrivals : List Arrival)
    (h : Shows events link.state) :
    Reaches events (deliverWhile peer goOn arrivals link).state := by
  induction arrivals generalizing link events with
  | nil => exact h.reaches
  | cons a rest ih =>
    simp only [deliverWhile]
    split
    · exact (shows_deliver h a).trans fun _ hshows => ih hshows
    · exact h.reaches

theorem shows_catchUp (peer : Peer ω) (h : Shows events link.state) :
    Reaches events (link.catchUp peer).state :=
  shows_deliverWhile _ _ h

theorem shows_awaitEnd (peer : Peer ω) (h : Shows events link.state) :
    Reaches events (link.awaitEnd peer).state :=
  shows_deliverWhile _ _ h

/-! ### What the client does -/

theorem follows_advance (h : Follows events i link.state phase) :
    Leads events i (link.advance phase).1.state (link.advance phase).2 :=
  h.advance link.writable

/-- A request takes its first steps together. -/
theorem follows_begin (h : Shows events link.state) (hidle : Idle events) (method : String)
    (params : Json) :
    Leads events (run events).jobs.length link.begin.1.state link.begin.2 := by
  refine (h.call hidle method params).trans fun _ hstart => ?_
  refine (follows_advance hstart).trans fun _ hfirst => ?_
  refine (follows_advance hfirst).trans fun _ hsecond => ?_
  exact (follows_advance hsecond).trans fun _ => follows_advance

/-- The first steps take a request up to the one that writes it, or turn it away. -/
theorem begin_phase (link : Link ω) :
    (∃ n, link.begin.2 = .confirmed n) ∨ link.begin.2 = .done .notRunning := by
  cases halive : link.state.alive with
  | true =>
    refine .inl ⟨link.state.issued, ?_⟩
    simp [begin, advance, Phase.advance, State.issue, State.register, State.withdraw, halive]
  | false => exact .inr (by simp [begin, advance, Phase.advance, halive])

/-- A request that is written waits until it has ended. -/
theorem follows_await (peer : Peer ω) (timeout : Nat) {n : Nat}
    (h : Follows events i link.state (.waiting n)) :
    ∃ ending, (link.await peer timeout (.waiting n)).2 = .done ending ∧
      Leads events i (link.await peer timeout (.waiting n)).1.state (.done ending) := by
  simp only [await]
  generalize hlink : deliverQueue peer _ link = waited
  have hwaited : Leads events i waited.state (.waiting n) := by
    rw [← hlink]
    exact h.reaches (shows_deliverWhile _ _ h.shows)
  split
  · exact ⟨.timedOut, rfl, hwaited.trans fun _ => Follows.expire⟩
  · next hends =>
    have hadvance := hwaited.trans fun _ => follows_advance
    cases hphase : (waited.advance (.waiting n)).2 with
    | done ending =>
      rw [hphase] at hadvance
      exact ⟨ending, rfl, hadvance⟩
    | _ => simp [hphase, Phase.ending?] at hends

theorem follows_catchUp (h : Leads events i link.state phase) :
    Leads events i (link.catchUp peer).state phase :=
  h.trans fun _ hfollows => hfollows.reaches (shows_catchUp peer hfollows.shows)

/-- A request of the client is one of the client with any number of requests. Its result is how it
ends there. -/
theorem request_simulated (peer : Peer ω) (timeout : Nat) (method : String) (params : Json)
    (h : Shows events link.state) (hidle : Idle events) :
    ∃ ending, Leads events (run events).jobs.length
        (link.request peer timeout method params).2.state (.done ending) ∧
      (link.request peer timeout method params).1 = ending.result method timeout := by
  obtain ⟨early, hcaught, hjobs⟩ := shows_catchUp peer h
  have hbegin := follows_begin hcaught (hidle.of_jobs_eq hjobs) method params
  have hphase := begin_phase (link.catchUp peer)
  rw [hjobs] at hbegin
  simp only [request]
  generalize (link.catchUp peer).begin = begun at hbegin hphase ⊢
  obtain ⟨begun, phase⟩ := begun
  rcases hphase with ⟨n, rfl⟩ | rfl
  · obtain ⟨first, hconfirmed⟩ := hbegin.of_append
    have hwrite := follows_advance hconfirmed
    simp only [Phase.writes?]
    cases hwritable : begun.writable with
    | true =>
      have hadvance : begun.advance (.confirmed n) = (begun, .waiting n) := by
        simp [advance, Phase.advance, hwritable]
      rw [hadvance] at hwrite ⊢
      obtain ⟨second, hwaiting⟩ := hwrite
      rw [← write_state peer] at hwaiting
      obtain ⟨ending, hdone, hends⟩ := follows_await peer timeout hwaiting
      refine ⟨ending, follows_catchUp hends.of_append.of_append, ?_⟩
      rw [if_pos rfl, hdone]
      rfl
    | false =>
      have hadvance : (begun.advance (.confirmed n)).2 = .done .unwritable := by
        simp [advance, Phase.advance, hwritable]
      rw [hadvance] at hwrite ⊢
      exact ⟨.unwritable, follows_catchUp hwrite.of_append, rfl⟩
  · exact ⟨.notRunning, follows_catchUp hbegin.of_append, rfl⟩

theorem shows_notify (method : String) (params : Json) (h : Shows events link.state) :
    Reaches events (link.notify peer method params).2.state := by
  refine (shows_catchUp peer h).trans fun later hcaught => ?_
  simp only [notify]
  split
  · refine shows_catchUp peer ?_
    rw [write_state]
    exact hcaught
  · exact hcaught.reaches

/-- What a client comes to that has sent requests and notifications one after the other. -/
inductive Reachable (peer : Peer ω) (timeout : Nat) : Link ω → Prop where
  | start (server : ω) : Reachable peer timeout (start server)
  | request {link : Link ω} (h : Reachable peer timeout link) (method : String) (params : Json) :
      Reachable peer timeout (link.request peer timeout method params).2
  | notify {link : Link ω} (h : Reachable peer timeout link) (method : String) (params : Json) :
      Reachable peer timeout (link.notify peer method params).2
  | awaitEnd {link : Link ω} (h : Reachable peer timeout link) :
      Reachable peer timeout (link.awaitEnd peer)

namespace Reachable

variable {timeout : Nat}

/-- A whole session goes through events of a client with any number of requests. -/
theorem shows (h : Reachable peer timeout link) :
    ∃ events, Shows events link.state ∧ Idle events := by
  induction h with
  | start server =>
    exact ⟨[], ⟨rfl, fun hlost => by cases hlost⟩, fun k j hk => by cases hk⟩
  | request _ method params ih =>
    obtain ⟨events, hshows, hidle⟩ := ih
    obtain ⟨ending, ⟨more, hfollows⟩, _⟩ :=
      request_simulated peer timeout method params hshows hidle
    exact ⟨_, hfollows.shows, hfollows.idle⟩
  | notify _ method params ih =>
    obtain ⟨events, hshows, hidle⟩ := ih
    exact (shows_notify method params hshows).idle hidle
  | awaitEnd _ ih =>
    obtain ⟨events, hshows, hidle⟩ := ih
    exact (shows_awaitEnd peer hshows).idle hidle

/-- No request is left waiting, whatever the server does. -/
theorem pending_eq_nil (h : Reachable peer timeout link) : link.state.pending = [] := by
  obtain ⟨events, hshows, hidle⟩ := h.shows
  exact hshows.pending_eq_nil hidle

end Reachable

end Link

end CallHierarchy.Client
