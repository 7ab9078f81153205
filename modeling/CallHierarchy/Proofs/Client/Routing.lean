import CallHierarchy.Proofs.Client.Invariant
import CallHierarchy.Proofs.Wire.RoundTrip

/-! Where responses go. Each request has an identity of its own. It is answered by a response to
that identity, which arrived while it waited, and which answers no other request. Any other response
is as if it had not come (`run_routing`). -/

namespace CallHierarchy.Client.Pool

open Phase (done)

/-- The request has taken a serial. -/
def Took (p : Pool) (i n : Nat) : Prop := ∃ j, p.job? i = some j ∧ j.number = some n

/-- The event with the index `k` is a response to the request `i`, which then waits. -/
structure Hands (events : List Event) (k i n : Nat) (r : Response) : Prop where
  arrives : ∃ text, events[k]? = some (.body text) ∧ Message.parse text = .ok (.response r)
  reads : (run (events.take k)).reads = true
  waits : ∃ j, (run (events.take k)).job? i = some j ∧ j.phase.registered? = some n
  pending : (State.idAfter n, n) ∈ (run (events.take k)).state.pending
  named : r.id = some (State.idAfter n)

/-- A response that no request waits for when it arrives after events. -/
inductive Stray (events : List Event) (r : Response) : Prop where
  | unnamed (h : r.id = none)
  /-- No request has the identity yet, if ever one will. -/
  | unknown (h : ∀ i n, Took (run events) i n → r.id ≠ some (State.idAfter n))
  /-- The request has the identity, but has not registered under it. -/
  | early {i n : Nat} {j : Job} (hjob : (run events).job? i = some j)
      (hphase : j.phase = .numbered n) (hid : r.id = some (State.idAfter n))
  /-- The request has ended. -/
  | late {i n : Nat} {j : Job} {ending : Ending} (hjob : (run events).job? i = some j)
      (hnumber : j.number = some n) (hphase : j.phase = done ending)
      (hid : r.id = some (State.idAfter n))
  /-- There was a response to the request. -/
  | repeated {k i n : Nat} {r' : Response} (h : Hands events k i n r') (hid : r.id = r'.id)

variable {p : Pool}

/-! ### What steps keep -/

theorem took_step {i n : Nat} (h : Took p i n) {p' : Pool} (hstep : Step p p') : Took p' i n := by
  obtain ⟨j, hjob, hnumber⟩ := h
  cases hstep with
  | idle | route | reply | halt | lose | clear => exact ⟨j, hjob, hnumber⟩
  | call => exact ⟨j, job?_add hjob _, hnumber⟩
  | @move k job s phase written hk hmove hwritten =>
    by_cases hik : i = k
    · subst hik
      obtain rfl : job = j := Option.some.inj (hk.symm.trans hjob)
      refine ⟨_, job?_put_self hjob s _, ?_⟩
      show (job.enter phase).number = some n
      simp [Job.enter, hnumber]
    · exact ⟨j, job?_put_ne hik hjob s _, hnumber⟩

theorem mem_answers_step {a : Nat × Response} (h : a ∈ p.state.answers) {p' : Pool}
    (hstep : Step p p') : a ∈ p'.state.answers := by
  cases hstep with
  | idle | call | reply | halt | lose => exact h
  | move _ hmove _ =>
    simpa only [put, hmove.answers] using h
  | route r =>
    rcases p.state.route_cases r with ⟨id, n, _, _, heq⟩ | ⟨heq, _⟩
    · rw [heq]
      exact List.mem_cons_of_mem _ h
    · rw [heq]
      exact h
  | clear =>
    unfold State.clear
    split <;> exact h

/-- What every step keeps holds at the end of a run if it held on the way. -/
theorem run_of_take (P : Pool → Prop) (hstep : ∀ p p', P p → Step p p' → P p')
    {events : List Event} (k : Nat) (h : P (run (events.take k))) : P (run events) := by
  rw [← List.take_append_drop k events]
  exact run_mono P hstep h _

/-! ### Where answers come from -/

/-- An event that is no message leaves the answers as they are. A message adds at most the response
that it is. -/
theorem answers_step (p : Pool) (e : Event) :
    (p.step e).state.answers = p.state.answers ∨
      ∃ text r id n, e = .body text ∧ Message.parse text = .ok (.response r) ∧ p.reads = true ∧
        r.id = some id ∧ (id, n) ∈ p.state.pending ∧
        (p.step e).state.answers = (n, r) :: p.state.answers := by
  cases e with
  | call => exact .inl rfl
  | advance i writable =>
    simp only [step, act]
    split
    · exact .inl rfl
    · next j _ => exact .inl (Phase.move_advance writable p.state j.phase).answers
  | expire i =>
    simp only [step, act]
    split
    · exact .inl rfl
    · next j _ => exact .inl (Phase.move_expire p.state j.phase).answers
  | body text =>
    simp only [step]
    split
    · next hreads =>
      simp only [State.receiveBody]
      split
      · next message hparse =>
        cases message with
        | request => exact .inl rfl
        | notification => exact .inl rfl
        | response r =>
          rcases p.state.route_cases r with ⟨id, n, hid, hpending, heq⟩ | ⟨heq, _⟩
          · refine .inr ⟨text, r, id, n, rfl, hparse, hreads, hid, hpending, ?_⟩
            simp only [State.receive, heq]
          · refine .inl ?_
            simp only [State.receive, heq]
      · exact .inl rfl
    · exact .inl rfl
  | halt =>
    simp only [step]
    split <;> exact .inl rfl
  | lose =>
    simp only [step, State.lose]
    split
    · split <;> exact .inl rfl
    · exact .inl rfl
  | clear =>
    simp only [step, State.clear]
    split
    · split <;> exact .inl rfl
    · exact .inl rfl

theorem Hands.append {events : List Event} {k i n : Nat} {r : Response} (h : Hands events k i n r)
    (later : List Event) : Hands (events ++ later) k i n r := by
  obtain ⟨text, hget, hparse⟩ := h.arrives
  obtain ⟨hk, _⟩ := List.getElem?_eq_some_iff.1 hget
  have htake : (events ++ later).take k = events.take k := List.take_append_of_le_length (by omega)
  refine ⟨⟨text, (List.getElem?_append_left hk).trans hget, hparse⟩, ?_, ?_, ?_, h.named⟩
  · rw [htake]
    exact h.reads
  · rw [htake]
    exact h.waits
  · rw [htake]
    exact h.pending

/-- Each answer was handed over by an event. -/
theorem exists_hands {events : List Event} {n : Nat} {r : Response}
    (h : (n, r) ∈ (run events).state.answers) : ∃ k i, Hands events k i n r := by
  induction events using List.reverseRecOn with
  | nil => cases h
  | append_singleton events e ih =>
    rw [run_concat] at h
    rcases answers_step (run events) e with
      heq | ⟨text, r', id, m, rfl, hparse, hreads, hid, hm, heq⟩
    · rw [heq] at h
      obtain ⟨k, i, hhands⟩ := ih h
      exact ⟨k, i, hhands.append _⟩
    · rw [heq] at h
      rcases List.mem_cons.1 h with hhead | h
      · cases hhead
        have hsound := sound_run events
        obtain rfl : id = State.idAfter n := hsound.tied.named hm
        obtain ⟨i, j, hjob, hregistered, _⟩ := hsound.tied.held hm
        have htake : (events ++ [Event.body text]).take events.length = events := List.take_left
        refine ⟨events.length, i, ⟨text, List.getElem?_concat_length, hparse⟩, ?_, ?_, ?_, hid⟩
        · rw [htake]
          exact hreads
        · rw [htake]
          exact ⟨j, hjob, hregistered⟩
        · rw [htake]
          exact hm
      · obtain ⟨k, i, hhands⟩ := ih h
        exact ⟨k, i, hhands.append _⟩

/-- The run up to and with the event that hands over a response. -/
theorem Hands.step {events : List Event} {k i n : Nat} {r : Response} (h : Hands events k i n r) :
    (n, r) ∈ (run (events.take (k + 1))).state.answers := by
  obtain ⟨text, hget, hparse⟩ := h.arrives
  have hsound := sound_run (events.take k)
  rw [List.take_add_one, hget, Option.toList_some, run_concat]
  simp only [Pool.step, h.reads, if_true, State.receiveBody, hparse, State.receive]
  rcases State.route_cases (run (events.take k)).state r with
    ⟨id, m, hid, hm, heq⟩ | ⟨_, hnone⟩
  · obtain rfl : id = State.idAfter n := Option.some.inj (hid.symm.trans h.named)
    obtain rfl := hsound.eq_of_mem_pending h.pending hm
    rw [heq]
    exact List.mem_cons_self
  · exact absurd h.named (hnone _ h.pending)

/-- A response that was handed over stays an answer. -/
theorem Hands.mem_answers {events : List Event} {k i n : Nat} {r : Response}
    (h : Hands events k i n r) : (n, r) ∈ (run events).state.answers :=
  run_of_take (fun p => (n, r) ∈ p.state.answers) (fun _ _ hr => mem_answers_step hr) (k + 1) h.step

/-- The request that an event answers has the serial ever after. -/
theorem Hands.took {events : List Event} {k i n : Nat} {r : Response} (h : Hands events k i n r) :
    Took (run events) i n := by
  obtain ⟨j, hjob, hregistered⟩ := h.waits
  refine run_of_take (fun p => Took p i n) (fun _ _ ht => took_step ht) k ⟨j, hjob, ?_⟩
  exact (sound_run _).number_of_registered hjob hregistered

/-- An event answers one request. -/
theorem Hands.eq_request {events : List Event} {k i i' n n' : Nat} {r r' : Response}
    (h : Hands events k i n r) (h' : Hands events k i' n' r') : i = i' := by
  have hsound := sound_run (events.take k)
  obtain ⟨text, hget, hparse⟩ := h.arrives
  obtain ⟨text', hget', hparse'⟩ := h'.arrives
  obtain rfl : text = text' := Event.body.inj (Option.some.inj (hget.symm.trans hget'))
  obtain rfl : r = r' := Message.response.inj (Except.ok.inj (hparse.symm.trans hparse'))
  have hid : State.idAfter n = State.idAfter n' := Option.some.inj (h.named.symm.trans h'.named)
  have hpending := h.pending
  rw [hid] at hpending
  obtain rfl := hsound.eq_of_mem_pending hpending h'.pending
  obtain ⟨j, hjob, hregistered⟩ := h.waits
  obtain ⟨j', hjob', hregistered'⟩ := h'.waits
  exact hsound.eq_of_registered hjob hjob' hregistered hregistered'

/-! ### Stray responses -/

/-- A response that fits no entry of those who wait changes nothing. -/
theorem step_body_of_unmatched {r : Response} {text : String}
    (hparse : Message.parse text = .ok (.response r))
    (h : ∀ e ∈ p.state.pending, r.id ≠ some e.1) : p.step (.body text) = p := by
  have hroute : p.state.route r = p.state := by
    rcases p.state.route_cases r with ⟨id, n, hid, hn, _⟩ | ⟨heq, _⟩
    · exact absurd hid (h _ hn)
    · exact heq
  simp only [step]
  split
  · simp [State.receiveBody, hparse, State.receive, hroute]
  · rfl

/-- An entry under the identity of a serial is that of the request with the serial. -/
theorem Sound.registered_of_named (h : Sound p) (hissued : p.state.issued ≤ 2 ^ 64) {i n : Nat}
    {j : Job} (hjob : p.job? i = some j) (hnumber : j.number = some n) {e : RequestId × Nat}
    (he : e ∈ p.state.pending) (hid : e.1 = State.idAfter n) : j.phase.registered? = some n := by
  obtain ⟨i', j', hjob', hregistered, _⟩ := h.tied.held he
  rw [h.serial_of_named hissued he (h.numbered.issued hjob hnumber) hid] at hregistered
  obtain rfl :=
    h.numbered.single hjob hjob' hnumber (h.number_of_registered hjob' hregistered)
  obtain rfl : j = j' := Option.some.inj (hjob.symm.trans hjob')
  exact hregistered

theorem Stray.unmatched {events : List Event} {r : Response} (h : Stray events r)
    (hissued : (run events).state.issued ≤ 2 ^ 64) :
    ∀ e ∈ (run events).state.pending, r.id ≠ some e.1 := by
  have hsound := sound_run events
  intro e he hmatch
  cases h with
  | unnamed hnone => cases hnone.symm.trans hmatch
  | unknown htaken =>
    obtain ⟨i, j, hjob, hregistered, _⟩ := hsound.tied.held he
    refine htaken i e.2 ⟨j, hjob, hsound.number_of_registered hjob hregistered⟩ ?_
    rw [hmatch, hsound.tied.named he]
  | early hjob hphase hid =>
    have hnumber := hsound.numbered.kept hjob (by rw [hphase]; rfl)
    have hregistered := hsound.registered_of_named hissued hjob hnumber he
      (Option.some.inj (hmatch.symm.trans hid))
    rw [hphase] at hregistered
    cases hregistered
  | late hjob hnumber hphase hid =>
    have hregistered := hsound.registered_of_named hissued hjob hnumber he
      (Option.some.inj (hmatch.symm.trans hid))
    rw [hphase] at hregistered
    cases hregistered
  | @repeated k i n r' hhands hid =>
    have hid : e.1 = State.idAfter n :=
      Option.some.inj (hmatch.symm.trans (hid.trans hhands.named))
    obtain ⟨j, hjob, hnumber⟩ := hhands.took
    obtain rfl := hsound.serial_of_named hissued he (hsound.numbered.issued hjob hnumber) hid
    exact hsound.settled.apart hhands.mem_answers he

/-- In a run with fewer than `2 ^ 63` requests, no response goes astray.

Requests have identities of their own. A request that ends with a response has it from a message
that carried just its identity and that arrived after the request had registered and while it
waited. No message answers two requests. A response that no request waits for leaves the client as
it is, so that whatever happens next happens as if it had not come. -/
theorem run_routing {events : List Event} (h : (run events).jobs.length < 2 ^ 63) :
    (∀ i i' n n', Took (run events) i n → Took (run events) i' n' →
      State.idAfter n = State.idAfter n' → i = i') ∧
    (∀ i j r, (run events).job? i = some j → j.phase = done (.answered r) →
      ∃ n k, j.number = some n ∧ Hands events k i n r) ∧
    (∀ k i i' n n' r r', Hands events k i n r → Hands events k i' n' r' → i = i') ∧
    ∀ text r, Message.parse text = .ok (.response r) → Stray events r →
      ∀ later, run (events ++ .body text :: later) = run (events ++ later) := by
  have hsound := sound_run events
  have hissued := issued_le_length events
  refine ⟨?_, ?_, ?_, ?_⟩
  · rintro i i' n n' ⟨j, hjob, hnumber⟩ ⟨j', hjob', hnumber'⟩ hid
    have hlt := hsound.numbered.issued hjob hnumber
    have hlt' := hsound.numbered.issued hjob' hnumber'
    obtain rfl := State.idAfter_inj (by omega) (by omega) hid
    exact hsound.numbered.single hjob hjob' hnumber hnumber'
  · intro i j r hjob hphase
    obtain ⟨n, hnumber, hr⟩ := hsound.settled.taken hjob hphase
    obtain ⟨k, i', hhands⟩ := exists_hands hr
    obtain ⟨j', hjob', hnumber'⟩ := hhands.took
    obtain rfl := hsound.numbered.single hjob hjob' hnumber hnumber'
    exact ⟨n, k, hnumber, hhands⟩
  · intro k i i' n n' r r' hhands hhands'
    exact hhands.eq_request hhands'
  · intro text r hparse hstray later
    have hstep : (run events).step (.body text) = run events :=
      step_body_of_unmatched hparse (hstray.unmatched (by omega))
    rw [run_append, List.foldl_cons, hstep, ← run_append]

/-- A request waits under the number one, and a response comes for the text of that number. -/
theorem run_routing_text :
    let events : List Event := .call "a" .null :: List.replicate 5 (.advance 0 true)
    let r : Response := ⟨rpcVersion, some (.text "1"), none, none⟩
    let text := (Message.response r).toJson.compact
    (run events).jobs.length < 2 ^ 63 ∧ Message.parse text = .ok (.response r) ∧ Stray events r ∧
      ∀ later, run (events ++ .body text :: later) = run (events ++ later) := by
  intro events r text
  have hlength : (run events).jobs.length < 2 ^ 63 := by decide
  have hsend : (Message.response r).Sendable := by
    refine ⟨by simp [r], fun v hv => ?_, fun v hv => ?_, by decide, by decide⟩
    · cases hv
    · cases hv
  have hparse : Message.parse text = .ok (.response r) := hsend.parse_compact
  have hstray : Stray events r := .unknown fun i n _ => by simp [r, State.idAfter]
  exact ⟨hlength, hparse, hstray, (run_routing hlength).2.2.2 text r hparse hstray⟩

end CallHierarchy.Client.Pool
