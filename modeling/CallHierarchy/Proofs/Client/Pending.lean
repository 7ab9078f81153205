import CallHierarchy.Proofs.Client.Invariant

/-! What becomes of requests when the server goes. Who waits is known exactly, a reader that has
ended leaves no written request behind, and a request that comes later is turned away
(`run_pending`). -/

namespace CallHierarchy.Client.Pool

open Phase (done)

/-- The request has registered under an identity, and has not ended. -/
def Waits (p : Pool) (i : Nat) (id : RequestId) : Prop :=
  ∃ j n, p.job? i = some j ∧ j.phase.registered? = some n ∧ id = State.idAfter n

/-- The channel that is kept under an identity is that of the request. -/
def Owns (p : Pool) (i : Nat) (id : RequestId) : Prop :=
  ∃ j n, p.job? i = some j ∧ j.phase.registered? = some n ∧ (id, n) ∈ p.state.pending

/-- The request has not begun, or was turned away at its first look. -/
structure TurnedAway (j : Job) : Prop where
  phase : j.phase = .start ∨ j.phase = done .notRunning
  number : j.number = none
  written : j.written = none

variable {p : Pool}

/-! ### Who waits -/

/-- Each channel that is kept is that of one request. -/
theorem Sound.existsUnique_owns (h : Sound p) {e : RequestId × Nat} (he : e ∈ p.state.pending) :
    ∃! i, Owns p i e.1 := by
  obtain ⟨i, j, hjob, hregistered, _⟩ := h.tied.held he
  refine ⟨i, ⟨j, e.2, hjob, hregistered, he⟩, ?_⟩
  rintro i' ⟨j', n, hjob', hregistered', hpending⟩
  obtain rfl : n = e.2 := h.eq_of_mem_pending hpending he
  exact h.eq_of_registered hjob' hjob hregistered' hregistered

/-- As long as identities differ, no other request waits under the identity. -/
theorem Sound.existsUnique_waits (h : Sound p) (hissued : p.state.issued ≤ 2 ^ 64)
    {e : RequestId × Nat} (he : e ∈ p.state.pending) : ∃! i, Waits p i e.1 := by
  obtain ⟨i, j, hjob, hregistered, _⟩ := h.tied.held he
  refine ⟨i, ⟨j, e.2, hjob, hregistered, h.tied.named he⟩, ?_⟩
  rintro i' ⟨j', n, hjob', hregistered', hid⟩
  obtain rfl := h.serial_of_named hissued he (h.issued_of_registered hjob' hregistered') hid
  exact h.eq_of_registered hjob' hjob hregistered' hregistered

theorem Sound.pending_eq_nil (h : Sound p)
    (hdone : ∀ j ∈ p.jobs, ∃ ending, j.phase = done ending) : p.state.pending = [] := by
  refine List.eq_nil_iff_forall_not_mem.2 fun e he => ?_
  obtain ⟨i, j, hjob, hregistered, _⟩ := h.tied.held he
  obtain ⟨ending, hphase⟩ := hdone j (List.mem_of_getElem? hjob)
  rw [hphase] at hregistered
  cases hregistered

/-! ### The end of the reader -/

/-- The reader does not begin again. -/
theorem ended_step {p' : Pool} (hstep : Step p p') (hended : p.reader = .ended) :
    p'.reader = .ended := by
  cases hstep with
  | idle | call | move | route | reply | halt => exact hended
  | lose hreads => cases (reads_eq_true.1 hreads).1.symm.trans hended
  | clear => rfl

theorem registered?_of_looked {phase : Phase} {n : Nat}
    (h : phase = .confirmed n ∨ phase = .waiting n) : phase.registered? = some n := by
  rcases h with rfl | rfl
  · rfl
  · rfl

/-- A request that has looked a second time is not among those who wait. -/
theorem Sound.not_pending (h : Sound p) (hended : p.reader = .ended) {i n : Nat} {j : Job}
    (hjob : p.job? i = some j) (hphase : j.phase = .confirmed n ∨ j.phase = .waiting n) :
    ∀ e ∈ p.state.pending, e.2 ≠ n := by
  rintro e he rfl
  have hregistered := registered?_of_looked hphase
  obtain ⟨i', j', hjob', hregistered', hold⟩ := h.tied.held he
  obtain rfl := h.eq_of_registered hjob hjob' hregistered hregistered'
  obtain rfl : j = j' := Option.some.inj (hjob.symm.trans hjob')
  rw [hold hended] at hphase
  rcases hphase with hp | hp <;> cases hp

theorem Sound.idAfter_not_mem (h : Sound p) (hissued : p.state.issued ≤ 2 ^ 64)
    (hended : p.reader = .ended) {i n : Nat} {j : Job} (hjob : p.job? i = some j)
    (hphase : j.phase = .confirmed n ∨ j.phase = .waiting n) :
    State.idAfter n ∉ p.state.pending.map Prod.fst := by
  intro hmem
  obtain ⟨e, he, hid⟩ := List.mem_map.1 hmem
  have hn := h.issued_of_registered hjob (registered?_of_looked hphase)
  exact h.not_pending hended hjob hphase e he (h.serial_of_named hissued he hn hid)

/-- A request that waits when the reader has ended needs one more step, which ends it. -/
theorem Sound.advance_waiting (h : Sound p) (hended : p.reader = .ended) {i n : Nat} {j : Job}
    (hjob : p.job? i = some j) (hphase : j.phase = .waiting n) (writable : Bool) :
    ∃ j', (p.step (.advance i writable)).job? i = some j' ∧
      (j'.phase = done .closed ∨ ∃ r, j'.phase = done (.answered r)) := by
  obtain ⟨_, _, j', hjob', hphase'⟩ := step_advance hjob writable
  refine ⟨j', hjob', ?_⟩
  have hawaits : p.state.awaits n = false :=
    State.awaits_eq_false.2 (h.not_pending hended hjob (.inr hphase))
  rw [hphase', hphase]
  simp only [Phase.advance]
  split
  · next r _ => exact .inr ⟨r, rfl⟩
  · rw [if_neg (by simp [hawaits])]
    exact .inl rfl

theorem advance_confirmed {i n : Nat} {j : Job} (hjob : p.job? i = some j)
    (hphase : j.phase = .confirmed n) (writable : Bool) :
    ∃ j', (p.step (.advance i writable)).job? i = some j' ∧
      (j'.phase = .waiting n ∨ j'.phase = done .unwritable) := by
  obtain ⟨_, _, j', hjob', hphase'⟩ := step_advance hjob writable
  refine ⟨j', hjob', ?_⟩
  rw [hphase', hphase]
  cases writable with
  | true => exact .inl rfl
  | false => exact .inr rfl

/-! ### After the end of the server -/

/-- The server stays gone. -/
theorem alive_step {p' : Pool} (hstep : Step p p')
    (hdead : p.state.alive = false) : p'.state.alive = false := by
  cases hstep with
  | idle | call | reply | halt => exact hdead
  | move _ hmove _ => exact hmove.alive.trans hdead
  | route r => exact (p.state.route_frame r).2.1.trans hdead
  | lose => rfl
  | clear =>
    unfold State.clear
    split <;> exact hdead

/-- A request that begins after the server has gone is turned away. -/
theorem turnedAway_step {p' : Pool} (hstep : Step p p') (hdead : p.state.alive = false) {i : Nat}
    (h : ∀ j, p.job? i = some j → TurnedAway j) : ∀ j, p'.job? i = some j → TurnedAway j := by
  intro job hk
  cases hstep with
  | idle | route | reply | halt | lose | clear => exact h job hk
  | call method params =>
    rcases job?_of_add hk with hold | ⟨_, rfl⟩
    · exact h job hold
    · exact ⟨.inl rfl, rfl, rfl⟩
  | @move _ j s phase written hjob hmove hwritten =>
    rcases job?_of_put hk with ⟨rfl, rfl⟩ | ⟨_, hold⟩
    · obtain ⟨hphase, hnumber, hnothing⟩ := h j hjob
      have hphase' : phase = .start ∨ phase = done .notRunning := by
        rcases hphase with hstart | hdone
        · rw [hstart] at hmove
          cases hmove with
          | stay => exact .inl rfl
          | refuse => exact .inr rfl
          | check halive => cases hdead.symm.trans halive
          | withdraw hregistered => cases hregistered
        · rw [hdone] at hmove
          exact .inr hmove.done.2
      have hwrites : j.phase.writes? = none := by
        rcases hphase with hp | hp
        · rw [hp]
          rfl
        · rw [hp]
          rfl
      refine ⟨hphase', ?_, (hwritten hwrites).trans hnothing⟩
      show (j.enter phase).number = none
      rcases hphase' with rfl | rfl
      · simp [Job.enter, hnumber, Phase.serial?]
      · simp [Job.enter, hnumber, Phase.serial?]
    · exact h job hold

theorem TurnedAway.advance {i : Nat} {j : Job} (h : TurnedAway j) (hjob : p.job? i = some j)
    (hdead : p.state.alive = false) (writable : Bool) :
    (p.step (.advance i writable)).state = p.state ∧
      ∃ j', (p.step (.advance i writable)).job? i = some j' ∧ j'.phase = done .notRunning := by
  obtain ⟨hstate, _, j', hjob', hphase'⟩ := step_advance hjob writable
  rw [hstate]
  rcases h.phase with hp | hp
  · rw [hp, Phase.advance, if_neg (by simp [hdead])] at hphase' ⊢
    exact ⟨rfl, j', hjob', hphase'⟩
  · rw [hp] at hphase' ⊢
    exact ⟨rfl, j', hjob', hphase'⟩

/-- Once the server has gone it stays gone, and requests that had not begun are turned away. -/
theorem run_dead {events : List Event} (hdead : (run events).state.alive = false)
    (later : List Event) : (run (events ++ later)).state.alive = false ∧
      ∀ i, (∀ j, (run events).job? i = some j → j.phase = .start) →
        ∀ j, (run (events ++ later)).job? i = some j → TurnedAway j := by
  refine run_mono (fun p => p.state.alive = false ∧
    ∀ i, (∀ j, (run events).job? i = some j → j.phase = .start) →
      ∀ j, p.job? i = some j → TurnedAway j)
    (fun p p' h hstep => ?_) ⟨hdead, fun i hstart j hjob => ?_⟩ later
  · obtain ⟨halive, hturned⟩ := h
    exact ⟨alive_step hstep halive, fun i hstart => turnedAway_step hstep halive (hturned i hstart)⟩
  · have hphase := hstart j hjob
    obtain ⟨hnumber, hwritten⟩ :=
      (sound_run events).numbered.fresh hjob (by rw [hphase]; rfl)
    exact ⟨.inl hphase, hnumber, hwritten⟩

/-- No request is left behind, and nothing is left of a request that has ended.

Each identity in the table is that of one request, which has registered under it and has not ended.
The channel beside it is the request's own. Once all requests have ended the table is empty.

After the reader has ended, which is for good, a request that has looked a second time is not in the
table. Its next steps write it, or fail to, and then end it with an answer or a closed channel.

Once the server counts as gone it stays gone. A request that begins then ends at its first look,
without an identity, and without a word to the server. -/
theorem run_pending (events : List Event) :
    let p := run events
    ((p.state.pending.map Prod.fst).Nodup ∧
      (∀ e ∈ p.state.pending, (∃! i, Owns p i e.1) ∧
        (p.state.issued ≤ 2 ^ 64 → ∃! i, Waits p i e.1)) ∧
      ((∀ j ∈ p.jobs, ∃ ending, j.phase = done ending) → p.state.pending = [])) ∧
    (p.reader = .ended → (∀ later, (run (events ++ later)).reader = .ended) ∧
      ∀ i j n, p.job? i = some j → (j.phase = .confirmed n ∨ j.phase = .waiting n) →
        (∀ id, ¬ Owns p i id) ∧
        (p.state.issued ≤ 2 ^ 64 → State.idAfter n ∉ p.state.pending.map Prod.fst) ∧
        ∀ writable, ∃ j', (p.step (.advance i writable)).job? i = some j' ∧
          (j.phase = .confirmed n → j'.phase = .waiting n ∨ j'.phase = done .unwritable) ∧
          (j.phase = .waiting n →
            j'.phase = done .closed ∨ ∃ r, j'.phase = done (.answered r))) ∧
    (p.state.alive = false → ∀ later,
      let p' := run (events ++ later)
      p'.state.alive = false ∧
      ∀ i, (∀ j, p.job? i = some j → j.phase = .start) → ∀ j, p'.job? i = some j →
        TurnedAway j ∧ ∀ writable, (p'.step (.advance i writable)).state = p'.state ∧
          ∃ j', (p'.step (.advance i writable)).job? i = some j' ∧
            j'.phase = done .notRunning) := by
  intro p
  have h : Sound p := sound_run events
  refine ⟨⟨h.tied.single, fun e he => ?_, h.pending_eq_nil⟩,
    fun hended => ⟨run_mono (·.reader = .ended) (fun _ _ h hstep => ended_step hstep h) hended,
      fun i j n hjob hphase => ⟨?_, ?_, fun writable => ?_⟩⟩, fun hdead later => ?_⟩
  · exact ⟨h.existsUnique_owns he, fun hissued => h.existsUnique_waits hissued he⟩
  · rintro id ⟨j', m, hjob', hregistered, hpending⟩
    obtain rfl : j = j' := Option.some.inj (hjob.symm.trans hjob')
    have hm : m = n := Option.some.inj (hregistered.symm.trans (registered?_of_looked hphase))
    exact h.not_pending hended hjob hphase _ hpending hm
  · intro hissued hmem
    exact h.idAfter_not_mem hissued hended hjob hphase hmem
  · rcases hphase with hp | hp
    · obtain ⟨j', hjob', hphase'⟩ := advance_confirmed hjob hp writable
      exact ⟨j', hjob', fun _ => hphase', fun hw => absurd (hp.symm.trans hw) (by simp)⟩
    · obtain ⟨j', hjob', hphase'⟩ := h.advance_waiting hended hjob hp writable
      exact ⟨j', hjob', fun hc => absurd (hp.symm.trans hc) (by simp), fun _ => hphase'⟩
  · obtain ⟨halive, hturned⟩ := run_dead hdead later
    exact ⟨halive, fun i hstart j hjob =>
      ⟨hturned i hstart j hjob, (hturned i hstart j hjob).advance hjob halive⟩⟩

/-- A request is written, the server goes, and the request need not wait for its time to run out. -/
example : ((run (.call "a" .null :: List.replicate 5 (.advance 0 true) ++
    [.lose, .clear, .advance 0 true])).job? 0).map (·.phase) = some (done .closed) := rfl

end CallHierarchy.Client.Pool
