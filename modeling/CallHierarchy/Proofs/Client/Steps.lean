import CallHierarchy.Client.Pool
import Mathlib.Data.List.Induction

/-! What the steps of a client can do. A step of a request leads from a phase and a state to the
next ones, with what the request has looked at (`Phase.Move`). Every event comes to a step of this
kind, to a step of the reader, or to nothing (`Pool.Step`). -/

namespace CallHierarchy.Client

namespace Phase

/-- Whether the request has neither taken a serial nor ended. -/
def isFresh : Phase → Bool
  | start | checked => true
  | _ => false

/-- A step of a request in a state. -/
inductive Move (s : State) : Phase → State → Phase → Prop where
  | stay (phase : Phase) : Move s phase s phase
  | refuse (h : s.alive = false) : Move s start s (done .notRunning)
  | check (h : s.alive = true) : Move s start s checked
  | issue : Move s checked s.issue.2 (numbered s.issued)
  | register (n : Nat) : Move s (numbered n) (s.register n) (registered n)
  | confirm (n : Nat) (h : s.alive = true) : Move s (registered n) s (confirmed n)
  | write (n : Nat) : Move s (confirmed n) s (waiting n)
  | withdraw {phase : Phase} {n : Nat} {ending : Ending} (hphase : phase.registered? = some n)
      (hending : ∀ r, ending ≠ .answered r) :
      Move s phase (s.withdraw (State.idAfter n)) (done ending)
  | take {n : Nat} {r : Response} (h : s.answer? n = some r) :
      Move s (waiting n) s (done (.answered r))
  | close {n : Nat} (h : s.awaits n = false) : Move s (waiting n) s (done .closed)

theorem move_advance (writable : Bool) (s : State) (phase : Phase) :
    Move s phase (phase.advance writable s).1 (phase.advance writable s).2 := by
  cases phase with
  | start =>
    simp only [advance]
    split
    · next h => exact .check h
    · next h => exact .refuse (Bool.eq_false_iff.2 h)
  | checked => exact .issue
  | numbered n => exact .register n
  | registered n =>
    simp only [advance]
    split
    · next h => exact .confirm n h
    · exact .withdraw rfl (by simp)
  | confirmed n =>
    simp only [advance]
    split
    · exact .write n
    · exact .withdraw rfl (by simp)
  | waiting n =>
    simp only [advance]
    split
    · next r h => exact .take h
    · split
      · exact .stay _
      · next h => exact .close (Bool.eq_false_iff.2 h)
  | done ending => exact .stay _

theorem move_expire (s : State) (phase : Phase) :
    Move s phase (phase.expire s).1 (phase.expire s).2 := by
  unfold expire
  split
  · exact .withdraw rfl (by simp)
  · exact .stay _

theorem serial?_of_registered? {phase : Phase} {n : Nat} (h : phase.registered? = some n) :
    phase.serial? = some n := by
  cases phase <;> simp_all [registered?, serial?]

namespace Move

variable {s s' : State} {phase phase' : Phase}

/-- A request that is under way keeps its serial. It takes one after its first look. -/
theorem serial (h : Move s phase s' phase') :
    s'.issued = s.issued ∧ (phase'.serial? = phase.serial? ∨ phase'.serial? = none) ∨
      s'.issued = s.issued + 1 ∧ phase = checked ∧ phase' = numbered s.issued := by
  cases h with
  | issue => exact .inr ⟨rfl, rfl, rfl⟩
  | withdraw => exact .inl ⟨rfl, .inr rfl⟩
  | refuse | take | close => exact .inl ⟨rfl, .inr rfl⟩
  | stay | check | register | confirm | write => exact .inl ⟨rfl, .inl rfl⟩

theorem isFresh (h : Move s phase s' phase') (hfresh : phase'.isFresh = true) :
    phase.isFresh = true := by
  cases h with
  | stay => exact hfresh
  | check => rfl
  | _ => cases hfresh

/-- A request that has registered stays registered until it ends. -/
theorem registered (h : Move s phase s' phase') {n : Nat} (hn : phase.registered? = some n) :
    phase'.registered? = some n ∨ ∃ ending, phase' = done ending := by
  cases h with
  | stay => exact .inl hn
  | confirm | write => exact .inl hn
  | withdraw | take | close => exact .inr ⟨_, rfl⟩
  | refuse | check | issue | register => cases hn

theorem done {ending : Ending} (h : Move s (done ending) s' phase') :
    s' = s ∧ phase' = .done ending := by
  cases h with
  | stay => exact ⟨rfl, rfl⟩
  | withdraw hphase => cases hphase

theorem answers (h : Move s phase s' phase') : s'.answers = s.answers := by
  cases h <;> rfl

theorem alive (h : Move s phase s' phase') : s'.alive = s.alive := by
  cases h <;> rfl

theorem reading (h : Move s phase s' phase') : s'.reading = s.reading := by
  cases h <;> rfl

end Move

end Phase

namespace Pool

/-- What an event can do. -/
inductive Step (p : Pool) : Pool → Prop where
  | idle : Step p p
  | call (method : String) (params : Json) :
      Step p (p.add (.start method params))
  /-- Only a request that is about to write writes. -/
  | move {i : Nat} {j : Job} {s : State} {phase : Phase} {written : Option Request}
      (hjob : p.job? i = some j) (hmove : Phase.Move p.state j.phase s phase)
      (hwritten : j.phase.writes? = none → written = j.written) :
      Step p (p.put i s { j.enter phase with written })
  | route (r : Response) (h : p.reads = true) : Step p { p with state := p.state.route r }
  | reply (r : Response) : Step p { p with replies := p.replies ++ [r] }
  | halt (h : p.reads = true) : Step p { p with state := { p.state with reading := false } }
  | lose (h : p.reads = true) :
      Step p { p with state := { p.state with alive := false }, reader := .lost }
  | clear (h : p.reader = .lost) : Step p { p with state := p.state.clear, reader := .ended }

theorem reads_eq_true {p : Pool} :
    p.reads = true ↔ p.reader = .running ∧ p.state.reading = true := by
  simp [reads]

theorem step_act {p : Pool} {i : Nat} {move : State → Job → State × Job}
    (h : ∀ s j, ∃ s' phase written, move s j = (s', { j.enter phase with written }) ∧
      Phase.Move s j.phase s' phase ∧ (j.phase.writes? = none → written = j.written)) :
    Step p (p.act i move) := by
  unfold act
  split
  · exact .idle
  · next j hjob =>
    obtain ⟨s', phase, written, heq, hmove, hwritten⟩ := h p.state j
    rw [heq]
    exact .move hjob hmove hwritten

theorem step_receiveBody {p : Pool} (h : p.reads = true) (text : String) :
    Step p { p with
      state := (p.state.receiveBody text).1
      replies := p.replies ++ (p.state.receiveBody text).2.toList } := by
  unfold State.receiveBody
  split
  · next message _ =>
    cases message with
    | request r => exact .reply _
    | notification n => simpa [State.receive] using Step.idle
    | response r => simpa [State.receive] using Step.route r h
  · simpa using Step.idle

/-- Every event is one of the steps. -/
theorem step_step (p : Pool) (e : Event) : Step p (p.step e) := by
  cases e with
  | call method params => exact .call method params
  | advance i writable =>
    refine step_act fun s j =>
      ⟨_, _, j.message?.or j.written, rfl, Phase.move_advance writable s j.phase, fun hnone => ?_⟩
    simp [Job.message?, hnone]
  | expire i =>
    exact step_act fun s j => ⟨_, _, j.written, rfl, Phase.move_expire s j.phase, fun _ => rfl⟩
  | body text =>
    simp only [step]
    split
    · next h => exact step_receiveBody h text
    · exact .idle
  | halt =>
    simp only [step]
    split
    · next h => exact .halt h
    · exact .idle
  | lose =>
    simp only [step]
    split
    · next h =>
      have hlose : p.state.lose = { p.state with alive := false } :=
        if_pos (reads_eq_true.1 h).2
      rw [hlose]
      exact .lose h
    · exact .idle
  | clear =>
    simp only [step]
    split
    · next h => exact .clear h
    · exact .idle

/-- A step of a request leaves the others as they are. -/
theorem job?_act_ne (p : Pool) {i k : Nat} (hk : k ≠ i) (move : State → Job → State × Job) :
    (p.act i move).job? k = p.job? k := by
  unfold act
  split
  · rfl
  · exact List.getElem?_set_ne (Ne.symm hk)

theorem step_advance {p : Pool} {i : Nat} {j : Job} (hjob : p.job? i = some j)
    (writable : Bool) :
    (p.step (.advance i writable)).state = (j.phase.advance writable p.state).1 ∧
      (p.step (.advance i writable)).reader = p.reader ∧
      ∃ j', (p.step (.advance i writable)).job? i = some j' ∧
        j'.phase = (j.phase.advance writable p.state).2 := by
  simp only [step, act, hjob]
  exact ⟨rfl, rfl, _, job?_put_self hjob _ _, rfl⟩

theorem step_expire {p : Pool} {i : Nat} {j : Job} (hjob : p.job? i = some j) :
    (p.step (.expire i)).state = (j.phase.expire p.state).1 ∧
      (p.step (.expire i)).reader = p.reader ∧
      ∃ j', (p.step (.expire i)).job? i = some j' ∧ j'.phase = (j.phase.expire p.state).2 := by
  simp only [step, act, hjob]
  exact ⟨rfl, rfl, _, job?_put_self hjob _ _, rfl⟩

/-- What every step keeps is kept by a run. -/
theorem run_mono (P : Pool → Prop) (hstep : ∀ p p', P p → Step p p' → P p') {events : List Event}
    (h : P (run events)) (later : List Event) : P (run (events ++ later)) := by
  induction later using List.reverseRecOn with
  | nil => rwa [List.append_nil]
  | append_singleton later e ih =>
    rw [← List.append_assoc, run_concat]
    exact hstep _ _ ih (step_step _ e)

/-- Messages that arrive one after the other come to what the reader does with their bodies. -/
theorem foldl_body {p : Pool} (h : p.reads = true) (bodies : List String) :
    (bodies.map Event.body).foldl step p = { p with
      state := (p.state.receiveBodies bodies).1
      replies := p.replies ++ (p.state.receiveBodies bodies).2 } := by
  induction bodies generalizing p with
  | nil => simp [State.receiveBodies]
  | cons body bodies ih =>
    obtain ⟨hrunning, hreading⟩ := reads_eq_true.1 h
    have hstep : p.step (.body body) = { p with
        state := (p.state.receiveBody body).1
        replies := p.replies ++ (p.state.receiveBody body).2.toList } := if_pos h
    rw [List.map_cons, List.foldl_cons, hstep, ih]
    · simp [State.receiveBodies]
    · exact reads_eq_true.2 ⟨hrunning, (State.receiveBody_reading _ _).trans hreading⟩

end Pool

end CallHierarchy.Client
