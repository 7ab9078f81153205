import CallHierarchy.Proofs.Client.Steps
import Mathlib.Algebra.Group.Nat.Defs
import Mathlib.Data.List.Nodup

/-! What always holds of a client. Serials are taken once (`Numbered`). Each request that waits has
registered and has not ended, and at the end of the reader it has not looked again (`Tied`). Each
answer was handed to a request that waits no longer (`Settled`). The client counts as running up to
the first step that ends the reader (`Watched`). -/

namespace CallHierarchy.Client

/-- As long as 64 bits can count the requests, each has an identity of its own. -/
theorem State.idAfter_inj {n m : Nat} (hn : n < 2 ^ 64) (hm : m < 2 ^ 64)
    (h : idAfter n = idAfter m) : n = m := by
  have hid : Int64.ofNat (n + 1) = Int64.ofNat (m + 1) := RequestId.number.inj h
  have hbits := congrArg (fun x => x.toBitVec.toNat) hid
  simp only [Int64.toBitVec_ofNat', BitVec.toNat_ofNat] at hbits
  omega

namespace Pool

open Phase (done)

/-- The serials of requests are those that have been issued, each for one request. -/
structure Numbered (p : Pool) : Prop where
  issued : ∀ {i j n}, p.job? i = some j → j.number = some n → n < p.state.issued
  single : ∀ {i i' j j' n}, p.job? i = some j → p.job? i' = some j' →
    j.number = some n → j'.number = some n → i = i'
  kept : ∀ {i j n}, p.job? i = some j → j.phase.serial? = some n → j.number = some n
  fresh : ∀ {i j}, p.job? i = some j → j.phase.isFresh = true → j.number = none ∧ j.written = none
  counted : p.state.issued = p.jobs.countP (·.number.isSome)

/-- Each entry of those who wait is that of a request that has registered and has not ended. -/
structure Tied (p : Pool) : Prop where
  named : ∀ {e}, e ∈ p.state.pending → e.1 = State.idAfter e.2
  held : ∀ {e}, e ∈ p.state.pending → ∃ i j, p.job? i = some j ∧
    j.phase.registered? = some e.2 ∧ (p.reader = .ended → j.phase = .registered e.2)
  single : (p.state.pending.map Prod.fst).Nodup

/-- Each answer is one to the identity of a request that waits no longer. -/
structure Settled (p : Pool) : Prop where
  named : ∀ {n r}, (n, r) ∈ p.state.answers → r.id = some (State.idAfter n)
  past : ∀ {n r}, (n, r) ∈ p.state.answers → ∃ i j, p.job? i = some j ∧ j.number = some n ∧
    (j.phase.registered? = some n ∨ ∃ ending, j.phase = done ending)
  apart : ∀ {n r id}, (n, r) ∈ p.state.answers → (id, n) ∉ p.state.pending
  taken : ∀ {i j r}, p.job? i = some j → j.phase = done (.answered r) →
    ∃ n, j.number = some n ∧ (n, r) ∈ p.state.answers

/-- The server counts as gone from the first step of the end of the reader. -/
structure Watched (p : Pool) : Prop where
  alive : p.state.alive = true ↔ p.reader = .running
  reading : p.reader = .lost → p.state.reading = true
  still : p.reader = .ended → p.state.reading = false

structure Sound (p : Pool) : Prop where
  numbered : Numbered p
  tied : Tied p
  settled : Settled p
  watched : Watched p

/-! ### At the start -/

theorem sound_start : Sound start where
  numbered := ⟨by simp, by simp, by simp, by simp, rfl⟩
  tied := ⟨by simp [start, State.start], by simp [start, State.start], List.nodup_nil⟩
  settled := ⟨by simp [start, State.start], by simp [start, State.start],
    by simp [start, State.start], by simp⟩
  watched := ⟨by simp [start, State.start], by simp [start], by simp [start]⟩

/-! ### Serials -/

variable {p p' : Pool} {i : Nat} {j : Job} {s : State} {phase : Phase} {written : Option Request}

/-- A request that takes a step keeps its serial, or takes the next one. -/
theorem Numbered.enter (h : Numbered p) (hjob : p.job? i = some j)
    (hmove : Phase.Move p.state j.phase s phase) :
    (s.issued = p.state.issued ∧ (j.enter phase).number = j.number) ∨
      (s.issued = p.state.issued + 1 ∧ j.number = none ∧
        (j.enter phase).number = some p.state.issued) := by
  rcases hmove.serial with ⟨hissued, hserial⟩ | ⟨hissued, hchecked, hnumbered⟩
  · refine .inl ⟨hissued, ?_⟩
    cases hnumber : j.number with
    | some n => simp [Job.enter, hnumber]
    | none =>
      have hnone : j.phase.serial? = none := by
        by_contra hne
        obtain ⟨n, hn⟩ := Option.ne_none_iff_exists'.1 hne
        cases hnumber.symm.trans (h.kept hjob hn)
      rcases hserial with hserial | hserial
      · simp [Job.enter, hnumber, hserial, hnone]
      · simp [Job.enter, hnumber, hserial]
  · obtain ⟨hnone, _⟩ := h.fresh hjob (by rw [hchecked]; rfl)
    refine .inr ⟨hissued, hnone, ?_⟩
    simp [Job.enter, hnone, hnumbered, Phase.serial?]

theorem Numbered.enter_kept (h : Numbered p) (hjob : p.job? i = some j)
    (hmove : Phase.Move p.state j.phase s phase) {n : Nat} (hn : phase.serial? = some n) :
    (j.enter phase).number = some n := by
  rcases hmove.serial with ⟨_, hserial | hserial⟩ | ⟨_, hchecked, rfl⟩
  · have hnumber := h.kept hjob (hserial ▸ hn)
    simp [Job.enter, hnumber]
  · cases hserial.symm.trans hn
  · obtain ⟨hnone, _⟩ := h.fresh hjob (by rw [hchecked]; rfl)
    simp [Job.enter, hnone, hn]

theorem Numbered.enter_fresh (h : Numbered p) (hjob : p.job? i = some j)
    (hmove : Phase.Move p.state j.phase s phase) (hfresh : phase.isFresh = true) :
    (j.enter phase).number = none := by
  obtain ⟨hnone, _⟩ := h.fresh hjob (hmove.isFresh hfresh)
  have hserial : phase.serial? = none := by cases phase <;> first | rfl | cases hfresh
  simp [Job.enter, hnone, hserial]

/-- The count of serials grows with the requests that have one. -/
theorem Numbered.counted_put (h : Numbered p) (hjob : p.job? i = some j)
    (hmove : Phase.Move p.state j.phase s phase) :
    s.issued = (p.put i s { j.enter phase with written }).jobs.countP (·.number.isSome) := by
  have hcounted := h.counted
  obtain ⟨hi, hget⟩ := List.getElem?_eq_some_iff.1 hjob
  show s.issued = (p.jobs.set i _).countP _
  rw [List.countP_set hi, hget]
  rcases h.enter hjob hmove with ⟨hissued, heq⟩ | ⟨hissued, hnone, heq⟩
  · rw [heq]
    split
    · next hsome =>
      have hpos : 0 < p.jobs.countP (·.number.isSome) :=
        List.countP_pos_iff.2 ⟨j, List.mem_of_getElem? hjob, hsome⟩
      omega
    · omega
  · simp only [heq, hnone, Option.isSome_none, Option.isSome_some, Bool.false_eq_true, if_false,
      if_true]
    omega

theorem Numbered.move (h : Numbered p) (hjob : p.job? i = some j)
    (hmove : Phase.Move p.state j.phase s phase)
    (hwritten : j.phase.writes? = none → written = j.written) :
    Numbered (p.put i s { j.enter phase with written }) := by
  have henter := h.enter hjob hmove
  have hnumber : ∀ n, (j.enter phase).number = some n → j.number = some n ∨ n = p.state.issued := by
    intro n hn
    rcases henter with ⟨_, heq⟩ | ⟨_, _, heq⟩
    · exact .inl (heq ▸ hn)
    · exact .inr (Option.some.inj (hn.symm.trans heq))
  constructor
  · intro k job n hk hn
    show n < s.issued
    rcases job?_of_put hk with ⟨rfl, rfl⟩ | ⟨_, hold⟩
    · rcases henter with ⟨hissued, heq⟩ | ⟨hissued, _, heq⟩
      · have hlt := h.issued hjob (heq ▸ hn)
        omega
      · obtain rfl := Option.some.inj (hn.symm.trans heq)
        omega
    · have hlt := h.issued hold hn
      omega
  · intro k k' job job' n hk hk' hn hn'
    rcases job?_of_put hk with ⟨rfl, rfl⟩ | ⟨_, hold⟩
    · rcases job?_of_put hk' with ⟨rfl, rfl⟩ | ⟨_, hold'⟩
      · rfl
      · rcases hnumber n hn with hn | rfl
        · exact h.single hjob hold' hn hn'
        · exact absurd (h.issued hold' hn') (Nat.lt_irrefl _)
    · rcases job?_of_put hk' with ⟨rfl, rfl⟩ | ⟨_, hold'⟩
      · rcases hnumber n hn' with hn' | rfl
        · exact h.single hold hjob hn hn'
        · exact absurd (h.issued hold hn) (Nat.lt_irrefl _)
      · exact h.single hold hold' hn hn'
  · intro k job n hk hn
    rcases job?_of_put hk with ⟨rfl, rfl⟩ | ⟨_, hold⟩
    · exact h.enter_kept hjob hmove hn
    · exact h.kept hold hn
  · intro k job hk hfresh
    rcases job?_of_put hk with ⟨rfl, rfl⟩ | ⟨_, hold⟩
    · have hold := hmove.isFresh hfresh
      have hwrites : j.phase.writes? = none := by
        generalize j.phase = old at hold
        cases old <;> first | rfl | cases hold
      exact ⟨h.enter_fresh hjob hmove hfresh,
        (hwritten hwrites).trans (h.fresh hjob hold).2⟩
    · exact h.fresh hold hfresh
  · exact h.counted_put hjob hmove

/-- The serials depend on the requests and on how many serials there are. -/
theorem Numbered.of_eq (h : Numbered p) (hjobs : p'.jobs = p.jobs)
    (hissued : p'.state.issued = p.state.issued) : Numbered p' := by
  have hjob : ∀ i, p'.job? i = p.job? i := fun i => congrArg (·[i]?) hjobs
  constructor
  · intro i j n hi hn
    rw [hissued]
    exact h.issued (hjob i ▸ hi) hn
  · intro i i' j j' n hi hi' hn hn'
    exact h.single (hjob i ▸ hi) (hjob i' ▸ hi') hn hn'
  · intro i j n hi hn
    exact h.kept (hjob i ▸ hi) hn
  · intro i j hi hfresh
    exact h.fresh (hjob i ▸ hi) hfresh
  · rw [hissued, hjobs]
    exact h.counted

theorem Numbered.step (h : Numbered p) (hstep : Step p p') : Numbered p' := by
  cases hstep with
  | idle => exact h
  | call method params =>
    constructor
    · intro i j n hi hn
      rcases job?_of_add hi with hold | ⟨_, rfl⟩
      · exact h.issued hold hn
      · cases hn
    · intro i i' j j' n hi hi' hn hn'
      rcases job?_of_add hi with hold | ⟨_, rfl⟩
      · rcases job?_of_add hi' with hold' | ⟨_, rfl⟩
        · exact h.single hold hold' hn hn'
        · cases hn'
      · cases hn
    · intro i j n hi hn
      rcases job?_of_add hi with hold | ⟨_, rfl⟩
      · exact h.kept hold hn
      · cases hn
    · intro i j hi hfresh
      rcases job?_of_add hi with hold | ⟨_, rfl⟩
      · exact h.fresh hold hfresh
      · exact ⟨rfl, rfl⟩
    · show p.state.issued = (p.jobs ++ [_]).countP _
      rw [List.countP_append, ← h.counted]
      rfl
  | move hjob hmove hwritten => exact h.move hjob hmove hwritten
  | route r => exact h.of_eq rfl (p.state.route_frame r).1
  | reply | halt | lose => exact h.of_eq rfl rfl
  | clear =>
    refine h.of_eq rfl ?_
    show p.state.clear.issued = p.state.issued
    unfold State.clear
    split <;> rfl

/-! ### Requests that wait -/

/-- An entry that a step leaves is still that of a request that waits. -/
theorem Sound.held_move (h : Sound p)
    (written : Option Request) (hjob : p.job? i = some j)
    (hmove : Phase.Move p.state j.phase s phase) {e : RequestId × Nat} (he : e ∈ p.state.pending)
    (he' : e ∈ s.pending) :
    ∃ k job, (p.put i s { j.enter phase with written }).job? k = some job ∧
      job.phase.registered? = some e.2 ∧ (p.reader = .ended → job.phase = .registered e.2) := by
  obtain ⟨k, job, hk, hregistered, hended⟩ := h.tied.held he
  by_cases hki : k = i
  · subst hki
    obtain rfl : j = job := Option.some.inj (hjob.symm.trans hk)
    refine ⟨k, _, job?_put_self hjob s _, ?_⟩
    show phase.registered? = some e.2 ∧ (p.reader = .ended → phase = .registered e.2)
    generalize j.phase = old at hmove hregistered hended
    cases hmove with
    | stay => exact ⟨hregistered, hended⟩
    | refuse | check | issue | register => cases hregistered
    | confirm n halive =>
      refine ⟨hregistered, fun hreader => ?_⟩
      have hrunning := h.watched.alive.1 halive
      rw [hreader] at hrunning
      cases hrunning
    | write n =>
      refine ⟨hregistered, fun hreader => ?_⟩
      cases hended hreader
    | withdraw hphase =>
      -- The entry has the identity that is withdrawn.
      obtain rfl := Option.some.inj (hphase.symm.trans hregistered)
      exact absurd (h.tied.named he) (State.mem_withdraw.1 he').2
    | take hanswer =>
      obtain rfl := Option.some.inj hregistered
      exact absurd he (h.settled.apart (State.mem_answers hanswer))
    | close hawaits =>
      obtain rfl := Option.some.inj hregistered
      exact absurd rfl (State.awaits_eq_false.1 hawaits e he)
  · exact ⟨k, job, job?_put_ne hki hk s _, hregistered, hended⟩

theorem Sound.tied_move (h : Sound p)
    (written : Option Request) (hjob : p.job? i = some j)
    (hmove : Phase.Move p.state j.phase s phase) :
    Tied (p.put i s { j.enter phase with written }) := by
  have hheld := fun {e} => h.held_move (e := e) written hjob hmove
  generalize hold : j.phase = old at hmove
  cases hmove with
  | stay | refuse | check | issue | confirm | write | take | close =>
    exact ⟨h.tied.named, fun he => hheld he he, h.tied.single⟩
  | register n =>
    refine ⟨fun he => ?_, fun he => ?_, State.nodup_register h.tied.single n⟩
    · rcases State.mem_register.1 he with rfl | ⟨he, _⟩
      · rfl
      · exact h.tied.named he
    · rcases State.mem_register.1 he with rfl | ⟨hpending, _⟩
      · exact ⟨i, _, job?_put_self hjob _ _, rfl, fun _ => rfl⟩
      · exact hheld hpending he
  | withdraw =>
    refine ⟨fun he => h.tied.named (State.mem_withdraw.1 he).1,
      fun he => hheld (State.mem_withdraw.1 he).1 he, State.nodup_withdraw h.tied.single _⟩

theorem Sound.tied_step (h : Sound p) (hstep : Step p p') : Tied p' := by
  cases hstep with
  | idle => exact h.tied
  | call method params =>
    refine ⟨h.tied.named, fun he => ?_, h.tied.single⟩
    obtain ⟨i, j, hi, hregistered, hended⟩ := h.tied.held he
    exact ⟨i, j, job?_add hi _, hregistered, hended⟩
  | move hjob hmove _ => exact h.tied_move _ hjob hmove
  | route r hreads =>
    rcases p.state.route_cases r with ⟨id, n, _, _, heq⟩ | ⟨heq, _⟩
    · rw [heq]
      refine ⟨fun he => ?_, fun he => ?_, State.nodup_withdraw h.tied.single id⟩
      · exact h.tied.named (State.mem_withdraw.1 he).1
      · exact h.tied.held (State.mem_withdraw.1 he).1
    · rw [heq]
      exact h.tied
  | reply r => exact ⟨h.tied.named, h.tied.held, h.tied.single⟩
  | halt => exact ⟨h.tied.named, h.tied.held, h.tied.single⟩
  | lose =>
    refine ⟨h.tied.named, fun he => ?_, h.tied.single⟩
    obtain ⟨i, j, hi, hregistered, _⟩ := h.tied.held he
    exact ⟨i, j, hi, hregistered, fun hreader => by cases hreader⟩
  | clear hlost =>
    have hclear : p.state.clear = { p.state with pending := [], reading := false } :=
      if_pos (h.watched.reading hlost)
    rw [hclear]
    exact ⟨fun he => absurd he List.not_mem_nil, fun he => absurd he List.not_mem_nil,
      List.nodup_nil⟩

/-! ### Answers -/

/-- A request that registers has no answer yet. -/
theorem Sound.not_answered (h : Sound p) {i n : Nat} {j : Job} (hjob : p.job? i = some j)
    (hphase : j.phase = .numbered n) (r : Response) : (n, r) ∉ p.state.answers := by
  intro hr
  obtain ⟨k, job, hk, hnumber, hpast⟩ := h.settled.past hr
  have hkept : j.number = some n := h.numbered.kept hjob (by rw [hphase]; rfl)
  obtain rfl := h.numbered.single hjob hk hkept hnumber
  obtain rfl : j = job := Option.some.inj (hjob.symm.trans hk)
  rw [hphase] at hpast
  rcases hpast with hregistered | ⟨ending, hdone⟩
  · cases hregistered
  · cases hdone

theorem Sound.past_move (h : Sound p)
    (written : Option Request) (hjob : p.job? i = some j)
    (hmove : Phase.Move p.state j.phase s phase) {n : Nat} {r : Response}
    (hr : (n, r) ∈ p.state.answers) :
    ∃ k job, (p.put i s { j.enter phase with written }).job? k = some job ∧
      job.number = some n ∧
      (job.phase.registered? = some n ∨ ∃ ending, job.phase = done ending) := by
  obtain ⟨k, job, hk, hnumber, hpast⟩ := h.settled.past hr
  by_cases hki : k = i
  · subst hki
    obtain rfl : j = job := Option.some.inj (hjob.symm.trans hk)
    refine ⟨k, _, job?_put_self hjob s _, ?_, ?_⟩
    · show (j.enter phase).number = some n
      simp [Job.enter, hnumber]
    · show phase.registered? = some n ∨ ∃ ending, phase = done ending
      rcases hpast with hregistered | ⟨ending, hdone⟩
      · exact hmove.registered hregistered
      · rw [hdone] at hmove
        exact .inr ⟨ending, hmove.done.2⟩
  · exact ⟨k, job, job?_put_ne hki hk s _, hnumber, hpast⟩

theorem Sound.settled_move (h : Sound p)
    (written : Option Request) (hjob : p.job? i = some j)
    (hmove : Phase.Move p.state j.phase s phase) :
    Settled (p.put i s { j.enter phase with written }) := by
  have hanswers : s.answers = p.state.answers := hmove.answers
  constructor
  · intro n r hr
    exact h.settled.named (hanswers ▸ hr)
  · intro n r hr
    exact h.past_move written hjob hmove (hanswers ▸ hr)
  · intro n r id hr hpending
    have hr : (n, r) ∈ p.state.answers := hanswers ▸ hr
    have hpending : (id, n) ∈ s.pending := hpending
    generalize hold : j.phase = old at hmove
    cases hmove with
    | stay | refuse | check | issue | confirm | write | take | close =>
      exact h.settled.apart hr hpending
    | register m =>
      rcases State.mem_register.1 hpending with heq | ⟨hpending, _⟩
      · obtain rfl : n = m := congrArg Prod.snd heq
        exact h.not_answered hjob hold r hr
      · exact h.settled.apart hr hpending
    | withdraw => exact h.settled.apart hr (State.mem_withdraw.1 hpending).1
  · intro k job r hk hdone
    show ∃ n, job.number = some n ∧ (n, r) ∈ s.answers
    rw [hanswers]
    rcases job?_of_put hk with ⟨rfl, rfl⟩ | ⟨_, hk⟩
    · show ∃ n, (j.enter phase).number = some n ∧ (n, r) ∈ p.state.answers
      have hdone : phase = done (.answered r) := hdone
      subst hdone
      generalize hold : j.phase = old at hmove
      cases hmove with
      | stay =>
        obtain ⟨n, hnumber, hr⟩ := h.settled.taken hjob hold
        exact ⟨n, by simp [Job.enter, hnumber], hr⟩
      | withdraw _ hending => exact absurd rfl (hending r)
      | take hanswer =>
        have hnumber := h.numbered.kept hjob (by rw [hold]; rfl)
        exact ⟨_, by simp [Job.enter, hnumber], State.mem_answers hanswer⟩
    · exact h.settled.taken hk hdone

theorem Sound.settled_route (h : Sound p) (r : Response) :
    Settled { p with state := p.state.route r } := by
  rcases p.state.route_cases r with ⟨id, n, hid, hpending, heq⟩ | ⟨heq, _⟩
  · rw [heq]
    obtain rfl : id = State.idAfter n := h.tied.named hpending
    constructor
    · intro m r' hr'
      rcases List.mem_cons.1 hr' with hhead | hr'
      · cases hhead
        exact hid
      · exact h.settled.named hr'
    · intro m r' hr'
      rcases List.mem_cons.1 hr' with hhead | hr'
      · cases hhead
        obtain ⟨i, j, hi, hregistered, _⟩ := h.tied.held hpending
        exact ⟨i, j, hi, h.numbered.kept hi (Phase.serial?_of_registered? hregistered),
          .inl hregistered⟩
      · exact h.settled.past hr'
    · intro m r' id hr' hwaits
      obtain ⟨hwaits, hne⟩ := State.mem_withdraw.1 hwaits
      rcases List.mem_cons.1 hr' with hhead | hr'
      · cases hhead
        exact hne (h.tied.named hwaits)
      · exact h.settled.apart hr' hwaits
    · intro i j r' hi hdone
      obtain ⟨m, hnumber, hr'⟩ := h.settled.taken hi hdone
      exact ⟨m, hnumber, List.mem_cons_of_mem _ hr'⟩
  · rw [heq]
    exact h.settled

theorem Sound.settled_step (h : Sound p) (hstep : Step p p') : Settled p' := by
  have hsame := h.settled
  cases hstep with
  | idle => exact hsame
  | call method params =>
    refine ⟨hsame.named, fun hr => ?_, hsame.apart, fun hi hdone => ?_⟩
    · obtain ⟨i, j, hi, hpast⟩ := hsame.past hr
      exact ⟨i, j, job?_add hi _, hpast⟩
    · rcases job?_of_add hi with hold | ⟨_, rfl⟩
      · exact hsame.taken hold hdone
      · cases hdone
  | move hjob hmove _ => exact h.settled_move _ hjob hmove
  | route r => exact h.settled_route r
  | reply | halt | lose => exact ⟨hsame.named, hsame.past, hsame.apart, hsame.taken⟩
  | clear =>
    unfold State.clear
    split
    · exact ⟨hsame.named, hsame.past, fun _ hpending => absurd hpending List.not_mem_nil,
        hsame.taken⟩
    · exact ⟨hsame.named, hsame.past, hsame.apart, hsame.taken⟩

/-! ### The reader -/

theorem Watched.step (h : Watched p) (hstep : Step p p') : Watched p' := by
  cases hstep with
  | idle => exact h
  | call => exact ⟨h.alive, h.reading, h.still⟩
  | move hjob hmove _ =>
    refine ⟨?_, fun hlost => ?_, fun hended => ?_⟩
    · simpa only [put, hmove.alive] using h.alive
    · exact hmove.reading.trans (h.reading hlost)
    · exact hmove.reading.trans (h.still hended)
  | route r =>
    obtain ⟨_, halive, hreading⟩ := p.state.route_frame r
    refine ⟨?_, fun hlost => ?_, fun hended => ?_⟩
    · rw [halive]
      exact h.alive
    · exact hreading.trans (h.reading hlost)
    · exact hreading.trans (h.still hended)
  | reply => exact ⟨h.alive, h.reading, h.still⟩
  | halt hreads =>
    obtain ⟨hrunning, _⟩ := reads_eq_true.1 hreads
    exact ⟨h.alive, fun hlost => (by cases hrunning.symm.trans hlost), fun _ => rfl⟩
  | lose hreads =>
    exact ⟨by simp, fun _ => (reads_eq_true.1 hreads).2, fun hended => by cases hended⟩
  | clear hlost =>
    have hdead : p.state.alive ≠ true := fun halive => by
      cases (h.alive.1 halive).symm.trans hlost
    have hclear : p.state.clear = { p.state with pending := [], reading := false } :=
      if_pos (h.reading hlost)
    rw [hclear]
    exact ⟨by simpa using hdead, fun hlost => (by cases hlost), fun _ => rfl⟩

theorem Sound.step (h : Sound p) (hstep : Step p p') : Sound p' :=
  ⟨h.numbered.step hstep, h.tied_step hstep, h.settled_step hstep, h.watched.step hstep⟩

/-- The invariant holds after every run. -/
theorem sound_run (events : List Event) : Sound (run events) :=
  @run_mono Sound (fun _ _ h hstep => h.step hstep) [] sound_start events

/-- No more serials are issued than there are requests. -/
theorem issued_le_length (events : List Event) :
    (run events).state.issued ≤ (run events).jobs.length := by
  rw [(sound_run events).numbered.counted]
  exact List.countP_le_length

/-! ### What the invariant says about requests that wait -/

theorem Sound.number_of_registered (h : Sound p) {i n : Nat} {j : Job} (hjob : p.job? i = some j)
    (hregistered : j.phase.registered? = some n) : j.number = some n :=
  h.numbered.kept hjob (Phase.serial?_of_registered? hregistered)

theorem Sound.issued_of_registered (h : Sound p) {i n : Nat} {j : Job} (hjob : p.job? i = some j)
    (hregistered : j.phase.registered? = some n) : n < p.state.issued :=
  h.numbered.issued hjob (h.number_of_registered hjob hregistered)

theorem Sound.eq_of_registered (h : Sound p) {i i' n : Nat} {j j' : Job} (hjob : p.job? i = some j)
    (hjob' : p.job? i' = some j') (hregistered : j.phase.registered? = some n)
    (hregistered' : j'.phase.registered? = some n) : i = i' :=
  h.numbered.single hjob hjob' (h.number_of_registered hjob hregistered)
    (h.number_of_registered hjob' hregistered')

theorem Sound.eq_of_mem_pending (h : Sound p) {id : RequestId} {n m : Nat}
    (hn : (id, n) ∈ p.state.pending) (hm : (id, m) ∈ p.state.pending) : n = m :=
  congrArg Prod.snd (List.inj_on_of_nodup_map h.tied.single hn hm rfl)

/-- As long as identities differ, an entry under the identity of a serial is one of the serial. -/
theorem Sound.serial_of_named (h : Sound p) (hissued : p.state.issued ≤ 2 ^ 64)
    {e : RequestId × Nat} (he : e ∈ p.state.pending) {n : Nat} (hn : n < p.state.issued)
    (hid : e.1 = State.idAfter n) : e.2 = n := by
  obtain ⟨i, j, hjob, hregistered, _⟩ := h.tied.held he
  have hlt := h.issued_of_registered hjob hregistered
  exact State.idAfter_inj (by omega) (by omega) ((h.tied.named he).symm.trans hid)

end Pool

end CallHierarchy.Client
