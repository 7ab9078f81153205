import CallHierarchy.Client.Phase

/-! A client with any number of requests under way, beside its reader. Callers, requests, timeouts
and the reader take their steps one at a time, and in any order. -/

namespace CallHierarchy.Client

/-- A request: what its caller asked for, and how far it has come. -/
structure Job where
  method : String
  params : Json
  phase : Phase
  /-- The serial that it has taken. It keeps it when it ends. -/
  number : Option Nat
  /-- What it has written, be it in part. -/
  written : Option Request

namespace Job

/-- A request that has just been made. -/
def start (method : String) (params : Json) : Job := ⟨method, params, .start, none, none⟩

/-- The request in its next phase. -/
def enter (j : Job) (phase : Phase) : Job :=
  { j with phase, number := j.number.or phase.serial? }

/-- The message that the next step of the request writes. -/
def message? (j : Job) : Option Request :=
  j.phase.writes?.map fun id => ⟨rpcVersion, id, j.method, j.params⟩

/-- The next step of a request. -/
def advance (writable : Bool) (s : State) (j : Job) : State × Job :=
  let (s, phase) := j.phase.advance writable s
  (s, { j.enter phase with written := j.message?.or j.written })

/-- The step of a request whose time has run out. -/
def expire (s : State) (j : Job) : State × Job :=
  let (s, phase) := j.phase.expire s
  (s, j.enter phase)

end Job

/-- How far the reader has come. It reads, and at the end of the server's output it takes the two
steps that end it. -/
inductive Reader where
  | running
  /-- The server counts as gone. -/
  | lost
  /-- No request waits any longer that waited at the second step. -/
  | ended
  deriving DecidableEq

/-- What may happen next. -/
inductive Event where
  | call (method : String) (params : Json)
  | advance (i : Nat) (writable : Bool)
  | expire (i : Nat)
  /-- The body of a frame arrives. -/
  | body (text : String)
  /-- A length overflows. -/
  | halt
  | lose
  | clear

/-- A client with its requests, in the order in which they were made. -/
structure Pool where
  state : State
  jobs : List Job
  reader : Reader
  /-- The answers to requests of the server's. -/
  replies : List Response

namespace Pool

/-- A client that has just started its server. -/
def start : Pool := ⟨.start, [], .running, []⟩

/-- The request with an index. -/
def job? (p : Pool) (i : Nat) : Option Job := p.jobs[i]?

/-- One more request. -/
def add (p : Pool) (j : Job) : Pool := { p with jobs := p.jobs ++ [j] }

/-- Another state, and another request in place of the one with an index. -/
def put (p : Pool) (i : Nat) (s : State) (j : Job) : Pool :=
  { p with state := s, jobs := p.jobs.set i j }

/-- The request with an index takes a step. -/
def act (p : Pool) (i : Nat) (move : State → Job → State × Job) : Pool :=
  match p.job? i with
  | none => p
  | some j => p.put i (move p.state j).1 (move p.state j).2

/-- Whether the reader still takes messages off the server's output. -/
def reads (p : Pool) : Bool := p.reader = .running && p.state.reading

/-- Lets an event happen. Nothing changes where it cannot happen. -/
def step (p : Pool) : Event → Pool
  | .call method params => p.add (.start method params)
  | .advance i writable => p.act i (Job.advance writable)
  | .expire i => p.act i Job.expire
  | .body text =>
    if p.reads then
      let (state, reply) := p.state.receiveBody text
      { p with state, replies := p.replies ++ reply.toList }
    else p
  | .halt => if p.reads then { p with state := { p.state with reading := false } } else p
  | .lose => if p.reads then { p with state := p.state.lose, reader := .lost } else p
  | .clear => if p.reader = .lost then { p with state := p.state.clear, reader := .ended } else p

/-- A client after events, in order. -/
def run (events : List Event) : Pool := events.foldl step start

/-! ### The requests after a change -/

@[simp] theorem job?_start (i : Nat) : start.job? i = none := rfl

theorem job?_of_add {p : Pool} {i : Nat} {job j : Job} (h : (p.add job).job? i = some j) :
    p.job? i = some j ∨ i = p.jobs.length ∧ j = job := by
  simp only [job?, add] at h ⊢
  rcases Nat.lt_trichotomy i p.jobs.length with hi | hi | hi
  · exact .inl (by rwa [List.getElem?_append_left hi] at h)
  · subst hi
    rw [List.getElem?_concat_length] at h
    exact .inr ⟨rfl, (Option.some.inj h).symm⟩
  · have hlength : (p.jobs ++ [job]).length ≤ i := by
      rw [List.length_append, List.length_singleton]
      omega
    rw [List.getElem?_eq_none hlength] at h
    cases h

theorem job?_add {p : Pool} {i : Nat} {j : Job} (h : p.job? i = some j) (job : Job) :
    (p.add job).job? i = some j := by
  obtain ⟨hi, _⟩ := List.getElem?_eq_some_iff.1 h
  exact (List.getElem?_append_left hi).trans h

theorem job?_of_put {p : Pool} {i k : Nat} {s : State} {job j : Job}
    (h : (p.put i s job).job? k = some j) : k = i ∧ j = job ∨ k ≠ i ∧ p.job? k = some j := by
  simp only [job?, put] at h ⊢
  by_cases hk : k = i
  · subst hk
    obtain ⟨hlength, hj⟩ := List.getElem?_eq_some_iff.1 h
    rw [List.getElem_set_self] at hj
    exact .inl ⟨rfl, hj.symm⟩
  · rw [List.getElem?_set_ne (Ne.symm hk)] at h
    exact .inr ⟨hk, h⟩

theorem job?_put_self {p : Pool} {i : Nat} {j : Job} (h : p.job? i = some j) (s : State)
    (job : Job) : (p.put i s job).job? i = some job := by
  obtain ⟨hi, _⟩ := List.getElem?_eq_some_iff.1 h
  exact List.getElem?_set_self hi

theorem job?_put_ne {p : Pool} {i k : Nat} {j : Job} (hk : k ≠ i) (h : p.job? k = some j)
    (s : State) (job : Job) : (p.put i s job).job? k = some j :=
  (List.getElem?_set_ne (Ne.symm hk)).trans h

/-! ### Runs -/

theorem run_append (events more : List Event) :
    run (events ++ more) = more.foldl step (run events) :=
  List.foldl_append

theorem run_concat (events : List Event) (e : Event) : run (events ++ [e]) = (run events).step e :=
  run_append events [e]

end Pool

end CallHierarchy.Client
