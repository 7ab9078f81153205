import CallHierarchy.Wire.Message

/-! What the requests of a client share with its reader: the requests that wait for an answer, the
answers that have arrived, and whether the server is there. The reader takes messages off the
server's output as it arrives. It hands each response to the request that waits for it, and it
answers each request of the server's. -/

namespace CallHierarchy.Client

structure State where
  /-- How many requests have taken an identity. -/
  issued : Nat
  /-- The requests that wait for an answer: the identity of each, and its serial, which names the
  channel on which it waits. -/
  pending : List (RequestId × Nat)
  /-- The responses that have been sent on the channels of requests. -/
  answers : List (Nat × Response)
  /-- Whether the server is held to be there. -/
  alive : Bool
  /-- Whether the reader still reads. -/
  reading : Bool
  /-- The bytes that have not yet made a whole frame. -/
  unread : List UInt8

namespace State

/-- A client that has just started its server. -/
def start : State := ⟨0, [], [], true, true, []⟩

/-- The identity of the request after `n` others: the request with the serial `n`. -/
def idAfter (n : Nat) : RequestId := .number (Int64.ofNat (n + 1))

/-- Takes a serial, and the identity with it, for a request. -/
def issue (s : State) : Nat × State := (s.issued, { s with issued := s.issued + 1 })

/-- Lets no request wait under an identity. -/
def withdraw (s : State) (id : RequestId) : State :=
  { s with pending := s.pending.filter (·.1 ≠ id) }

/-- Lets the request with a serial wait for its answer. Where another waits under the same
identity, it waits no longer. -/
def register (s : State) (serial : Nat) : State :=
  { s with pending := (idAfter serial, serial) :: (s.withdraw (idAfter serial)).pending }

/-- Whether an answer to the request with a serial may still come. -/
def awaits (s : State) (serial : Nat) : Bool := s.pending.any (·.2 == serial)

/-- The answer to the request with a serial, if it has arrived. -/
def answer? (s : State) (serial : Nat) : Option Response := s.answers.lookup serial

/-- Hands a response to the request that waits for it. Nothing changes if none does. -/
def route (s : State) (r : Response) : State :=
  match r.id with
  | none => s
  | some id =>
    match s.pending.lookup id with
    | none => s
    | some serial => { s.withdraw id with answers := (serial, r) :: s.answers }

/-- Takes in a message. A request is answered at once. -/
def receive (s : State) : Message → State × Option Response
  | .response r => (s.route r, none)
  | .request r => (s, some (.methodNotFound r.id r.method))
  | .notification _ => (s, none)

/-- Takes in the body of a frame. A body that is no message is passed over. -/
def receiveBody (s : State) (body : String) : State × Option Response :=
  match Message.parse body with
  | .ok message => s.receive message
  | .error _ => (s, none)

/-- Takes in bodies one after the other, and yields the answers to the requests among them. -/
def receiveBodies (s : State) : List String → State × List Response
  | [] => (s, [])
  | body :: rest =>
    let (s, reply) := s.receiveBody body
    let (s, replies) := s.receiveBodies rest
    (s, reply.toList ++ replies)

/-- Reads bytes of the server's output. A length that overflows ends the reader for good. -/
def read (s : State) (bytes : List UInt8) : State × List Response :=
  if s.reading then
    let d := Frame.drain (s.unread ++ bytes)
    let s := { s with unread := d.kept, reading := d.fault ≠ some Frame.Fault.overflow }
    s.receiveBodies d.bodies
  else (s, [])

/-- The first step at the end of the server's output: the server counts as gone. -/
def lose (s : State) : State := if s.reading then { s with alive := false } else s

/-- The second step: no request waits any longer, and nothing more is read. -/
def clear (s : State) : State := if s.reading then { s with pending := [], reading := false } else s

theorem mem_withdraw {s : State} {id : RequestId} {e : RequestId × Nat} :
    e ∈ (s.withdraw id).pending ↔ e ∈ s.pending ∧ e.1 ≠ id := by
  simp [withdraw]

theorem mem_register {s : State} {n : Nat} {e : RequestId × Nat} :
    e ∈ (s.register n).pending ↔ e = (idAfter n, n) ∨ e ∈ s.pending ∧ e.1 ≠ idAfter n := by
  rw [register, List.mem_cons, mem_withdraw]

theorem nodup_withdraw {s : State} (h : (s.pending.map Prod.fst).Nodup) (id : RequestId) :
    ((s.withdraw id).pending.map Prod.fst).Nodup :=
  h.sublist (List.filter_sublist.map _)

theorem nodup_register {s : State} (h : (s.pending.map Prod.fst).Nodup) (n : Nat) :
    ((s.register n).pending.map Prod.fst).Nodup := by
  refine List.nodup_cons.2 ⟨fun hm => ?_, nodup_withdraw h _⟩
  obtain ⟨e, he, hid⟩ := List.mem_map.1 hm
  exact (mem_withdraw.1 he).2 hid

theorem awaits_eq_false {s : State} {n : Nat} :
    s.awaits n = false ↔ ∀ e ∈ s.pending, e.2 ≠ n := by
  simp [awaits]

theorem mem_answers {s : State} {n : Nat} {r : Response} (h : s.answer? n = some r) :
    (n, r) ∈ s.answers := by
  obtain ⟨before, after, heq, _⟩ := List.lookup_eq_some_iff.1 h
  rw [heq]
  exact List.mem_append_right before List.mem_cons_self

/-- A response goes to a request that waits under its identity, or it changes nothing. -/
theorem route_cases (s : State) (r : Response) :
    (∃ id n, r.id = some id ∧ (id, n) ∈ s.pending ∧
      s.route r = { s.withdraw id with answers := (n, r) :: s.answers }) ∨
    s.route r = s ∧ ∀ e ∈ s.pending, r.id ≠ some e.1 := by
  unfold route
  split
  · next hid =>
    refine .inr ⟨rfl, fun e _ heq => ?_⟩
    cases hid.symm.trans heq
  · next id hid =>
    split
    · next hnone =>
      refine .inr ⟨rfl, fun e he heq => ?_⟩
      obtain rfl : id = e.1 := Option.some.inj (hid.symm.trans heq)
      exact (bne_iff_ne.1 (List.lookup_eq_none_iff.1 hnone e he)) rfl
    · next n hn =>
      obtain ⟨before, after, heq, _⟩ := List.lookup_eq_some_iff.1 hn
      have hmem : (id, n) ∈ s.pending := heq ▸ List.mem_append_right before List.mem_cons_self
      exact .inl ⟨id, n, hid, hmem, rfl⟩

/-- A response changes neither how many requests have taken an identity, nor whether the server is
held to be there, nor whether the reader reads. -/
theorem route_frame (s : State) (r : Response) :
    (s.route r).issued = s.issued ∧ (s.route r).alive = s.alive ∧
      (s.route r).reading = s.reading := by
  rcases s.route_cases r with ⟨id, n, _, _, heq⟩ | ⟨heq, _⟩
  · rw [heq]
    exact ⟨rfl, rfl, rfl⟩
  · rw [heq]
    exact ⟨rfl, rfl, rfl⟩

theorem receiveBodies_append (s : State) (bodies more : List String) :
    s.receiveBodies (bodies ++ more) =
      (((s.receiveBodies bodies).1.receiveBodies more).1,
        (s.receiveBodies bodies).2 ++ ((s.receiveBodies bodies).1.receiveBodies more).2) := by
  induction bodies generalizing s with
  | nil => rfl
  | cons body bodies ih => simp [receiveBodies, ih]

/-- The bytes that have not made a frame, and whether more are read, play no part in what a message
does. -/
theorem receiveBody_with (s : State) (unread : List UInt8) (reading : Bool) (body : String) :
    ({ s with unread, reading } : State).receiveBody body =
      ({ (s.receiveBody body).1 with unread, reading }, (s.receiveBody body).2) := by
  unfold receiveBody
  split
  · next message _ =>
    cases message with
    | request r => rfl
    | notification n => rfl
    | response r =>
      simp only [receive, route]
      split
      · rfl
      · split <;> rfl
  · rfl

theorem receiveBodies_with (s : State) (unread : List UInt8) (reading : Bool)
    (bodies : List String) :
    ({ s with unread, reading } : State).receiveBodies bodies =
      ({ (s.receiveBodies bodies).1 with unread, reading }, (s.receiveBodies bodies).2) := by
  induction bodies generalizing s with
  | nil => rfl
  | cons body bodies ih => simp only [receiveBodies, receiveBody_with, ih]

theorem receiveBody_reading (s : State) (body : String) :
    (s.receiveBody body).1.reading = s.reading :=
  congrArg (·.1.reading) (s.receiveBody_with s.unread s.reading body)

theorem receiveBodies_reading (s : State) (bodies : List String) :
    (s.receiveBodies bodies).1.reading = s.reading :=
  congrArg (·.1.reading) (s.receiveBodies_with s.unread s.reading bodies)

theorem receiveBodies_unread (s : State) (unread : List UInt8) (bodies : List String) :
    ({ s with unread } : State).receiveBodies bodies =
      ({ (s.receiveBodies bodies).1 with unread }, (s.receiveBodies bodies).2) := by
  refine (s.receiveBodies_with unread s.reading bodies).trans ?_
  rw [← s.receiveBodies_reading bodies]

/-- A read does what the bodies do whose frames it completes. -/
theorem read_eq_receiveBodies {s : State} (h : s.reading = true) (bytes : List UInt8) :
    s.read bytes =
      ({ (s.receiveBodies (Frame.drain (s.unread ++ bytes)).bodies).1 with
          unread := (Frame.drain (s.unread ++ bytes)).kept
          reading := (Frame.drain (s.unread ++ bytes)).fault ≠ some Frame.Fault.overflow },
        (s.receiveBodies (Frame.drain (s.unread ++ bytes)).bodies).2) := by
  rw [read, if_pos h]
  exact s.receiveBodies_with _ _ _

end State

end CallHierarchy.Client
