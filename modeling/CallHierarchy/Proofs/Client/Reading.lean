import CallHierarchy.Client.State
import CallHierarchy.Proofs.Wire.Extension

/-! The reader of a client and the cuts in the byte stream that it reads. A stream comes in reads of
any sizes. The bodies that the reader takes off, the first fault that it meets, and the bytes that
it keeps depend on the stream alone (`drainReads_congr`). -/

namespace CallHierarchy

/-- Takes in a stream read by read. Each read goes behind what is left of the ones before it, and
the buffer is drained. The first fault ends the reading. -/
def Frame.drainReads (buffer : List UInt8) : List (List UInt8) → Frame.Drain
  | [] => ⟨[], none, buffer⟩
  | bytes :: reads =>
    let d := drain (buffer ++ bytes)
    if d.fault.isSome then d
    else
      let later := drainReads d.rest reads
      { later with bodies := d.bodies ++ later.bodies }

/-- Reads a stream of the server's output read by read. -/
def Client.State.readAll (s : State) : List (List UInt8) → State × List Response
  | [] => (s, [])
  | bytes :: reads =>
    let (s, replies) := s.read bytes
    let (s, more) := s.readAll reads
    (s, replies ++ more)

namespace Frame

theorem Drain.kept_of_none {d : Drain} (h : d.fault = none) : d.kept = d.rest := by
  simp [Drain.kept, h]

/-- Reading a stream in pieces comes to draining it as a whole. -/
theorem drainReads_eq (reads : List (List UInt8)) {buffer : List UInt8}
    (h : front buffer = .incomplete) :
    (drainReads buffer reads).bodies = (drain (buffer ++ reads.flatten)).bodies ∧
      (drainReads buffer reads).fault = (drain (buffer ++ reads.flatten)).fault ∧
      (drainReads buffer reads).kept = (drain (buffer ++ reads.flatten)).kept := by
  induction reads generalizing buffer with
  | nil => simp [drainReads, drain_of_incomplete h]
  | cons bytes reads ih =>
    rw [List.flatten_cons, ← List.append_assoc, drainReads]
    by_cases hfault : (drain (buffer ++ bytes)).fault = none
    · obtain ⟨hbodies, hlater, hkept⟩ := ih (front_drain hfault)
      rw [drain_append _ hfault]
      simp only [hfault, Option.isSome_none, Bool.false_eq_true, if_false]
      exact ⟨by rw [hbodies], hlater, hkept⟩
    · rw [drain_append_of_fault _ hfault]
      simp [Option.isSome_iff_ne_none.2 hfault, Drain.kept]

theorem front_nil : front [] = .incomplete := rfl

end Frame

namespace Client.State

theorem read_eq {s : State} {bytes : List UInt8} (hr : s.reading = true)
    (h : (Frame.drain (s.unread ++ bytes)).fault = none) :
    s.read bytes =
      ({ (s.receiveBodies (Frame.drain (s.unread ++ bytes)).bodies).1 with
          unread := (Frame.drain (s.unread ++ bytes)).rest },
        (s.receiveBodies (Frame.drain (s.unread ++ bytes)).bodies).2) := by
  rw [← receiveBodies_unread]
  simp [read, hr, h, Frame.Drain.kept]

theorem fault_of_append {buffer more : List UInt8}
    (h : (Frame.drain (buffer ++ more)).fault = none) : (Frame.drain buffer).fault = none := by
  by_contra hne
  rw [Frame.drain_append_of_fault _ hne] at h
  exact hne h

/-- A read without a fault leaves the reader with what is left of its bytes. -/
theorem read_spec {s : State} {bytes : List UInt8} (hr : s.reading = true)
    (h : (Frame.drain (s.unread ++ bytes)).fault = none) :
    (s.read bytes).1.reading = true ∧
      (s.read bytes).1.unread = (Frame.drain (s.unread ++ bytes)).rest := by
  rw [read_eq hr h]
  exact ⟨(receiveBodies_reading s _).trans hr, rfl⟩

/-- A read may be cut in two behind bytes without a fault, whatever comes after them. -/
theorem read_append {s : State} {bytes : List UInt8} (hr : s.reading = true)
    (h : (Frame.drain (s.unread ++ bytes)).fault = none) (more : List UInt8) :
    s.read (bytes ++ more) =
      (((s.read bytes).1.read more).1, (s.read bytes).2 ++ ((s.read bytes).1.read more).2) := by
  obtain ⟨hreading, hunread⟩ := read_spec hr h
  have hdrain := Frame.drain_append more h
  have hkept : (Frame.drain (s.unread ++ bytes ++ more)).kept =
      (Frame.drain ((Frame.drain (s.unread ++ bytes)).rest ++ more)).kept := by
    rw [hdrain]
    rfl
  rw [read_eq_receiveBodies hr, ← List.append_assoc, hkept, read_eq_receiveBodies hreading, hunread,
    read_eq hr h]
  simp only [receiveBodies_unread, hdrain, receiveBodies_append]

theorem readAll_cons (s : State) (bytes : List UInt8) (reads : List (List UInt8)) :
    s.readAll (bytes :: reads) =
      (((s.read bytes).1.readAll reads).1,
        (s.read bytes).2 ++ ((s.read bytes).1.readAll reads).2) := rfl

theorem readAll_append (s : State) (reads later : List (List UInt8)) :
    s.readAll (reads ++ later) =
      (((s.readAll reads).1.readAll later).1,
        (s.readAll reads).2 ++ ((s.readAll reads).1.readAll later).2) := by
  induction reads generalizing s with
  | nil => rfl
  | cons bytes reads ih => simp only [List.cons_append, readAll_cons, ih, List.append_assoc]

/-- As long as there is no fault, a client that reads a stream in pieces does what it would do if
the stream came at once. -/
theorem readAll_eq_read (reads : List (List UInt8)) {s : State} (hr : s.reading = true)
    (hu : Frame.front s.unread = .incomplete)
    (h : (Frame.drain (s.unread ++ reads.flatten)).fault = none) :
    s.readAll reads = s.read reads.flatten := by
  induction reads generalizing s with
  | nil =>
    have hd := Frame.drain_of_incomplete hu
    rw [List.flatten_nil, read_eq hr (by simp [hd])]
    simp [readAll, receiveBodies, hd]
  | cons bytes reads ih =>
    rw [List.flatten_cons, ← List.append_assoc] at h
    have hfirst := fault_of_append h
    obtain ⟨hreading, hunread⟩ := read_spec hr hfirst
    have hlater := ih hreading (by rw [hunread]; exact Frame.front_drain hfirst) (by
      rw [Frame.drain_append _ hfirst] at h
      rwa [hunread])
    rw [readAll_cons, hlater, List.flatten_cons, read_append hr hfirst]

end Client.State

/-- However a stream is cut into reads, the reader takes off the same bodies and meets the same
fault first, or none. Without a fault it keeps the same bytes, those behind the last frame of the
stream, and the client comes to the same state with the same replies. -/
theorem Frame.drainReads_congr {reads reads' : List (List UInt8)}
    (h : reads.flatten = reads'.flatten) :
    (drainReads [] reads).bodies = (drainReads [] reads').bodies ∧
      (drainReads [] reads).fault = (drainReads [] reads').fault ∧
      ((drainReads [] reads).fault = none →
        (drainReads [] reads).rest = (drainReads [] reads').rest ∧
        (∃ frames, List.Forall₂ (fun frame text => front frame = .body text []) frames
            (drainReads [] reads).bodies ∧
          reads.flatten = frames.flatten ++ (drainReads [] reads).rest) ∧
        ∀ s : Client.State, s.reading = true → s.unread = [] →
          s.readAll reads = s.readAll reads') := by
  obtain ⟨hbodies, hfault, hkept⟩ := drainReads_eq reads front_nil
  obtain ⟨hbodies', hfault', hkept'⟩ := drainReads_eq reads' front_nil
  rw [List.nil_append] at hbodies hfault hkept hbodies' hfault' hkept'
  rw [← h] at hbodies' hfault' hkept'
  refine ⟨hbodies.trans hbodies'.symm, hfault.trans hfault'.symm, fun hnone => ?_⟩
  have hdrain : (drain reads.flatten).fault = none := hfault ▸ hnone
  rw [Drain.kept_of_none hnone, Drain.kept_of_none hdrain] at hkept
  rw [Drain.kept_of_none (hfault'.trans hdrain), Drain.kept_of_none hdrain] at hkept'
  refine ⟨hkept.trans hkept'.symm, ?_, fun s hr hu => ?_⟩
  · rw [hbodies, hkept]
    exact exists_frames hdrain
  · have hfront : front s.unread = .incomplete := by rw [hu]; exact front_nil
    rw [Client.State.readAll_eq_read reads hr hfront (by rwa [hu, List.nil_append]),
      Client.State.readAll_eq_read reads' hr hfront (by rwa [hu, List.nil_append, ← h]), h]

/-- The cut goes through a character of two bytes. -/
theorem Frame.drainReads_congr_cut :
    let frame := encode "é"
    [frame.take 22, frame.drop 22].flatten = [frame].flatten ∧
      (drainReads [] [frame.take 22, frame.drop 22]).bodies = (drainReads [] [frame]).bodies ∧
      (drainReads [] [frame.take 22, frame.drop 22]).fault = (drainReads [] [frame]).fault := by
  intro frame
  have h : [frame.take 22, frame.drop 22].flatten = [frame].flatten := by
    simp [List.take_append_drop]
  exact ⟨h, (drainReads_congr h).1, (drainReads_congr h).2.1⟩

end CallHierarchy
