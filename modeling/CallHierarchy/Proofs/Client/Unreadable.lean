import CallHierarchy.Proofs.Client.Reading
import CallHierarchy.Proofs.Wire.Accounting
import CallHierarchy.Proofs.Wire.RoundTrip

/-! Frames with a body that the reader cannot read. A body that is text, but no message, is passed
over by itself. A body that is not even text takes with it whatever stands behind its frame in the
read that completes it, so the reader delivers all that it can only where such a frame is the last
of a read (`readAll_unreadable`). -/

namespace CallHierarchy

/-- A frame as it stands in a stream: a header that gives the length of the body, and the bytes of
the body, whatever they are. -/
structure Packet where
  header : List UInt8
  body : List UInt8
  opens : Frame.Opens (header ++ Frame.terminator) header []
  declares : Frame.Declares header (.ok body.length)
  counted : header.length + Frame.terminator.length + body.length ≤ Decimal.max64

namespace Packet

variable {p : Packet} {ps : List Packet}

def bytes (p : Packet) : List UInt8 := p.header ++ Frame.terminator ++ p.body

def text? (p : Packet) : Option String := Utf8.decode? p.body

/-- The frame that is written for a body. -/
def ofBody (body : List UInt8)
    (h : (Utf8.encode (Frame.headerText body.length)).length + Frame.terminator.length +
      body.length ≤ Decimal.max64) : Packet where
  header := Utf8.encode (Frame.headerText body.length)
  body := body
  opens := by
    rw [← List.append_nil (_ ++ Frame.terminator)]
    exact Frame.opens_of_cutHeader?
      (Frame.cutHeader?_of_not_mem (Frame.not_mem_encode_headerText body.length) [])
  declares :=
    ⟨_, rfl, Frame.announces_iff.1 (Frame.contentLength_headerText (by omega))⟩
  counted := h

theorem opens_append (p : Packet) (more : List UInt8) :
    Frame.Opens (p.bytes ++ more) p.header (p.body ++ more) := by
  rw [bytes, List.append_assoc]
  exact Frame.opens_of_cutHeader? (Frame.cutHeader?_replace (Frame.cutHeader?_of_opens p.opens) _)

theorem length_bytes_pos (p : Packet) : 0 < p.bytes.length := by
  rw [bytes, List.length_append, List.length_append]
  simp only [Frame.terminator, List.length_cons]
  omega

theorem front_of_text {text : String} (h : p.text? = some text) (more : List UInt8) :
    Frame.front (p.bytes ++ more) = .body text more := by
  have hbody : Utf8.encode text = p.body := Utf8.decode?_eq_some_iff.1 h
  have hopens := p.opens_append more
  have hdeclares := p.declares
  have hcounted := p.counted
  rw [← hbody] at hopens hdeclares hcounted
  exact (Frame.Leaves.body hopens hdeclares hcounted).front_eq

theorem front_of_none (h : p.text? = none) (more : List UInt8) :
    Frame.front (p.bytes ++ more) = .fault .bodyNotText more :=
  (Frame.Leaves.bodyNotText (p.opens_append more) p.declares p.counted
    (Frame.decode?_eq_none_iff.1 h)).front_eq

theorem drain_texts (h : ∀ p ∈ ps, p.text? ≠ none) (more : List UInt8) :
    Frame.drain (ps.flatMap bytes ++ more) =
      { Frame.drain more with bodies := ps.filterMap text? ++ (Frame.drain more).bodies } := by
  induction ps with
  | nil => rfl
  | cons p ps ih =>
    obtain ⟨text, htext⟩ := Option.ne_none_iff_exists'.1 (h p List.mem_cons_self)
    have hlater := ih fun q hq => h q (List.mem_cons_of_mem p hq)
    rw [List.flatMap_cons, List.append_assoc, Frame.drain_of_body (front_of_text htext _), hlater,
      List.filterMap_cons_some htext]
    rfl

/-- The first packet whose body is no text ends the draining. -/
theorem drain_unreadable (h : ∀ p ∈ ps, p.text? ≠ none) (hp : p.text? = none)
    (more : List UInt8) :
    Frame.drain ((ps ++ [p]).flatMap bytes ++ more) =
      ⟨ps.filterMap text?, some .bodyNotText, more⟩ := by
  rw [List.flatMap_append, List.append_assoc, drain_texts h, List.flatMap_singleton,
    Frame.drain_of_fault (front_of_none hp more)]
  simp

/-- Each packet whose body is no text is the last that stands in the read that completes it. -/
def EndReads (ps : List Packet) (reads : List (List UInt8)) : Prop :=
  ∀ before p after, ps = before ++ p :: after → p.text? = none →
    ∃ reads₁ reads₂, reads = reads₁ ++ reads₂ ∧ reads₁.flatten = (before ++ [p]).flatMap bytes

/-- Once the reads of the first such packet are over, the rest of the reads do as well for the rest
of the packets. -/
theorem EndReads.tail {before after : List Packet} {reads₁ reads₂ : List (List UInt8)}
    (h : EndReads (before ++ p :: after) (reads₁ ++ reads₂))
    (hreads : reads₁.flatten = (before ++ [p]).flatMap bytes) : EndReads after reads₂ := by
  intro between q later heq hq
  have hpackets : before ++ p :: after = before ++ p :: between ++ q :: later := by
    rw [heq, List.append_assoc, List.cons_append]
  obtain ⟨reads₁', reads₂', hsplit, hflatten⟩ := h _ q later hpackets hq
  have hlong : reads₁'.flatten = reads₁.flatten ++ (between ++ [q]).flatMap bytes := by
    rw [hflatten, hreads, ← List.flatMap_append]
    simp
  rcases List.append_eq_append_iff.1 hsplit with ⟨common, hcut, hrest⟩ | ⟨common, hcut, hrest⟩
  · refine ⟨common, reads₂', hrest, ?_⟩
    rw [hcut, List.flatten_append] at hlong
    exact List.append_cancel_left hlong
  · have hlength := congrArg List.length hlong
    have hq := q.length_bytes_pos
    rw [hcut] at hlength
    simp only [List.flatten_append, List.length_append, List.flatMap_append,
      List.flatMap_singleton] at hlength
    omega

/-! ### Two frames to send -/

/-- A frame around the byte 255. -/
def stray : Packet := ofBody [255] (by decide)

/-- The response to the request with the identity 1. -/
def reply : Response := ⟨rpcVersion, some (.number 1), some (.array []), none⟩

def replied : Packet :=
  ofBody (Utf8.encode (Message.response reply).toJson.compact) (by decide +kernel)

theorem text?_stray : stray.text? = none := by decide +kernel

theorem text?_replied : replied.text? = some (Message.response reply).toJson.compact :=
  Utf8.decode?_encode _

theorem parse_replied : Message.parse (Message.response reply).toJson.compact =
    .ok (.response reply) := by
  have hsend : (Message.response reply).Sendable := by
    refine ⟨by simp [reply], fun v hv => ?_, fun v hv => ?_, by decide, by decide⟩
    · cases List.mem_singleton.1 hv
      exact .array (by simp)
    · cases List.mem_singleton.1 hv
      rfl
  exact hsend.parse_compact

end Packet

theorem Frame.drain_nil : Frame.drain [] = ⟨[], none, []⟩ := Frame.drain_of_incomplete rfl

namespace Client.State

variable {s : State} {bytes : List UInt8}

/-! ### Reads with a fault -/

/-- What stands behind a fault in a read does nothing. -/
theorem read_append_of_fault (hr : s.reading = true)
    (h : (Frame.drain (s.unread ++ bytes)).fault ≠ none) (more : List UInt8) :
    s.read (bytes ++ more) = s.read bytes := by
  rw [read_eq_receiveBodies hr, read_eq_receiveBodies hr, ← List.append_assoc,
    Frame.drain_append_of_fault more h]
  simp [Frame.Drain.kept, Option.isSome_iff_ne_none.2 h]

theorem readAll_of_flatten_nil (hr : s.reading = true) (hu : s.unread = [])
    {reads : List (List UInt8)} (h : reads.flatten = []) : s.readAll reads = (s, []) := by
  have hdrain : Frame.drain (s.unread ++ []) = ⟨[], none, []⟩ := by rw [hu]; exact Frame.drain_nil
  rw [readAll_eq_read reads hr (by rw [hu]; rfl) (by rw [h, hdrain]), h,
    read_eq hr (by rw [hdrain]), hdrain, ← hu]
  rfl

/-- A body that is no text ends a read, and the reader goes on with nothing of it kept. -/
theorem read_unreadable (hr : s.reading = true)
    (h : (Frame.drain (s.unread ++ bytes)).fault = some .bodyNotText) :
    s.read bytes =
      ({ (s.receiveBodies (Frame.drain (s.unread ++ bytes)).bodies).1 with unread := [] },
        (s.receiveBodies (Frame.drain (s.unread ++ bytes)).bodies).2) := by
  have hreading := (receiveBodies_reading s (Frame.drain (s.unread ++ bytes)).bodies).trans hr
  rw [read_eq_receiveBodies hr]
  simp [Frame.Drain.kept, h, hreading]

/-- Reads that end with a body that is no text do what they would do at once. -/
theorem readAll_eq_read_of_unreadable (reads : List (List UInt8)) {s : State}
    (hr : s.reading = true) (hu : Frame.front s.unread = .incomplete)
    (hfault : (Frame.drain (s.unread ++ reads.flatten)).fault = some .bodyNotText)
    (hrest : (Frame.drain (s.unread ++ reads.flatten)).rest = []) :
    s.readAll reads = s.read reads.flatten := by
  induction reads generalizing s with
  | nil => simp [Frame.drain_of_incomplete hu] at hfault
  | cons bytes reads ih =>
    rw [List.flatten_cons, ← List.append_assoc] at hfault hrest
    rw [readAll_cons, List.flatten_cons]
    by_cases hfirst : (Frame.drain (s.unread ++ bytes)).fault = none
    · obtain ⟨hreading, hunread⟩ := read_spec hr hfirst
      rw [Frame.drain_append _ hfirst] at hfault hrest
      have hfront : Frame.front (s.read bytes).1.unread = .incomplete := by
        rw [hunread]
        exact Frame.front_drain hfirst
      rw [read_append hr hfirst, ih hreading hfront (by rwa [hunread]) (by rwa [hunread])]
    · -- The fault is in this read, so there is nothing in the ones after it.
      rw [Frame.drain_append_of_fault _ hfirst] at hfault hrest
      have hnothing : reads.flatten = [] := (List.append_eq_nil_iff.1 hrest).2
      have hread := read_unreadable hr hfault
      have hunread : (s.read bytes).1.unread = [] := by rw [hread]
      have hreading : (s.read bytes).1.reading = true := by
        rw [hread]
        exact (receiveBodies_reading s _).trans hr
      rw [readAll_of_flatten_nil hreading hunread hnothing, hnothing, List.append_nil,
        List.append_nil]

/-! ### Reads of packets -/

open Packet

variable {ps : List Packet} {p : Packet}

theorem readAll_of_texts (hr : s.reading = true) (hu : s.unread = [])
    (hps : ∀ p ∈ ps, p.text? ≠ none) {reads : List (List UInt8)}
    (hreads : reads.flatten = ps.flatMap Packet.bytes) :
    s.readAll reads = s.receiveBodies (ps.filterMap text?) := by
  have hdrain : Frame.drain (s.unread ++ reads.flatten) = ⟨ps.filterMap text?, none, []⟩ := by
    rw [hu, hreads, List.nil_append, ← List.append_nil (ps.flatMap Packet.bytes), drain_texts hps,
      Frame.drain_nil, List.append_nil]
  rw [readAll_eq_read reads hr (by rw [hu]; rfl) (by rw [hdrain]), read_eq hr (by rw [hdrain]),
    hdrain, ← receiveBodies_unread, ← hu]

theorem readAll_of_unreadable (hr : s.reading = true) (hu : s.unread = [])
    (hps : ∀ p ∈ ps, p.text? ≠ none) (hp : p.text? = none) {reads : List (List UInt8)}
    (hreads : reads.flatten = (ps ++ [p]).flatMap Packet.bytes) :
    s.readAll reads = s.receiveBodies (ps.filterMap text?) := by
  have hdrain : Frame.drain (s.unread ++ reads.flatten) =
      ⟨ps.filterMap text?, some .bodyNotText, []⟩ := by
    rw [hu, hreads, List.nil_append, ← drain_unreadable hps hp, List.append_nil]
  rw [readAll_eq_read_of_unreadable reads hr (by rw [hu]; rfl) (by rw [hdrain]) (by rw [hdrain]),
    read_unreadable hr (by rw [hdrain]), hdrain, ← receiveBodies_unread, ← hu]

/-- Packets in reads that end where a body is no text. -/
theorem readAll_packets (before : List Packet) (hr : s.reading = true) (hu : s.unread = [])
    (hbefore : ∀ p ∈ before, p.text? ≠ none) {reads : List (List UInt8)}
    (hreads : reads.flatten = (before ++ ps).flatMap Packet.bytes)
    (hends : EndReads (before ++ ps) reads) :
    s.readAll reads = s.receiveBodies ((before ++ ps).filterMap text?) := by
  -- The texts in front of the next body that is no text pile up in `before`.
  induction ps generalizing s before reads with
  | nil =>
    rw [List.append_nil] at hreads ⊢
    exact readAll_of_texts hr hu hbefore hreads
  | cons p ps ih =>
    by_cases hp : p.text? = none
    · obtain ⟨reads₁, reads₂, rfl, hfirst⟩ := hends before p ps rfl hp
      have hstep := readAll_of_unreadable hr hu hbefore hp hfirst
      have hlater : reads₂.flatten = ([] ++ ps).flatMap Packet.bytes := by
        rw [List.append_cons, List.flatten_append, List.flatMap_append, hfirst] at hreads
        exact List.append_cancel_left hreads
      have hreading := (receiveBodies_reading s (before.filterMap text?)).trans hr
      have hunread : (s.receiveBodies (before.filterMap text?)).1.unread = [] :=
        (congrArg (·.1.unread) (s.receiveBodies_unread s.unread _)).trans hu
      have htexts : (before ++ p :: ps).filterMap text? =
          before.filterMap text? ++ ([] ++ ps).filterMap text? := by
        rw [List.filterMap_append, List.filterMap_cons_none hp, List.nil_append]
      rw [readAll_append, hstep, ih [] hreading hunread (by simp) hlater (hends.tail hfirst),
        htexts, receiveBodies_append]
    · rw [List.append_cons] at hreads hends ⊢
      refine ih (before ++ [p]) hr hu ?_ hreads hends
      simpa [or_imp, forall_and] using ⟨hbefore, hp⟩

/-- What the read of a packet whose body is no text holds behind that packet is lost. -/
theorem readAll_loses (hr : s.reading = true) (hu : s.unread = [])
    (hps : ∀ p ∈ ps, p.text? ≠ none) (hp : p.text? = none) {reads : List (List UInt8)}
    {bytes : List UInt8} (hbytes : bytes ≠ [])
    (hreads : reads.flatten ++ bytes = (ps ++ [p]).flatMap Packet.bytes)
    (more : List UInt8) (later : List (List UInt8)) :
    s.readAll (reads ++ (bytes ++ more) :: later) =
      (((s.receiveBodies (ps.filterMap text?)).1.readAll later).1,
        (s.receiveBodies (ps.filterMap text?)).2 ++
          ((s.receiveBodies (ps.filterMap text?)).1.readAll later).2) := by
  have hwhole : Frame.drain (reads.flatten ++ bytes) =
      ⟨ps.filterMap text?, some .bodyNotText, []⟩ := by
    rw [hreads, ← drain_unreadable hps hp, List.append_nil]
  have hclean : (Frame.drain reads.flatten).fault = none := by
    by_contra hfault
    rw [Frame.drain_append_of_fault _ hfault] at hwhole
    exact hbytes (List.append_eq_nil_iff.1 (congrArg Frame.Drain.rest hwhole)).2
  have hdrain : (Frame.drain (s.unread ++ reads.flatten)).fault = none := by
    rwa [hu, List.nil_append]
  obtain ⟨hreading, hunread⟩ := read_spec hr hdrain
  have hreadAll := readAll_eq_read reads hr (by rw [hu]; rfl) hdrain
  have hfault : (Frame.drain ((s.read reads.flatten).1.unread ++ bytes)).fault ≠ none := by
    rw [Frame.drain_append _ hclean] at hwhole
    have hcause := congrArg Frame.Drain.fault hwhole
    rw [hunread, hu, List.nil_append]
    exact fun hnone => nomatch hnone.symm.trans hcause
  have hlost : s.readAll (reads ++ (bytes ++ more) :: later) =
      s.readAll ((reads ++ [bytes]) ++ later) := by
    rw [List.append_assoc, readAll_append, readAll_append s reads, List.singleton_append,
      readAll_cons, readAll_cons _ bytes, hreadAll, read_append_of_fault hreading hfault]
  rw [hlost, readAll_append, readAll_of_unreadable hr hu hps hp (by simpa using hreads)]

/-! ### A request that waits -/

theorem mem_answers_receiveBody {a : Nat × Response} (h : a ∈ s.answers) (body : String) :
    a ∈ (s.receiveBody body).1.answers := by
  unfold receiveBody
  split
  · next message _ =>
    cases message with
    | request r | notification n => exact h
    | response r =>
      rcases s.route_cases r with ⟨id, n, _, _, hroute⟩ | ⟨hroute, _⟩
      · simp only [receive, hroute]
        exact List.mem_cons_of_mem _ h
      · simpa only [receive, hroute] using h
  · exact h

theorem mem_answers_receiveBodies {a : Nat × Response} (h : a ∈ s.answers) (bodies : List String) :
    a ∈ (s.receiveBodies bodies).1.answers := by
  induction bodies generalizing s with
  | nil => exact h
  | cons body bodies ih => exact ih (mem_answers_receiveBody h body)

theorem lookup_withdraw {id other : RequestId} {n : Nat} (h : s.pending.lookup id = some n)
    (hne : id ≠ other) : (s.withdraw other).pending.lookup id = some n := by
  obtain ⟨before, after, heq, hbefore⟩ := List.lookup_eq_some_iff.1 h
  refine List.lookup_eq_some_iff.2 ⟨before.filter (·.1 ≠ other), after.filter (·.1 ≠ other), ?_, ?_⟩
  · simp [withdraw, heq, hne]
  · exact fun e he => hbefore e (List.mem_of_mem_filter he)

theorem lookup_receiveBody {id : RequestId} {n : Nat} {body : String}
    (h : s.pending.lookup id = some n)
    (hbody : ∀ r, Message.parse body = .ok (.response r) → r.id ≠ some id) :
    (s.receiveBody body).1.pending.lookup id = some n := by
  unfold receiveBody
  split
  · next message hparse =>
    cases message with
    | request r | notification n => exact h
    | response r =>
      rcases s.route_cases r with ⟨other, n, hother, _, hroute⟩ | ⟨hroute, _⟩
      · have hne : id ≠ other := fun heq => hbody r hparse (heq ▸ hother)
        simp only [receive, hroute]
        exact lookup_withdraw h hne
      · simpa only [receive, hroute] using h
  · exact h

/-- A request that waits is answered, once a body responds to it. -/
theorem answered_receiveBodies {id : RequestId} {n : Nat} {bodies : List String}
    (h : s.pending.lookup id = some n)
    (hbody : ∃ body ∈ bodies, ∃ r, Message.parse body = .ok (.response r) ∧ r.id = some id) :
    ∃ body ∈ bodies, ∃ r, Message.parse body = .ok (.response r) ∧ r.id = some id ∧
      (n, r) ∈ (s.receiveBodies bodies).1.answers := by
  induction bodies generalizing s with
  | nil => simp at hbody
  | cons body bodies ih =>
    by_cases hfirst : ∃ r, Message.parse body = .ok (.response r) ∧ r.id = some id
    · obtain ⟨r, hparse, hid⟩ := hfirst
      have hanswer : (n, r) ∈ (s.receiveBody body).1.answers := by
        simp [receiveBody, hparse, receive, route, hid, h]
      exact ⟨body, List.mem_cons_self, r, hparse, hid, mem_answers_receiveBodies hanswer bodies⟩
    · obtain ⟨other, hmem, r, hparse, hid⟩ := hbody
      have hne : other ≠ body := by
        rintro rfl
        exact hfirst ⟨r, hparse, hid⟩
      have hlater := List.mem_of_ne_of_mem hne hmem
      have hwaits := lookup_receiveBody h fun r hparse hid => hfirst ⟨r, hparse, hid⟩
      obtain ⟨answer, hanswer, hspec⟩ := ih hwaits ⟨other, hlater, r, hparse, hid⟩
      exact ⟨answer, List.mem_cons_of_mem body hanswer, hspec⟩

/-- What comes of frames with bodies that cannot be read. Where each body that is no text is the
last thing in its read, the reader delivers all the others in order, however the frames are cut
otherwise, and a request that waits gets its answer from among them. Where more stands behind such
a body in its read, that is lost, whatever it is: the client goes on as if it had not been sent. -/
theorem readAll_unreadable (hr : s.reading = true) (hu : s.unread = []) :
    (∀ (ps : List Packet) (reads : List (List UInt8)), reads.flatten = ps.flatMap Packet.bytes →
      EndReads ps reads →
        s.readAll reads = s.receiveBodies (ps.filterMap text?) ∧
        ∀ id n, s.pending.lookup id = some n →
          (∃ text ∈ ps.filterMap text?, ∃ r,
            Message.parse text = .ok (.response r) ∧ r.id = some id) →
          ∃ text ∈ ps.filterMap text?, ∃ r, Message.parse text = .ok (.response r) ∧
            r.id = some id ∧ (n, r) ∈ (s.readAll reads).1.answers) ∧
    ∀ (ps : List Packet) (p : Packet) (reads : List (List UInt8)) (bytes : List UInt8),
      (∀ p ∈ ps, p.text? ≠ none) → p.text? = none → bytes ≠ [] →
      reads.flatten ++ bytes = (ps ++ [p]).flatMap Packet.bytes →
      ∀ (more : List UInt8) (later : List (List UInt8)),
        s.readAll (reads ++ (bytes ++ more) :: later) =
          (((s.receiveBodies (ps.filterMap text?)).1.readAll later).1,
            (s.receiveBodies (ps.filterMap text?)).2 ++
              ((s.receiveBodies (ps.filterMap text?)).1.readAll later).2) := by
  constructor
  · intro ps reads hreads hends
    have hall : s.readAll reads = s.receiveBodies (ps.filterMap text?) :=
      readAll_packets [] hr hu (by simp) hreads hends
    rw [hall]
    exact ⟨rfl, fun id n hwaits hbody => answered_receiveBodies hwaits hbody⟩
  · intro ps p reads bytes hps hp hbytes hreads more later
    exact readAll_loses hr hu hps hp hbytes hreads more later

/-- The first request waits for its response. The frame of a stray byte comes in one read, and the
response in the next. -/
theorem readAll_unreadable_apart :
    let s := start.register 0
    s.reading = true ∧ s.unread = [] ∧ EndReads [stray, replied] [stray.bytes, replied.bytes] ∧
      ∃ r, (0, r) ∈ (s.readAll [stray.bytes, replied.bytes]).1.answers := by
  intro s
  have hends : EndReads [stray, replied] [stray.bytes, replied.bytes] := by
    intro before p after heq hp
    match before with
    | [] => exact ⟨[stray.bytes], [replied.bytes], rfl, by cases heq; simp⟩
    | [_] =>
      obtain ⟨rfl, rfl, rfl⟩ : _ ∧ replied = p ∧ [] = after := by simpa using heq
      cases hp.symm.trans text?_replied
    | _ :: _ :: before => simp at heq
  have htext : (Message.response reply).toJson.compact ∈ [stray, replied].filterMap text? := by
    simp [text?_stray, text?_replied]
  obtain ⟨_, hanswered⟩ := (readAll_unreadable (s := start.register 0) rfl rfl).1 [stray, replied]
    [stray.bytes, replied.bytes] (by simp) hends
  obtain ⟨_, _, r, _, _, hr⟩ := hanswered (.number 1) 0 (by decide)
    ⟨_, htext, reply, parse_replied, rfl⟩
  exact ⟨rfl, rfl, hends, r, hr⟩

/-- The same two frames in one read. The request waits on, although its response has been read. -/
theorem readAll_together :
    let s := start.register 0
    let ps := [stray, replied]
    let reads := [stray.bytes ++ replied.bytes]
    s.reading = true ∧ s.unread = [] ∧ reads.flatten = ps.flatMap Packet.bytes ∧
      s.pending.lookup (.number 1) = some 0 ∧
      (∃ text ∈ ps.filterMap text?, Message.parse text = .ok (.response reply)) ∧
      reply.id = some (.number 1) ∧ (s.readAll reads).1.answers = [] ∧
      s.readAll reads ≠ s.receiveBodies (ps.filterMap text?) := by
  intro s ps reads
  have htexts : ps.filterMap text? = [(Message.response reply).toJson.compact] := by
    simp [ps, text?_stray, text?_replied]
  have hread : s.readAll ([] ++ (stray.bytes ++ replied.bytes) :: []) = (s, []) :=
    readAll_loses rfl rfl (by simp : ∀ p ∈ ([] : List Packet), p.text? ≠ none) text?_stray
      (List.ne_nil_of_length_pos stray.length_bytes_pos) (by simp) _ []
  have hwaits : s.pending.lookup (.number 1) = some 0 := by decide
  have htext : (Message.response reply).toJson.compact ∈ ps.filterMap text? := by simp [htexts]
  refine ⟨rfl, rfl, by simp [ps, reads], hwaits, ⟨_, htext, parse_replied⟩, rfl, ?_, ?_⟩
  · exact congrArg (·.1.answers) hread
  · intro heq
    obtain ⟨_, _, r, _, _, hr⟩ := answered_receiveBodies hwaits
      ⟨_, htext, reply, parse_replied, rfl⟩
    rw [← heq, show s.readAll reads = (s, []) from hread] at hr
    cases hr

end Client.State

end CallHierarchy
