import CallHierarchy.MockServer.Basic
import CallHierarchy.Proofs.Wire.Extension

/-! The mock server and the cuts in the byte stream that it reads. What it does comes from the bodies
of the frames in the stream, however the stream is cut into reads (`feedAll_eq`), so it does the
same for every cut. Bytes that it can make nothing of block all that come after them
(`feedAll_congr`). -/

namespace CallHierarchy.MockServer

variable {buffer rest : List UInt8} {text : String}

/-! ### The front of the buffer -/

/-- A frame stays at the front of a buffer when bytes are put behind it. -/
theorem intake_append_of_body (more : List UInt8) (h : intake buffer = .body text rest) :
    intake (buffer ++ more) = .body text (rest ++ more) := by
  unfold intake at h ⊢
  cases hcut : Frame.cutHeader? buffer with
  | none => simp [hcut] at h
  | some cut =>
    obtain ⟨header, tail⟩ := cut
    rw [Frame.cutHeader?_append more hcut]
    simp only [hcut] at h ⊢
    split at h
    · cases h
    · split at h
      · cases h
      · next hcounted =>
        rw [if_neg hcounted]
        split at h
        · cases h
        · next hwhole =>
          have hle := Nat.not_lt.1 hwhole
          rw [if_neg (by rw [List.length_append]; omega), List.take_append_of_le_length hle,
            List.drop_append_of_le_length hle]
          split at h
          · cases h
          · obtain ⟨rfl, rfl⟩ := Intake.body.inj h
            rfl

theorem intake_append_of_overflow (more : List UInt8) (h : intake buffer = .overflow) :
    intake (buffer ++ more) = .overflow := by
  unfold intake at h ⊢
  cases hcut : Frame.cutHeader? buffer with
  | none => simp [hcut] at h
  | some cut =>
    obtain ⟨header, tail⟩ := cut
    rw [Frame.cutHeader?_append more hcut]
    simp only [hcut] at h ⊢
    split at h
    · cases h
    · split at h
      · next hover => rw [if_pos hover]
      · split at h
        · cases h
        · split at h <;> cases h

/-- The length that a header gives, if the header is text and gives one. -/
def headerLength? (header : List UInt8) : Option Nat :=
  (Utf8.decode? header).bind fun text => contentLength? text.toList

/-- Bytes that the server never gets past: they begin with a whole header without a length, or with
a whole frame whose body is no text. -/
inductive Blocked (buffer : List UInt8) : Prop where
  | header {header rest : List UInt8} (hcut : Frame.cutHeader? buffer = some (header, rest))
      (hlength : headerLength? header = none)
  | body {header rest : List UInt8} {length : Nat}
      (hcut : Frame.cutHeader? buffer = some (header, rest))
      (hlength : headerLength? header = some length)
      (hcounted : header.length + Frame.terminator.length + length ≤ Decimal.max64)
      (hwhole : length ≤ rest.length) (hbody : Utf8.decode? (rest.take length) = none)

theorem Blocked.append (h : Blocked buffer) (more : List UInt8) : Blocked (buffer ++ more) := by
  cases h with
  | header hcut hlength => exact .header (Frame.cutHeader?_append more hcut) hlength
  | body hcut hlength hcounted hwhole hbody =>
    refine .body (Frame.cutHeader?_append more hcut) hlength hcounted ?_ ?_
    · rw [List.length_append]
      omega
    · rwa [List.take_append_of_le_length hwhole]

theorem Blocked.intake_eq (h : Blocked buffer) : intake buffer = .nothing := by
  cases h with
  | header hcut hlength =>
    rw [headerLength?] at hlength
    simp only [intake, hcut, hlength]
  | body hcut hlength hcounted hwhole hbody =>
    rw [headerLength?] at hlength
    simp only [intake, hcut, hlength, hbody]
    rw [if_neg (by omega), if_neg (by omega)]

/-! ### The frames of a buffer -/

/-- What a buffer holds for the server: the bodies of its frames, whether a length that overflows
comes behind them, and the bytes that are left. -/
structure Haul where
  bodies : List String
  overflow : Bool
  rest : List UInt8
  deriving DecidableEq, Repr

/-- Takes frames off a buffer for as long as there are any. -/
def haul (buffer : List UInt8) : Haul :=
  match _h : intake buffer with
  | .nothing => ⟨[], false, buffer⟩
  | .overflow => ⟨[], true, buffer⟩
  | .body text rest =>
    let later := haul rest
    { later with bodies := text :: later.bodies }
termination_by buffer.length
decreasing_by
  have := length_of_intake_body _h
  omega

theorem haul_of_nothing (h : intake buffer = .nothing) : haul buffer = ⟨[], false, buffer⟩ := by
  rw [haul]
  split <;> simp_all

theorem haul_of_overflow (h : intake buffer = .overflow) : haul buffer = ⟨[], true, buffer⟩ := by
  rw [haul]
  split <;> simp_all

theorem haul_of_body (h : intake buffer = .body text rest) :
    haul buffer = { haul rest with bodies := text :: (haul rest).bodies } := by
  rw [haul]
  split <;> simp_all

/-- What is left of a buffer begins with no frame. -/
theorem intake_haul (h : (haul buffer).overflow = false) : intake (haul buffer).rest = .nothing := by
  induction buffer using haul.induct with
  | case1 buffer hintake =>
    rw [haul_of_nothing hintake]
    exact hintake
  | case2 buffer hintake => simp [haul_of_overflow hintake] at h
  | case3 buffer text rest hintake ih =>
    rw [haul_of_body hintake] at h ⊢
    exact ih h

theorem haul_append (more : List UInt8) (h : (haul buffer).overflow = false) :
    haul (buffer ++ more) =
      { haul ((haul buffer).rest ++ more) with
        bodies := (haul buffer).bodies ++ (haul ((haul buffer).rest ++ more)).bodies } := by
  induction buffer using haul.induct with
  | case1 buffer hintake => simp [haul_of_nothing hintake]
  | case2 buffer hintake => simp [haul_of_overflow hintake] at h
  | case3 buffer text rest hintake ih =>
    rw [haul_of_body hintake] at h
    rw [haul_of_body (intake_append_of_body more hintake), haul_of_body hintake, ih h]
    rfl

/-- Bytes behind a length that overflows do not undo it. -/
theorem haul_append_of_overflow (more : List UInt8) (h : (haul buffer).overflow = true) :
    haul (buffer ++ more) = { haul buffer with rest := (haul buffer).rest ++ more } := by
  induction buffer using haul.induct with
  | case1 buffer hintake => simp [haul_of_nothing hintake] at h
  | case2 buffer hintake =>
    rw [haul_of_overflow (intake_append_of_overflow more hintake), haul_of_overflow hintake]
  | case3 buffer text rest hintake ih =>
    rw [haul_of_body hintake] at h
    rw [haul_of_body (intake_append_of_body more hintake), haul_of_body hintake, ih h]

/-! ### Bodies one after the other -/

/-- Takes in bodies until the server has ended. -/
def handleBodies (s : MockServer) : List String → MockServer × List Act
  | [] => (s, [])
  | body :: rest =>
    let (s, acts) := s.handleBody body
    if s.running then
      let (s, more) := s.handleBodies rest
      (s, acts ++ more)
    else (s, acts)

variable {s t : MockServer} {bodies more : List String}

theorem handleBodies_append (hs : s.running = true) (bodies more : List String) :
    s.handleBodies (bodies ++ more) =
      if (s.handleBodies bodies).1.running then
        (((s.handleBodies bodies).1.handleBodies more).1,
          (s.handleBodies bodies).2 ++ ((s.handleBodies bodies).1.handleBodies more).2)
      else s.handleBodies bodies := by
  induction bodies generalizing s with
  | nil => simp [handleBodies, hs]
  | cons body bodies ih =>
    simp only [List.cons_append, handleBodies]
    cases hrunning : (s.handleBody body).1.running with
    | false => simp [hrunning]
    | true =>
      simp only [if_true, ih hrunning]
      split <;> simp

/-- The bytes that the server has not taken in play no part in what a message does. -/
theorem handleBody_unread (s : MockServer) (unread : List UInt8) (body : String) :
    ({ s with unread } : MockServer).handleBody body =
      ({ (s.handleBody body).1 with unread }, (s.handleBody body).2) := by
  unfold handleBody
  split
  · rfl
  · rfl
  · simp only [handleNotification]
    split <;> rfl
  · next id method params _ =>
    have hrespond (key : String) (content : Json) :
        ({ s with unread } : MockServer).respond id key content =
          ({ (s.respond id key content).1 with unread }, (s.respond id key content).2) := by
      simp only [respond]
      split <;> rfl
    have hresult : ({ s with unread } : MockServer).result? method params =
        s.result? method params := rfl
    simp only [handleRequest]
    split
    · rfl
    · simp only [answer, hrespond, hresult]
      split
      · rfl
      · split
        · rfl
        · split <;> rfl

theorem handleBodies_unread (s : MockServer) (unread : List UInt8) (bodies : List String) :
    ({ s with unread } : MockServer).handleBodies bodies =
      ({ (s.handleBodies bodies).1 with unread }, (s.handleBodies bodies).2) := by
  induction bodies generalizing s with
  | nil => rfl
  | cons body bodies ih =>
    simp only [handleBodies, handleBody_unread, ih]
    split <;> rfl

/-- Takes in what a buffer holds. -/
def takeIn (s : MockServer) (h : Haul) : MockServer × List Act :=
  let (s, acts) := s.handleBodies h.bodies
  if s.running then
    if h.overflow then ({ s with running := false }, acts ++ [.exit 101])
    else ({ s with unread := h.rest }, acts)
  else (s, acts)

/-- A run through a buffer takes in what it holds. -/
theorem run_eq (hs : s.running = true) (buffer : List UInt8) :
    s.run buffer = s.takeIn (haul buffer) := by
  induction buffer using haul.induct generalizing s with
  | case1 buffer hintake =>
    rw [run, haul_of_nothing hintake]
    split <;> simp_all [takeIn, handleBodies]
  | case2 buffer hintake =>
    rw [run, haul_of_overflow hintake]
    split <;> simp_all [takeIn, handleBodies]
  | case3 buffer text rest hintake ih =>
    have hrun : s.run buffer =
        if (s.handleBody text).1.running then
          (((s.handleBody text).1.run rest).1,
            (s.handleBody text).2 ++ ((s.handleBody text).1.run rest).2)
        else s.handleBody text := by
      rw [run]
      split <;> simp_all
    rw [hrun, haul_of_body hintake]
    cases hrunning : (s.handleBody text).1.running with
    | false => simp [takeIn, handleBodies, hrunning]
    | true =>
      simp only [if_true, ih hrunning, takeIn, handleBodies, hrunning]
      split
      · split <;> simp
      · rfl

/-! ### Reads -/

/-- Takes in a stream read by read. -/
def feedAll (s : MockServer) : List (List UInt8) → MockServer × List Act
  | [] => (s, [])
  | bytes :: reads =>
    let (s, acts) := s.feed bytes
    let (s, more) := s.feedAll reads
    (s, acts ++ more)

/-- Two servers differ at most in bytes that neither of them is going to look at. -/
structure Alike (s t : MockServer) : Prop where
  eq_with : t = { s with unread := t.unread }
  eq : s.running = true → t = s

theorem Alike.refl (s : MockServer) : s.Alike s := ⟨rfl, fun _ => rfl⟩

theorem Alike.trans {u : MockServer} (h : s.Alike t) (hu : t.Alike u) : s.Alike u where
  eq_with := by
    have heq := hu.eq_with
    rw [h.eq_with] at heq
    exact heq
  eq hs := by
    have ht := h.eq hs
    rw [hu.eq (ht ▸ hs), ht]

theorem Alike.symm (h : s.Alike t) : t.Alike s where
  eq_with := by
    rw [h.eq_with]
  eq ht := by
    rw [h.eq_with] at ht
    exact (h.eq ht).symm

theorem Alike.documents (h : s.Alike t) : t.documents = s.documents := by
  rw [h.eq_with]

theorem Alike.running (h : s.Alike t) : t.running = s.running := by
  rw [h.eq_with]

theorem feedAll_of_ended (hs : s.running = false) (reads : List (List UInt8)) :
    s.feedAll reads = (s, []) := by
  induction reads with
  | nil => rfl
  | cons bytes reads ih => simp [feedAll, feed, hs, ih]

/-- Taking in a buffer leaves the server with what is left of it, if it still runs. -/
theorem takeIn_of_running {h : Haul} (ht : (s.takeIn h).1.running = true) :
    h.overflow = false ∧ s.takeIn h =
      ({ (s.handleBodies h.bodies).1 with unread := h.rest }, (s.handleBodies h.bodies).2) ∧
      (s.handleBodies h.bodies).1.running = true := by
  simp only [takeIn] at ht ⊢
  cases hrunning : (s.handleBodies h.bodies).1.running with
  | false => simp [hrunning] at ht
  | true =>
    cases hover : h.overflow with
    | false => simp
    | true => simp [hrunning, hover] at ht

/-- Once the server has ended, it does not matter what more the buffer holds. -/
theorem takeIn_haul_append_of_ended (hs : s.running = true)
    (ht : (s.takeIn (haul buffer)).1.running = false) (more : List UInt8) :
    s.takeIn (haul (buffer ++ more)) = s.takeIn (haul buffer) := by
  cases hover : (haul buffer).overflow with
  | true =>
    rw [haul_append_of_overflow more hover]
    simp [takeIn, hover]
  | false =>
    have hended : (s.handleBodies (haul buffer).bodies).1.running = false := by
      cases hrunning : (s.handleBodies (haul buffer).bodies).1.running with
      | false => rfl
      | true => simp [takeIn, hover, hrunning] at ht
    rw [haul_append more hover]
    simp [takeIn, handleBodies_append hs, hended]

/-- Bodies may be taken in before the rest of a haul. -/
theorem takeIn_append (hs : s.running = true) (h : Haul)
    (ht : (s.handleBodies bodies).1.running = true) :
    s.takeIn { h with bodies := bodies ++ h.bodies } =
      (((s.handleBodies bodies).1.takeIn h).1,
        (s.handleBodies bodies).2 ++ ((s.handleBodies bodies).1.takeIn h).2) := by
  simp only [takeIn, handleBodies_append hs, ht, if_true]
  split
  · split
    · rw [List.append_assoc]
    · rfl
  · rfl

theorem takeIn_unread (s : MockServer) (unread : List UInt8) (h : Haul) :
    (({ s with unread } : MockServer).takeIn h).1.Alike (s.takeIn h).1 ∧
      (({ s with unread } : MockServer).takeIn h).2 = (s.takeIn h).2 := by
  simp only [takeIn, handleBodies_unread]
  split
  · split
    · exact ⟨⟨rfl, nofun⟩, rfl⟩
    · exact ⟨Alike.refl _, rfl⟩
  · next hended => exact ⟨⟨rfl, fun h => absurd h hended⟩, rfl⟩

/-- A server that still runs goes on with what is left of its buffer. -/
theorem takeIn_haul_append (hs : s.running = true)
    (ht : (s.takeIn (haul buffer)).1.running = true) (more : List UInt8) :
    intake (s.takeIn (haul buffer)).1.unread = .nothing ∧
      ((s.takeIn (haul buffer)).1.takeIn
          (haul ((s.takeIn (haul buffer)).1.unread ++ more))).1.Alike
        (s.takeIn (haul (buffer ++ more))).1 ∧
      (s.takeIn (haul (buffer ++ more))).2 = (s.takeIn (haul buffer)).2 ++
        ((s.takeIn (haul buffer)).1.takeIn
          (haul ((s.takeIn (haul buffer)).1.unread ++ more))).2 := by
  obtain ⟨hover, heq, hrunning⟩ := takeIn_of_running ht
  rw [heq, haul_append more hover, takeIn_append hs _ hrunning]
  obtain ⟨halike, hacts⟩ := takeIn_unread (s.handleBodies (haul buffer).bodies).1
    (haul buffer).rest (haul ((haul buffer).rest ++ more))
  exact ⟨intake_haul hover, halike, by rw [hacts]⟩

/-- Reading a stream in pieces comes to taking in what the stream holds as a whole. -/
theorem feedAll_eq (reads : List (List UInt8)) (hs : s.running = true)
    (hfront : intake s.unread = .nothing) :
    (s.feedAll reads).1.Alike (s.takeIn (haul (s.unread ++ reads.flatten))).1 ∧
      (s.feedAll reads).2 = (s.takeIn (haul (s.unread ++ reads.flatten))).2 := by
  induction reads generalizing s with
  | nil =>
    have hwhole : s.takeIn (haul (s.unread ++ [])) = (s, []) := by
      rw [List.append_nil, haul_of_nothing hfront]
      exact if_pos hs
    rw [List.flatten_nil, hwhole]
    exact ⟨Alike.refl s, rfl⟩
  | cons bytes reads ih =>
    rw [List.flatten_cons, ← List.append_assoc]
    have hfeed : s.feed bytes = s.takeIn (haul (s.unread ++ bytes)) := by
      rw [feed, if_pos hs, run_eq hs]
    simp only [feedAll, hfeed]
    cases ht : (s.takeIn (haul (s.unread ++ bytes))).1.running with
    | false =>
      rw [takeIn_haul_append_of_ended hs ht, feedAll_of_ended ht]
      exact ⟨Alike.refl _, List.append_nil _⟩
    | true =>
      obtain ⟨hrest, halike, hacts⟩ := takeIn_haul_append hs ht reads.flatten
      obtain ⟨hlater, hmore⟩ := ih ht hrest
      exact ⟨hlater.trans halike, by rw [hacts, hmore]⟩

theorem haul_append_of_blocked (h : Blocked (haul buffer).rest) (more : List UInt8) :
    haul (buffer ++ more) = { haul buffer with rest := (haul buffer).rest ++ more } := by
  cases hover : (haul buffer).overflow with
  | true => exact haul_append_of_overflow more hover
  | false =>
    rw [haul_append more hover, haul_of_nothing (h.append more).intake_eq]
    simp [hover]

/-- What is left of a buffer does not show in what the server does. -/
theorem takeIn_rest (s : MockServer) (h : Haul) (rest : List UInt8) :
    (s.takeIn { h with rest }).2 = (s.takeIn h).2 ∧
      (s.takeIn { h with rest }).1.documents = (s.takeIn h).1.documents := by
  simp only [takeIn]
  split
  · split <;> exact ⟨rfl, rfl⟩
  · exact ⟨rfl, rfl⟩

/-- What the server does, and what becomes of it, depends on the stream alone and not on the cuts
in it. If what is left of the stream behind its frames blocks the server, then nothing that comes
later makes it do anything. -/
theorem feedAll_congr (options : Options) {reads reads' : List (List UInt8)}
    (h : reads.flatten = reads'.flatten) :
    let run := (start options).feedAll
    (run reads).2 = (run reads').2 ∧ (run reads).1.documents = (run reads').1.documents ∧
      (run reads).1.Alike (run reads').1 ∧
      (Blocked (haul reads.flatten).rest → ∀ later,
        (run (reads ++ later)).2 = (run reads).2 ∧
        (run (reads' ++ later)).2 = (run reads').2 ∧
        (run (reads ++ later)).1.documents = (run reads).1.documents ∧
        (run (reads' ++ later)).1.documents = (run reads').1.documents) := by
  intro run
  let whole (stream : List UInt8) := (start options).takeIn (haul stream)
  have hrun (reads : List (List UInt8)) : (run reads).1.Alike (whole reads.flatten).1 ∧
      (run reads).2 = (whole reads.flatten).2 := feedAll_eq reads rfl rfl
  have hlater (reads later : List (List UInt8)) (hblocked : Blocked (haul reads.flatten).rest) :
      (run (reads ++ later)).2 = (run reads).2 ∧
        (run (reads ++ later)).1.documents = (run reads).1.documents := by
    have hmore := haul_append_of_blocked hblocked later.flatten
    rw [← List.flatten_append] at hmore
    obtain ⟨hacts, hdocuments⟩ := takeIn_rest (start options) (haul reads.flatten)
      ((haul reads.flatten).rest ++ later.flatten)
    rw [← hmore] at hacts hdocuments
    rw [(hrun _).2, (hrun _).2, ← (hrun _).1.documents, ← (hrun _).1.documents]
    exact ⟨hacts, hdocuments⟩
  have halike : (run reads).1.Alike (run reads').1 :=
    (hrun reads).1.trans (h ▸ (hrun reads').1.symm)
  refine ⟨?_, halike.documents.symm, halike, fun hblocked later => ?_⟩
  · rw [(hrun reads).2, (hrun reads').2, h]
  · obtain ⟨hacts, hdocuments⟩ := hlater reads later hblocked
    obtain ⟨hacts', hdocuments'⟩ := hlater reads' later (h ▸ hblocked)
    exact ⟨hacts, hacts', hdocuments, hdocuments'⟩

/-- The cut goes through the terminator of a header without a length. The request behind the header
is never answered. -/
theorem feedAll_congr_blocked :
    let run := (start .plain).feedAll
    let stream := Utf8.encode "Content-Type: x\r\n\r\n"
    let shutdown := Frame.encode
      "\x7b\"jsonrpc\":\"2.0\",\"id\":1,\"method\":\"shutdown\"\x7d"
    [stream.take 17, stream.drop 17].flatten = [stream].flatten ∧
      Blocked (haul [stream.take 17, stream.drop 17].flatten).rest ∧
      (run [stream.take 17, stream.drop 17]).2 = (run [stream]).2 ∧
      (run ([stream] ++ [shutdown])).2 = (run [stream]).2 := by
  intro run stream shutdown
  have h : [stream.take 17, stream.drop 17].flatten = [stream].flatten := by
    simp [List.take_append_drop]
  have hnothing : intake [stream].flatten = .nothing := by decide +kernel
  have hcut : Frame.cutHeader? [stream].flatten = some (Utf8.encode "Content-Type: x", []) := by
    decide +kernel
  have hblocked : Blocked (haul [stream.take 17, stream.drop 17].flatten).rest := by
    rw [h, haul_of_nothing hnothing]
    exact .header hcut (by decide +kernel)
  obtain ⟨hacts, -, -, hlater⟩ := feedAll_congr .plain h
  exact ⟨h, hblocked, hacts, (hlater hblocked [shutdown]).2.1⟩

end CallHierarchy.MockServer
