import CallHierarchy.Proofs.MockServer.Reading

/-! What the mock server writes in the course of a run. Each request that it does not keep silent on
gets one response, in the order of the requests, and nothing else gets any. The only other thing
that it writes is the question for its configuration, once after each greeting. The open documents
come from the notifications alone, and the run ends at the first message that ends it
(`feedAll_transcript`). -/

namespace CallHierarchy.MockServer

open Source

/-! ### Messages -/

/-- The methods that the server knows. -/
def methods : List String := [
  "initialize",
  "shutdown",
  "textDocument/prepareCallHierarchy",
  "callHierarchy/incomingCalls",
  "callHierarchy/outgoingCalls"]

/-- The notifications that say something of the open documents. -/
def editing : List String :=
  ["textDocument/didOpen", "textDocument/didChange", "textDocument/didClose"]

namespace Incoming

/-- Whether the server responds to the message: to all requests but those of the methods on which
it keeps silent. -/
def awaits (o : Options) : Incoming → Bool
  | ⟨some _, some method, _⟩ => method ∉ o.silentOn
  | _ => false

/-- Whether the message is the notification that ends the server. -/
def isExit : Incoming → Bool
  | ⟨none, some method, _⟩ => method = "exit"
  | _ => false

/-- Whether the message is a notification that says something of the open documents. -/
def edits : Incoming → Bool
  | ⟨none, some method, _⟩ => method ∈ editing
  | _ => false

/-- The open documents after a notification that says something of them. -/
def note (documents : Documents) (m : Incoming) : Documents :=
  updated documents (m.method.getD "") m.params

end Incoming

/-- The messages in the bodies of frames. The bodies that are no messages are passed over. -/
def messages (bodies : List String) : List Incoming := bodies.filterMap Incoming.ofBody?

/-! ### Responses -/

/-- A response: the identity and the method of the request, and its result, or the code and the
text of an error. -/
structure Reply where
  id : Json
  method : String
  outcome : Except (Int × String) Json

namespace Reply

/-- The response as it is written. -/
def body (r : Reply) : String :=
  Json.compact (.object [("jsonrpc", .string "2.0"), ("id", r.id), match r.outcome with
    | .ok result => ("result", result)
    | .error (code, message) => ("error", errorJson code message)])

/-- Whether the response grants a request to start a session. -/
def greets (r : Reply) : Bool := r.method = "initialize" && r.outcome.toBool

end Reply

/-- How the server responds to a message. -/
inductive Responds (o : Options) : Incoming → Reply → Prop where
  | failing {id : Json} {method : String} {params : Json} (hfails : method ∈ o.failsOn) :
      Responds o ⟨some id, some method, params⟩
        ⟨id, method, .error (-32603, "mockls: configured to fail on " ++ method)⟩
  | unknown {id : Json} {method : String} {params : Json} (hfails : method ∉ o.failsOn)
      (hunknown : method ∉ methods) :
      Responds o ⟨some id, some method, params⟩
        ⟨id, method, .error (-32601, "mockls: method not found: " ++ method)⟩
  | result {id : Json} {method : String} {params : Json} (hfails : method ∉ o.failsOn)
      (hknown : method ∈ methods) (result : Json) :
      Responds o ⟨some id, some method, params⟩ ⟨id, method, .ok result⟩

/-- The question for the configuration, by its number. -/
def question (n : Nat) : String :=
  Json.compact (.object [
    ("id", .nat n),
    ("jsonrpc", .string "2.0"),
    ("method", .string "workspace/configuration"),
    ("params", .object [("items", .array [.object [("section", .string "mockls")]])])])

/-- Whether the server breaks down with this many responses. -/
def Options.dropsAt (o : Options) (responses : Nat) : Bool := o.dropAfter.any (· ≤ responses)

/-- Whether the server asks for its configuration after a response, by the number of the responses
so far. -/
def Options.asksAfter (o : Options) (r : Reply) (responses : Nat) : Bool :=
  o.asksConfiguration && r.greets && !o.dropsAt responses

/-- What the server writes when it comes to these responses: after each greeting stands a question,
unless the server breaks down there. The questions are numbered from one. -/
def woven (o : Options) (replies : List Reply) : List String :=
  replies.zipIdx.flatMap fun (r, i) =>
    r.body :: if o.asksAfter r (i + 1) then
      [question ((replies.take (i + 1)).countP Reply.greets)] else []

/-- What an act writes. -/
def Act.body? : Act → Option String
  | write body => some body
  | _ => none

/-- Whether the messages end the server: the notification to leave is among them, or those to which
it responds are as many as it can bear. It can always bear one. -/
def Stops (o : Options) (ms : List Incoming) : Prop :=
  (∃ m ∈ ms, m.isExit) ∨ ∃ n, o.dropAfter = some n ∧ max 1 n ≤ (ms.filter (·.awaits o)).length

/-! ### One message -/

variable {o : Options} {s : MockServer} {m : Incoming}

theorem result?_isSome_iff (s : MockServer) (method : String) (params : Json) :
    (s.result? method params).isSome ↔ method ∈ methods := by
  unfold result?
  extract_lets ask
  split <;> simp_all [methods]

/-- Notifications of other kinds say nothing of the documents. -/
theorem updated_of_not_mem {method : String} (h : method ∉ editing) (documents : Documents)
    (params : Json) : updated documents method params = documents := by
  unfold updated
  split
  · rfl
  · split <;> simp_all [editing]

/-- The server after a response. -/
def after (s : MockServer) (r : Reply) : MockServer :=
  { s with
    responses := s.responses + 1
    questions := s.questions + (s.options.asksAfter r (s.responses + 1)).toNat
    running := !s.options.dropsAt (s.responses + 1) }

/-- What the server writes with a response. -/
def saying (s : MockServer) (r : Reply) : List String :=
  r.body :: if s.options.asksAfter r (s.responses + 1) then [question (s.questions + 1)] else []

theorem Incoming.not_of_edits (h : m.edits = true) : m.awaits o = false ∧ m.isExit = false := by
  obtain ⟨_ | id, _ | method, params⟩ := m <;> simp_all [edits, awaits, isExit, editing]
  rcases h with rfl | rfl | rfl <;> decide

theorem Incoming.not_of_isExit (h : m.isExit = true) : m.awaits o = false ∧ m.edits = false := by
  obtain ⟨_ | id, _ | method, params⟩ := m <;> simp_all [edits, awaits, isExit, editing]

theorem Incoming.not_of_awaits (h : m.awaits o = true) : m.edits = false ∧ m.isExit = false := by
  obtain ⟨_ | id, _ | method, params⟩ := m <;> simp_all [edits, awaits, isExit]

/-- What comes of a message: the server after it, and what the server writes. -/
inductive Handled (s : MockServer) : Option Incoming → MockServer → List String → Prop where
  | ignored {m : Option Incoming}
      (h : ∀ m' ∈ m, m'.awaits s.options = false ∧ m'.isExit = false ∧ m'.edits = false) :
      Handled s m s []
  | edited {m : Incoming} (h : m.edits = true) :
      Handled s (some m) { s with documents := m.note s.documents } []
  | ended {m : Incoming} (h : m.isExit = true) : Handled s (some m) { s with running := false } []
  | answered {m : Incoming} {r : Reply} (h : m.awaits s.options = true)
      (hr : Responds s.options m r) : Handled s (some m) (s.after r) (s.saying r)

theorem handled_handleNotification (s : MockServer) (method : String) (params : Json) :
    Handled s (some ⟨none, some method, params⟩) (s.handleNotification method params).1
      ((s.handleNotification method params).2.filterMap Act.body?) := by
  unfold handleNotification
  by_cases hexit : method = "exit"
  · rw [if_pos hexit]
    exact .ended (by simp [Incoming.isExit, hexit])
  · rw [if_neg hexit]
    by_cases hedits : method ∈ editing
    · exact .edited (m := ⟨none, some method, params⟩) (by simp [Incoming.edits, hedits])
    · rw [updated_of_not_mem hedits]
      refine .ignored fun m' hm => ?_
      obtain rfl := Option.mem_some.1 hm
      exact ⟨rfl, by simp [Incoming.isExit, hexit], by simp [Incoming.edits, hedits]⟩

/-- What a response does by itself. -/
theorem respond_eq (hs : s.running = true) (id : Json) (key : String) (content : Json) :
    s.respond id key content =
      ({ s with
          responses := s.responses + 1
          running := !s.options.dropsAt (s.responses + 1) },
        .write (Json.compact (.object [("jsonrpc", .string "2.0"), ("id", id), (key, content)])) ::
          if s.options.dropsAt (s.responses + 1) then [.exit 1] else []) := by
  simp only [respond, Options.dropsAt]
  split
  · next hdrops => simp [hdrops]
  · next hdrops => simp [hdrops, hs]

/-- A response by itself goes without a question. -/
theorem answered_of_respond {id content : Json} {method key : String} {params : Json} {r : Reply}
    (hs : s.running = true) (hawaits : method ∉ s.options.silentOn)
    (hr : Responds s.options ⟨some id, some method, params⟩ r)
    (hbody : r.body = Json.compact (.object [("jsonrpc", .string "2.0"), ("id", id), (key, content)]))
    (hasks : s.options.asksAfter r (s.responses + 1) = false) :
    Handled s (some ⟨some id, some method, params⟩) (s.respond id key content).1
      ((s.respond id key content).2.filterMap Act.body?) := by
  have hafter : (s.respond id key content).1 = s.after r := by
    rw [respond_eq hs]
    simp [after, hasks]
  have hsaying : (s.respond id key content).2.filterMap Act.body? = s.saying r := by
    rw [respond_eq hs, ← hbody]
    simp only [saying, hasks]
    split <;> rfl
  rw [hafter, hsaying]
  exact .answered (by simpa [Incoming.awaits] using hawaits) hr

theorem handled_answer (hs : s.running = true) {method : String}
    (hawaits : method ∉ s.options.silentOn) (id params : Json) :
    Handled s (some ⟨some id, some method, params⟩) (s.answer id method params).1
      ((s.answer id method params).2.filterMap Act.body?) := by
  unfold answer
  by_cases hfails : method ∈ s.options.failsOn
  · rw [if_pos hfails]
    exact answered_of_respond hs hawaits (.failing hfails) rfl
      (by simp [Options.asksAfter, Reply.greets, Except.toBool])
  · rw [if_neg hfails]
    have hknown := result?_isSome_iff s method params
    cases hresult : s.result? method params with
    | none =>
      rw [hresult] at hknown
      exact answered_of_respond hs hawaits (.unknown hfails (by simpa using hknown)) rfl
        (by simp [Options.asksAfter, Reply.greets, Except.toBool])
    | some result =>
      rw [hresult] at hknown
      have hr : Responds s.options ⟨some id, some method, params⟩ ⟨id, method, .ok result⟩ :=
        .result hfails (by simpa using hknown) result
      have hrunning : (s.respond id "result" result).1.running =
          !s.options.dropsAt (s.responses + 1) := by
        rw [respond_eq hs]
      have hoptions : (s.respond id "result" result).1.options = s.options := by
        rw [respond_eq hs]
      simp only [hoptions, hrunning, Bool.not_eq_true']
      by_cases hgoes : method = "initialize" ∧ s.options.asksConfiguration = true ∧
          s.options.dropsAt (s.responses + 1) = false
      · have hasks : s.options.asksAfter ⟨id, method, .ok result⟩ (s.responses + 1) = true := by
          simp [Options.asksAfter, Reply.greets, Except.toBool, hgoes]
        have hafter : s.after ⟨id, method, .ok result⟩ =
            (s.respond id "result" result).1.askConfiguration.1 := by
          rw [respond_eq hs]
          simp [after, hasks, askConfiguration]
        have hsaying : s.saying ⟨id, method, .ok result⟩ = ((s.respond id "result" result).2 ++
            (s.respond id "result" result).1.askConfiguration.2).filterMap Act.body? := by
          rw [respond_eq hs, saying, hasks, hgoes.2.2]
          rfl
        rw [if_pos hgoes, ← hafter, ← hsaying]
        exact .answered (by simpa [Incoming.awaits] using hawaits) hr
      · rw [if_neg hgoes]
        refine answered_of_respond hs hawaits hr rfl (Bool.eq_false_iff.2 fun hasks => hgoes ?_)
        simpa [Options.asksAfter, Reply.greets, Except.toBool, and_comm, and_assoc,
          and_left_comm] using hasks

/-- Every body comes to one of four things. -/
theorem handled_handleBody (hs : s.running = true) (body : String) :
    Handled s (Incoming.ofBody? body) (s.handleBody body).1
      ((s.handleBody body).2.filterMap Act.body?) := by
  unfold handleBody
  split
  · next hnone =>
    rw [hnone]
    exact .ignored nofun
  · next hreply =>
    rw [hreply]
    refine .ignored fun m hm => ?_
    obtain rfl := Option.mem_some.1 hm
    exact ⟨by simp [Incoming.awaits], by simp [Incoming.isExit], by simp [Incoming.edits]⟩
  · next method params hnotification =>
    rw [hnotification]
    exact handled_handleNotification s method params
  · next id method params hrequest =>
    rw [hrequest]
    unfold handleRequest
    by_cases hawaits : method ∈ s.options.silentOn
    · rw [if_pos hawaits]
      refine .ignored fun m hm => ?_
      obtain rfl := Option.mem_some.1 hm
      exact ⟨by simp [Incoming.awaits, hawaits], rfl, rfl⟩
    · rw [if_neg hawaits]
      have hanswer := handled_answer hs hawaits id params
      generalize s.answer id method params = answered at hanswer
      obtain ⟨t, acts⟩ := answered
      have hpause : (if 0 < t.options.delay then .pause t.options.delay :: acts
          else acts).filterMap Act.body? = acts.filterMap Act.body? := by
        split <;> rfl
      simp only [hpause]
      exact hanswer

/-! ### A whole run -/

theorem woven_concat (o : Options) (replies : List Reply) (r : Reply) :
    woven o (replies ++ [r]) = woven o replies ++
      r.body :: if o.asksAfter r (replies.length + 1) then
        [question ((replies ++ [r]).countP Reply.greets)] else [] := by
  have hearlier : replies.zipIdx.flatMap (fun (r', i) =>
      r'.body :: if o.asksAfter r' (i + 1) then
        [question (((replies ++ [r]).take (i + 1)).countP Reply.greets)] else []) =
      woven o replies := by
    refine List.flatMap_congr fun (r', i) hmem => ?_
    have hlt : i + 1 ≤ replies.length := (List.mem_zipIdx' hmem).1
    simp only [List.take_append_of_le_length hlt]
  have hall : (replies ++ [r]).take (replies.length + 1) = replies ++ [r] :=
    List.take_of_length_le (by simp)
  rw [woven, List.zipIdx_append, List.flatMap_append, hearlier]
  simp [hall]

variable {ms : List Incoming} {replies : List Reply} {written : List String}

/-- What one more message has to be to end a run. -/
theorem stops_concat (h : ¬ Stops o ms) : Stops o (ms ++ [m]) ↔
    m.isExit = true ∨ m.awaits o = true ∧ o.dropsAt ((ms.filter (·.awaits o)).length + 1) = true := by
  obtain ⟨hexit, hdrops⟩ := not_or.1 h
  simp only [not_exists, not_and] at hexit hdrops
  have hcount : ((ms ++ [m]).filter (·.awaits o)).length =
      (ms.filter (·.awaits o)).length + (m.awaits o).toNat := by
    rw [List.filter_append, List.length_append]
    cases hm : m.awaits o <;> simp [hm]
  unfold Stops
  simp only [hcount, List.mem_append, List.mem_singleton, Options.dropsAt, Option.any_eq_true]
  constructor
  · rintro (⟨m', hm | rfl, hexit'⟩ | ⟨n, hn, hle⟩)
    · exact absurd hexit' (hexit m' hm)
    · exact .inl hexit'
    · have hlt := hdrops n hn
      cases hm : m.awaits o with
      | false => simp [hm] at hle; omega
      | true =>
        simp only [hm, Bool.toNat_true] at hle
        exact .inr ⟨rfl, n, hn, by simp; omega⟩
  · rintro (hexit' | ⟨hm, n, hn, hle⟩)
    · exact .inl ⟨m, .inr rfl, hexit'⟩
    · refine .inr ⟨n, hn, ?_⟩
      simp only [hm, Bool.toNat_true, decide_eq_true_eq] at hle ⊢
      omega

/-- What the server has come to when it has handled some messages with these replies, and has
written these texts. -/
structure Served (o : Options) (ms : List Incoming) (s : MockServer) (replies : List Reply)
    (written : List String) : Prop where
  options : s.options = o
  responds : List.Forall₂ (Responds o) (ms.filter (·.awaits o)) replies
  written : written = woven o replies
  documents : s.documents = (ms.filter (·.edits)).foldl Incoming.note []
  responses : s.responses = replies.length
  /-- As long as the server runs, it has asked after each greeting. -/
  questions : s.running = true → o.asksConfiguration = true →
    s.questions = replies.countP Reply.greets
  running : s.running = true ↔ ¬ Stops o ms

namespace Served

theorem start (o : Options) : Served o [] (start o) [] [] where
  options := rfl
  responds := .nil
  written := rfl
  documents := rfl
  responses := rfl
  questions _ _ := rfl
  running := by simp [Stops, MockServer.start]

/-- A message to which there is no response. -/
theorem silent (h : Served o ms s replies written) (hs : s.running = true) {t : MockServer}
    (hawaits : m.awaits o = false)
    (ht : t = { s with documents := t.documents, running := t.running })
    (hdocuments : t.documents = if m.edits then m.note s.documents else s.documents)
    (hrunning : t.running = !m.isExit) : Served o (ms ++ [m]) t replies written where
  options := by
    rw [ht]
    exact h.options
  responds := by
    rw [List.filter_append]
    simpa [hawaits] using h.responds
  written := h.written
  documents := by
    rw [hdocuments, List.filter_append, List.foldl_append, ← h.documents]
    cases hedits : m.edits <;> simp [hedits]
  responses := by
    rw [ht]
    exact h.responses
  questions _ hasks := by
    rw [ht]
    exact h.questions hs hasks
  running := by
    rw [stops_concat (h.running.1 hs), hrunning]
    simp [hawaits]

/-- One more message. -/
theorem step (h : Served o ms s replies written) (hs : s.running = true)
    {message : Option Incoming} {t : MockServer} {texts : List String}
    (hhandled : Handled s message t texts) :
    ∃ replies', Served o (ms ++ message.toList) t replies' (written ++ texts) := by
  have hgoes := h.running.1 hs
  cases hhandled with
  | ignored hignored =>
    refine ⟨replies, ?_⟩
    rw [List.append_nil]
    cases message with
    | none =>
      rw [Option.toList_none, List.append_nil]
      exact h
    | some m =>
      obtain ⟨hawaits, hexit, hedits⟩ := hignored m rfl
      exact h.silent hs (h.options ▸ hawaits) rfl (by simp [hedits]) (by rw [hs, hexit]; rfl)
  | edited hedits =>
    obtain ⟨hawaits, hexit⟩ := Incoming.not_of_edits (o := o) hedits
    rw [List.append_nil]
    exact ⟨replies, h.silent hs hawaits rfl (by simp [hedits]) (by rw [hexit]; exact hs)⟩
  | ended hexit =>
    obtain ⟨hawaits, hedits⟩ := Incoming.not_of_isExit (o := o) hexit
    rw [List.append_nil]
    exact ⟨replies, h.silent hs hawaits rfl (by simp [hedits]) (by rw [hexit]; rfl)⟩
  | @answered m r hawaits hr =>
    rw [h.options] at hawaits hr
    obtain ⟨hedits, hexit⟩ := Incoming.not_of_awaits hawaits
    have hlength : (ms.filter (·.awaits o)).length = replies.length := h.responds.length_eq
    have hquestion (hasks : o.asksAfter r (replies.length + 1) = true) :
        s.questions + 1 = (replies ++ [r]).countP Reply.greets := by
      simp only [Options.asksAfter, Bool.and_eq_true] at hasks
      rw [h.questions hs hasks.1.1, List.countP_append]
      simp [hasks.1.2]
    have hsaying : s.saying r = r.body :: if o.asksAfter r (replies.length + 1) then
        [question ((replies ++ [r]).countP Reply.greets)] else [] := by
      rw [saying, h.options, h.responses]
      by_cases hasks : o.asksAfter r (replies.length + 1) = true
      · rw [if_pos hasks, if_pos hasks, hquestion hasks]
      · rw [if_neg hasks, if_neg hasks]
    refine ⟨replies ++ [r], h.options, ?_, ?_, ?_, ?_, fun hruns hasks => ?_, ?_⟩
    · rw [Option.toList_some, List.filter_append]
      refine List.rel_append h.responds ?_
      simp [hawaits, hr]
    · rw [hsaying, woven_concat, ← h.written]
    · rw [Option.toList_some, List.filter_append, List.foldl_append, ← h.documents]
      simp [hedits, after]
    · simp [after, h.responses]
    · simp only [after, h.options, h.responses, Bool.not_eq_true'] at hruns ⊢
      rw [List.countP_append, ← h.questions hs hasks]
      cases hgreets : r.greets <;> simp [Options.asksAfter, hasks, hruns, hgreets]
    · rw [Option.toList_some, stops_concat hgoes, hlength]
      simp [after, h.options, h.responses, hawaits, hexit]

end Served

theorem messages_cons (body : String) (bodies : List String) :
    messages (body :: bodies) = (Incoming.ofBody? body).toList ++ messages bodies := by
  cases h : Incoming.ofBody? body <;> simp [messages, h]

/-- Bodies one after the other. The server handles them up to the one that ends it. -/
theorem Served.run (h : Served o ms s replies written) (hs : s.running = true)
    (bodies : List String) :
    ∃ handled later replies', bodies = handled ++ later ∧
      Served o (ms ++ messages handled) (s.handleBodies bodies).1 replies'
        (written ++ (s.handleBodies bodies).2.filterMap Act.body?) ∧
      (∀ front last rest, handled = front ++ last :: rest → ¬ Stops o (ms ++ messages front)) ∧
      (later = [] ∨ Stops o (ms ++ messages handled)) := by
  induction bodies generalizing s ms replies written with
  | nil => exact ⟨[], [], replies, rfl, by simpa [handleBodies, messages] using h, by simp, .inl rfl⟩
  | cons body bodies ih =>
    obtain ⟨replies', hstep⟩ := h.step hs (handled_handleBody hs body)
    -- Before the first body the server runs, so nothing has ended it.
    have hfirst : ¬ Stops o (ms ++ messages []) := by
      simpa [messages] using h.running.1 hs
    cases hrunning : (s.handleBody body).1.running with
    | false =>
      have hstops : Stops o (ms ++ (Incoming.ofBody? body).toList) := by
        by_contra hgoes
        rw [hstep.running.2 hgoes] at hrunning
        contradiction
      have hmessages : messages [body] = (Incoming.ofBody? body).toList := by
        rw [messages_cons]
        exact List.append_nil _
      refine ⟨[body], bodies, replies', rfl, ?_, fun front last rest heq => ?_, .inr ?_⟩
      · simpa [handleBodies, hrunning, hmessages] using hstep
      · obtain ⟨rfl, -⟩ | ⟨front', rfl, hnil⟩ := List.cons_eq_append_iff.1 heq
        · exact hfirst
        · simp at hnil
      · rwa [hmessages]
    | true =>
      obtain ⟨handled, later, replies', heq, hserved, hfronts, hlater⟩ := ih hstep hrunning
      refine ⟨body :: handled, later, replies', by rw [heq]; rfl, ?_, fun front last rest hsplit => ?_,
        ?_⟩
      · simpa [handleBodies, hrunning, messages_cons] using hserved
      · obtain ⟨rfl, -⟩ | ⟨front', rfl, hrest⟩ := List.cons_eq_append_iff.1 hsplit
        · exact hfirst
        · have hfront := hfronts front' last rest hrest
          rwa [messages_cons, ← List.append_assoc]
      · rwa [messages_cons, ← List.append_assoc]

/-- What is taken in shows as what its bodies do. -/
theorem takeIn_shows (s : MockServer) (h : Haul) :
    (s.takeIn h).2.filterMap Act.body? = (s.handleBodies h.bodies).2.filterMap Act.body? ∧
      (s.takeIn h).1.documents = (s.handleBodies h.bodies).1.documents ∧
      (s.takeIn h).1.running = ((s.handleBodies h.bodies).1.running && !h.overflow) := by
  simp only [takeIn]
  cases hrunning : (s.handleBodies h.bodies).1.running with
  | false => simp [hrunning]
  | true =>
    cases h.overflow with
    | false => simp
    | true => simp [Act.body?]

/-- A response is due to each message handled before the last, so there is room for it. -/
theorem length_le_of_fronts {handled : List String} {n : Nat} (hn : o.dropAfter = some n)
    (hfronts : ∀ front last rest, handled = front ++ last :: rest → ¬ Stops o (messages front)) :
    ((messages handled).filter (·.awaits o)).length ≤ max 1 n := by
  obtain rfl | ⟨front, last, rfl⟩ := handled.eq_nil_or_concat
  · simp [messages]
  · rw [List.concat_eq_append] at hfronts ⊢
    have hroom : ¬ max 1 n ≤ ((messages front).filter (·.awaits o)).length := fun hle =>
      hfronts front last [] rfl (.inr ⟨n, hn, hle⟩)
    have hlast : ((messages [last]).filter (·.awaits o)).length ≤ 1 :=
      Nat.le_trans (List.length_filter_le _ _) (List.length_filterMap_le _ _)
    have hsplit : messages (front ++ [last]) = messages front ++ messages [last] :=
      List.filterMap_append
    rw [hsplit, List.filter_append, List.length_append]
    omega

/-- What a server does with a stream, in whatever reads it comes. Of the bodies in it, the server
handles those up to the first that ends it. The requests among these to which it responds have one
response each, in their order. What it writes are the responses, with the questions that follow
greetings. The open documents are what the notifications about them make of none. -/
theorem feedAll_transcript (o : Options) (reads : List (List UInt8)) :
    let taken := haul reads.flatten
    let run := (start o).feedAll reads
    ∃ handled later replies, taken.bodies = handled ++ later ∧
      List.Forall₂ (Responds o) ((messages handled).filter (·.awaits o)) replies ∧
      run.2.filterMap Act.body? = woven o replies ∧
      run.1.documents = ((messages handled).filter (·.edits)).foldl Incoming.note [] ∧
      (∀ front last rest, handled = front ++ last :: rest → ¬ Stops o (messages front)) ∧
      (later = [] ∨ Stops o (messages handled)) ∧
      (run.1.running = true ↔ ¬ Stops o (messages handled) ∧ taken.overflow = false) ∧
      ∀ n, o.dropAfter = some n → replies.length ≤ max 1 n := by
  intro taken run
  obtain ⟨halike, hacts⟩ := feedAll_eq (s := start o) reads rfl rfl
  obtain ⟨hwritten, hdocuments, hrunning⟩ := takeIn_shows (start o) taken
  obtain ⟨handled, later, replies, heq, hserved, hfronts, hlater⟩ :=
    (Served.start o).run rfl taken.bodies
  refine ⟨handled, later, replies, heq, hserved.responds, ?_, ?_, hfronts, hlater, ?_,
    fun n hn => ?_⟩
  · rw [hacts]
    exact hwritten.trans hserved.written
  · rw [← halike.documents]
    exact hdocuments.trans hserved.documents
  · have hsame : run.1.running = ((start o).takeIn taken).1.running :=
      halike.running.symm
    have hgoes : ((start o).handleBodies taken.bodies).1.running = true ↔
        ¬ Stops o (messages handled) := hserved.running
    rw [hsame, hrunning, Bool.and_eq_true, hgoes, Bool.not_eq_true']
  · rw [← hserved.responds.length_eq]
    exact length_le_of_fronts hn hfronts

end CallHierarchy.MockServer
