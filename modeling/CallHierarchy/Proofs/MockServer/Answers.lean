import CallHierarchy.Document
import CallHierarchy.MockServer.Peer
import CallHierarchy.Proofs.MockServer.Intake
import CallHierarchy.Proofs.MockServer.Items
import CallHierarchy.Proofs.Source.Lookup

/-! What the mock server without faults does between two messages: it takes in a frame at once,
opens documents, and answers the questions about calls from the call graph of their texts. -/

namespace CallHierarchy

namespace MockServer

open Source

/-- The server runs, behaves, has nothing left to take in, and has certain documents open. -/
structure Serves (s : MockServer) (documents : Documents) : Prop where
  options : s.options = .plain
  unread : s.unread = []
  running : s.running = true
  documents : s.documents = documents

theorem serves_start : (start .plain).Serves [] := ⟨rfl, rfl, rfl, rfl⟩

variable {s : MockServer} {documents : Documents}

/-- A frame by itself is its body. -/
theorem Serves.feed_encode (h : s.Serves documents) {body : String}
    (hcounted : (Frame.encode body).length ≤ Decimal.max64)
    (hruns : (s.handleBody body).1.running = true) :
    s.feed (Frame.encode body) =
      ({ (s.handleBody body).1 with unread := [] }, (s.handleBody body).2) := by
  have hintake := intake_encode hcounted []
  rw [List.append_nil] at hintake
  have hrest (s : MockServer) : s.run [] = ({ s with unread := [] }, []) := by
    rw [run]
    split <;> simp_all [intake_nil]
  rw [feed, if_pos h.running, h.unread, List.nil_append, run]
  split
  · simp_all
  · simp_all
  · next text rest hbody =>
    obtain ⟨rfl, rfl⟩ := Intake.body.inj (hintake.symm.trans hbody)
    simp only [hruns, if_true, hrest, List.append_nil]

/-- The server answers a request whose method it knows with the result. -/
theorem Serves.feed_request (h : s.Serves documents) {r : Request} {v : Json}
    (hparams : r.params.Canonical Incoming.innerDepth)
    (hcounted : (Message.frame r.toJson).length ≤ Decimal.max64)
    (hresult : s.result? r.method r.params = some v) :
    peer.feed s (Message.frame r.toJson) = ({ s with responses := s.responses + 1 },
      [.write (Message.frame (Response.toJson ⟨rpcVersion, some r.id, some v, none⟩))]) := by
  have hbody : s.handleBody r.toJson.compact = ({ s with responses := s.responses + 1 },
      [.write (Response.toJson ⟨rpcVersion, some r.id, some v, none⟩).compact]) := by
    simp [handleBody, Incoming.ofBody?_request hparams, handleRequest, answer, hresult,
      h.options, Options.plain, respond]
    rfl
  have hfeed := h.feed_encode hcounted (by rw [hbody]; exact h.running)
  rw [hbody] at hfeed
  simp only [peer, Message.frame, hfeed, List.map_cons, List.map_nil, Act.toPeer]
  rw [← h.unread]

theorem canonical_openParams (d : Document) : d.openParams.Canonical 2 := by
  have hversion : (Json.int32 d.version).Canonical 0 := by
    have hlow := Int32.le_toInt d.version
    have hhigh := Int32.toInt_lt d.version
    exact .integer ⟨by omega, by omega⟩
  refine .object (by simp) ?_
  simp only [List.forall_mem_cons]
  refine ⟨.object (show ["languageId", "text", "uri", "version"].Pairwise (· < ·) by decide) ?_,
    nofun⟩
  simp only [List.forall_mem_cons]
  exact ⟨.string _, .string _, .string _, hversion, nofun⟩

/-- The notification that a document is open. -/
def opening (d : Document) : Notification := ⟨rpcVersion, "textDocument/didOpen", d.openParams⟩

/-- The server opens a document, and says nothing to it. -/
theorem Serves.feed_opening (h : s.Serves documents) {d : Document}
    (hcounted : (Message.frame (opening d).toJson).length ≤ Decimal.max64) :
    peer.feed s (Message.frame (opening d).toJson) =
      ({ s with documents := documents.insert d.uri.text d.text }, []) := by
  have hdocuments : updated documents (opening d).method (opening d).params =
      documents.insert d.uri.text d.text := by
    simp [opening, updated, Document.openParams, Json.get?, Dictionary.get?, uriOf, Uri.toJson,
      Json.asString?]
  have hparams : (opening d).params.Canonical Incoming.innerDepth :=
    (canonical_openParams d).mono (by decide)
  have hmethod : (opening d).method ≠ "exit" := by simp [opening]
  have hbody : s.handleBody (opening d).toJson.compact =
      ({ s with documents := documents.insert d.uri.text d.text }, []) := by
    simp [handleBody, Incoming.ofBody?_notification hparams, handleNotification, h.documents,
      hdocuments, hmethod]
  have hfeed := h.feed_encode hcounted (by rw [hbody]; exact h.running)
  rw [hbody] at hfeed
  simp only [peer, Message.frame, hfeed, List.map_nil]
  rw [← h.unread]

/-! ### The results of questions -/

variable {uri : Uri} {text : String} {f : Function}

theorem asNat?_word32 (n : UInt32) : (Json.word32 n).asNat? Decimal.max64 = some n.toNat := by
  have hlt := n.toNat_lt
  have hle : n.toNat ≤ Decimal.max64 := by
    rw [Decimal.max64]
    omega
  exact if_pos hle

/-- What the server says about a place in a name. -/
theorem Serves.result?_prepare (h : s.Serves [(uri.text, text)]) {position : Position}
    (hfound : (CallGraph.build [(uri.text, text)]).atPosition? uri.text text position.line.toNat
      position.character.toNat = some f) :
    s.result? PrepareParams.method (PrepareParams.toJson ⟨uri, position, none⟩) =
      some (.array [itemJson f]) := by
  have hplace : place? (PrepareParams.toJson ⟨uri, position, none⟩) =
      some (uri.text, position.line.toNat, position.character.toNat) := by
    simp [place?, within, PrepareParams.toJson, Json.ofFields, Json.get?, Dictionary.get?,
      Uri.toJson, Json.asString?, Position.toJson, asNat?_word32]
  have hsymbols : symbolsAt [(uri.text, text)] (PrepareParams.toJson ⟨uri, position, none⟩) =
      .array [itemJson f] := by
    simp [symbolsAt, hplace, Dictionary.get?, hfound]
  simp [result?, PrepareParams.method, h.options, Options.plain, h.documents, hsymbols]

/-- What the server says about the calls of a function. -/
theorem Serves.result?_calls (h : s.Serves [(uri.text, text)]) (hf : f ∈ functions uri.text text)
    (hfits : f.Fits) (direction : Direction) :
    s.result? (CallsParams.method direction)
        (CallsParams.toJson ⟨itemOf uri f, none, none⟩) =
      some (groupsJson (Call.key direction)
        ((CallGraph.build [(uri.text, text)]).groups direction f)) := by
  have huri := (stands_of_mem_functions hf).uri_eq
  have htarget : target? (CallGraph.build [(uri.text, text)])
      (CallsParams.toJson ⟨itemOf uri f, none, none⟩) = some f := by
    have hitem : (CallsParams.toJson ⟨itemOf uri f, none, none⟩).get? "item" =
        some (itemJson f) := by
      rw [toJson_callsParams huri hfits]
      rfl
    rw [target?_itemJson hitem (Nat.le_trans hfits.line_lt.le (by decide)), huri,
      CallGraph.find?_function hf]
  cases direction with
  | incoming =>
    simp [result?, CallsParams.method, h.options, Options.plain, h.documents, callersOf, htarget,
      Call.key, CallGraph.groups]
  | outgoing =>
    simp [result?, CallsParams.method, h.options, Options.plain, h.documents, calleesOf, htarget,
      Call.key, CallGraph.groups]

end MockServer

end CallHierarchy
