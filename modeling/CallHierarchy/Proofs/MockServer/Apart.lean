import CallHierarchy.Proofs.MockServer.Intake
import CallHierarchy.Proofs.MockServer.Resolution
import CallHierarchy.Proofs.Source.Insertion

/-! One document among others. While it is open, the answers about the functions of the others say
of these what they said before, and once it has been closed, nothing is left of it
(`documents_apart`). -/

namespace CallHierarchy.MockServer

open Source

open CallGraph (apart build)

variable {s : MockServer} {documents : Documents} {params : Json} {uri body method : String}
  {direction : Direction} {f : Function}

/-! ### While it is open -/

/-- The entry is about a function in another document than that at the URI. -/
def entryApart (direction : Direction) (uri : String) (e : Json) : Bool :=
  (e.get? (Call.key direction)).map uriOf ≠ some uri

/-- An answer about calls without the entries about the functions of the document at the URI. -/
def without (direction : Direction) (uri : String) : Json → Json
  | .array answer => .array (answer.filter (entryApart direction uri))
  | other => other

theorem uriOf_itemJson (f : Function) : uriOf (itemJson f) = f.uri := by
  rw [uriOf, (get?_itemJson f).2.1]
  rfl

theorem entryApart_entryJson (direction : Direction) (uri : String)
    (group : Function × List CallSite) :
    entryApart direction uri (entryJson direction group) = apart uri group.1 := by
  rw [entryApart, (about_entryJson direction group).item, Option.map_some, uriOf_itemJson, apart]
  simp

theorem entries_insert (hfresh : uri ∉ documents.map Prod.fst) (text : String)
    (direction : Direction) (hf : f ∈ (build documents).functions) :
    (entries (build (documents.insert uri text)) direction f).filter (entryApart direction uri) =
      entries (build documents) direction f := by
  have hgroups := CallGraph.groups_insert hfresh text direction
    (CallGraph.apart_of_mem_functions hfresh hf)
  rw [entries_eq, entries_eq, ← hgroups, List.filter_map]
  exact congrArg (List.map _) (List.filter_congr fun group _ => entryApart_entryJson _ _ group)

/-- An item that is not of the new document is taken for what it was taken for. -/
theorem target?_insert (hfresh : uri ∉ documents.map Prod.fst) (text : String)
    (hitem : ∀ item, params.get? "item" = some item → uriOf item ≠ uri) :
    target? (build (documents.insert uri text)) params = target? (build documents) params := by
  refine Option.bind_congr fun item hgot => Option.bind_congr fun field hfield =>
    Option.bind_congr fun other hother => ?_
  have huri : uriOf item = other := by rw [uriOf, hfield, Option.bind_some, hother]; rfl
  simp only [CallGraph.find?_insert hfresh text (huri ▸ hitem item hgot)]

theorem mem_of_target? {g : CallGraph} (h : target? g params = some f) : f ∈ g.functions := by
  simp only [target?, Option.bind_eq_bind, Option.bind_eq_some_iff] at h
  obtain ⟨item, -, _, -, uri, -, _, -, name, -, _, -, _, -, line, -, hfind⟩ := h
  exact List.mem_of_find?_eq_some hfind

theorem result?_calls_insert (hfresh : uri ∉ s.documents.map Prod.fst) (text : String)
    (hitem : ∀ item, params.get? "item" = some item → uriOf item ≠ uri)
    (direction : Direction) :
    ({ s with documents := s.documents.insert uri text }.result? (CallsParams.method direction)
      params).map (without direction uri) = s.result? (CallsParams.method direction) params := by
  rw [result?_calls_eq, result?_calls_eq, target?_insert hfresh text hitem, Option.map_some]
  refine congrArg some ?_
  split
  · rfl
  · split
    · next f hf =>
      exact congrArg Json.array (entries_insert hfresh text direction (mem_of_target? hf))
    · rfl

/-! ### Once it is closed -/

/-- The body is that of a notification of the method, about the document at the URI. -/
def Notifies (method uri body : String) : Prop :=
  ∃ params document : Json, Incoming.ofBody? body = some ⟨none, some method, params⟩ ∧
    params.get? "textDocument" = some document ∧ uriOf document = uri

/-- A notification as a client writes it. -/
theorem notifies_compact {n : Notification} {document : Json}
    (hparams : n.params.Canonical Incoming.innerDepth)
    (hdocument : n.params.get? "textDocument" = some document) (huri : uriOf document = uri) :
    Notifies n.method uri n.toJson.compact :=
  ⟨n.params, document, Incoming.ofBody?_notification hparams, hdocument, huri⟩

theorem erase_updated (documents : Documents) (method : String) {document : Json}
    (hdocument : params.get? "textDocument" = some document) :
    (updated documents method params).erase (uriOf document) =
      documents.erase (uriOf document) := by
  rw [updated, hdocument]
  dsimp only
  split
  · exact Dictionary.erase_insert _ _ _
  · split
    · exact Dictionary.erase_insert _ _ _
    · rfl
  · simp [Dictionary.erase]
  · rfl

theorem handleBody_notification (s : MockServer) (hmethod : method ∈ editing)
    (hbody : Incoming.ofBody? body = some ⟨none, some method, params⟩) :
    s.handleBody body = ({ s with documents := updated s.documents method params }, []) := by
  have hexit : method ≠ "exit" := by
    rintro rfl
    simp [editing] at hmethod
  rw [handleBody, hbody]
  exact if_neg hexit

/-- Notifications about a document leave the server as it was, but for that document. -/
theorem handleBodies_notify {bodies : List String} (hrunning : s.running = true)
    (h : ∀ body ∈ bodies, ∃ method ∈ editing, Notifies method uri body) :
    ∃ documents, s.handleBodies bodies = ({ s with documents }, []) ∧
      documents.erase uri = s.documents.erase uri := by
  induction bodies generalizing s with
  | nil => exact ⟨s.documents, rfl, rfl⟩
  | cons body bodies ih =>
    obtain ⟨method, hmethod, params, document, hbody, hdocument, rfl⟩ := h body List.mem_cons_self
    obtain ⟨last, hlast, herase⟩ :=
      @ih { s with documents := updated s.documents method params } hrunning
        fun body hbody => h body (List.mem_cons_of_mem _ hbody)
    refine ⟨last, ?_, herase.trans (erase_updated _ _ hdocument)⟩
    simp only [handleBodies, handleBody_notification s hmethod hbody, hlast]
    exact if_pos hrunning

/-- What a row of notifications about a new document has done goes when the document is closed. -/
theorem handleBodies_closed {edits : List String} {closing : String} (hrunning : s.running = true)
    (hfresh : uri ∉ s.documents.map Prod.fst)
    (hedits : ∀ body ∈ edits, ∃ method ∈ editing, Notifies method uri body)
    (hclosing : Notifies "textDocument/didClose" uri closing) :
    s.handleBodies (edits ++ [closing]) = (s, []) := by
  obtain ⟨documents, hopen, herase⟩ := handleBodies_notify hrunning hedits
  obtain ⟨params, document, hbody, hdocument, rfl⟩ := hclosing
  have hclosed : updated documents "textDocument/didClose" params = s.documents := by
    rw [updated, hdocument]
    exact herase.trans (Dictionary.erase_of_not_mem hfresh)
  rw [handleBodies_append hrunning, hopen]
  simp only [handleBodies, handleBody_notification _ (by decide) hbody, hclosed, if_pos hrunning]
  rfl

/-- A document at a URI of its own does not disturb the others. Whatever its text, the functions of
the others stay while it is open, in their order, and each is found by its document, its name and
its line. The item of one of them is taken for what it was taken for, which is that function if its
line can be counted in 64 bits, and the answers about the calls of the function, without the entries
about functions of the new document, are the answers that there were. Once notifications have opened
the document, changed it any number of times and closed it, the server is in the state that it was
in, and so answers every question as it did. -/
theorem documents_apart (hdocs : (s.documents.map Prod.fst).Nodup)
    (hfresh : uri ∉ s.documents.map Prod.fst) :
    (∀ text, let t : MockServer := { s with documents := s.documents.insert uri text }
      (build t.documents).functions.filter (apart uri) = (build s.documents).functions ∧
      ∀ f ∈ (build s.documents).functions,
        (build t.documents).find? f.uri f.name f.line = some f ∧
        ∀ params : Json, params.get? "item" = some (itemJson f) →
          target? (build t.documents) params = target? (build s.documents) params ∧
          (f.line ≤ Decimal.max64 → target? (build t.documents) params = some f) ∧
          ∀ direction, (t.result? (CallsParams.method direction) params).map
            (without direction uri) = s.result? (CallsParams.method direction) params) ∧
    (s.running = true → ∀ edits closing,
      (∀ body ∈ edits, ∃ method ∈ editing, Notifies method uri body) →
      Notifies "textDocument/didClose" uri closing →
      s.handleBodies (edits ++ [closing]) = (s, [])) := by
  refine ⟨fun text => ⟨CallGraph.functions_insert hfresh text, fun f hf => ?_⟩,
    fun hrunning edits closing => handleBodies_closed hrunning hfresh⟩
  have hother : f.uri ≠ uri := of_decide_eq_true (CallGraph.apart_of_mem_functions hfresh hf)
  have hfound : (build (s.documents.insert uri text)).find? f.uri f.name f.line = some f := by
    rw [CallGraph.find?_insert hfresh text hother, CallGraph.find?_build hdocs hf]
  refine ⟨hfound, fun params hparams => ?_⟩
  have hitem (item : Json) (hgot : params.get? "item" = some item) : uriOf item ≠ uri := by
    obtain rfl := Option.some.inj (hparams.symm.trans hgot)
    rwa [uriOf_itemJson]
  refine ⟨target?_insert hfresh text hitem, fun hline => ?_,
    result?_calls_insert hfresh text hitem⟩
  rw [target?_itemJson hparams hline, hfound]

/-- A document whose URI is between those of the two sources is opened. -/
def openBetween : Notification :=
  ⟨rpcVersion, "textDocument/didOpen", .object [
    ("textDocument", .object [("text", .string "fn g()"), ("uri", .string "aa")])]⟩

/-- It comes to call a function of the first source. -/
def changeBetween : Notification :=
  ⟨rpcVersion, "textDocument/didChange", .object [
    ("contentChanges", .array [.object [("text", .string "fn g(): f()")]]),
    ("textDocument", .object [("uri", .string "aa")])]⟩

def closeBetween : Notification :=
  ⟨rpcVersion, "textDocument/didClose", .object [("textDocument", .object [("uri", .string "aa")])]⟩

/-- The second source calls its function too, as long as it is open. -/
theorem documents_apart_twoSources :
    let s : MockServer := { start .plain with documents := twoSources }
    let t : MockServer := { s with documents := s.documents.insert "aa" "fn g(): f()" }
    let params : Json := .object [("item", itemJson secondF)]
    (s.documents.map Prod.fst).Nodup ∧ "aa" ∉ s.documents.map Prod.fst ∧
      target? (build t.documents) params = some secondF ∧
      (∀ direction, (t.result? (CallsParams.method direction) params).map
        (without direction "aa") = s.result? (CallsParams.method direction) params) ∧
      (entries (build t.documents) .outgoing secondF).length = 2 ∧
      (entries (build s.documents) .outgoing secondF).length = 1 ∧
      s.handleBodies ([openBetween.toJson.compact, changeBetween.toJson.compact] ++
        [closeBetween.toJson.compact]) = (s, []) := by
  intro s t params
  have hdocs : (s.documents.map Prod.fst).Nodup := by decide
  have hfresh : "aa" ∉ s.documents.map Prod.fst := by decide
  have hf : secondF ∈ (build s.documents).functions := by decide +kernel
  have hparams {ms : List (String × Json)} (hkeys : (ms.map Prod.fst).Pairwise (· < ·))
      (hms : ∀ m ∈ ms, m.2.Canonical 2) : (Json.object ms).Canonical Incoming.innerDepth :=
    (Json.Canonical.object hkeys hms).mono (by decide)
  have hdocument : (Json.object [("uri", .string "aa")]).Canonical 2 :=
    .object (by decide) (by simpa using .string _)
  have hopening : Notifies openBetween.method "aa" openBetween.toJson.compact := by
    refine notifies_compact (hparams (by decide) ?_) rfl rfl
    rw [List.forall_mem_singleton]
    exact .object (by decide) (by simpa using ⟨.string _, .string _⟩)
  have hchange : Notifies changeBetween.method "aa" changeBetween.toJson.compact := by
    refine notifies_compact (hparams (by decide) ?_) rfl rfl
    rw [List.forall_mem_cons, List.forall_mem_singleton]
    exact ⟨.array (by simpa using .object (by decide) (by simpa using .string _)), hdocument⟩
  have hclosing : Notifies closeBetween.method "aa" closeBetween.toJson.compact :=
    notifies_compact (hparams (by decide) (List.forall_mem_singleton.2 hdocument)) rfl rfl
  obtain ⟨hopen, hclosed⟩ := documents_apart hdocs hfresh
  obtain ⟨-, htarget, hanswers⟩ := ((hopen "fn g(): f()").2 secondF hf).2 params rfl
  refine ⟨hdocs, hfresh, htarget (by decide), hanswers, by decide +kernel, by decide +kernel,
    hclosed rfl _ _ ?_ hclosing⟩
  rw [List.forall_mem_cons, List.forall_mem_singleton]
  exact ⟨⟨_, by decide, hopening⟩, ⟨_, by decide, hchange⟩⟩

end CallHierarchy.MockServer
