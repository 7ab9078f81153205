import CallHierarchy.Client.Session
import CallHierarchy.Proofs.Client.Exchange
import CallHierarchy.Proofs.MockServer.Answers
import CallHierarchy.Proofs.Source.Groups
import CallHierarchy.Proofs.Tree.Walk

/-! A client in a session with the mock server without faults. It opens a document, and asks about
the places and the functions in it. Each question comes to the answer that the call graph of the
document gives, and leaves the session ready for the next one. -/

namespace CallHierarchy

namespace Client

section Transport

variable {ω α : Type} {peer : Peer ω} {timeout : Nat} {link link' : Link ω} {method : String}
  {params v : Json}

/-- A result of the right type is what a question comes to. -/
theorem Transport.ask_run {read : Json → Option α} {x : α}
    (h : link.request peer timeout method params = (.ok v, link')) (hread : read v = some x) :
    ((Link.transport peer timeout).ask read method params).run.run link = (.ok x, link') := by
  have hrequest : ((Link.transport peer timeout).request method params).run.run link =
      (.ok v, link') := h
  refine (run_bind_of_ok hrequest).trans ?_
  rw [hread]
  rfl

end Transport

end Client

namespace MockServer

open Client Source

/-- The lines and columns of the document are numbers of 32 bits, and every message about it is a
text of less than `2 ^ 63` bytes, as all texts in memory are. -/
structure Fitting (d : Document) : Prop where
  lines_le : (Text.lines d.text.toList).length ≤ 2 ^ 32
  width_lt : ∀ line ∈ Text.lines d.text.toList, Utf8.width line < 2 ^ 32
  opening_lt : d.openParams.compact.utf8ByteSize < 2 ^ 63
  item_lt : ∀ f ∈ functions d.uri.text d.text, (itemJson f).compact.utf8ByteSize < 2 ^ 63
  calls_lt : ∀ f ∈ functions d.uri.text d.text, ∀ direction,
    (groupsJson (Call.key direction) ((CallGraph.build [(d.uri.text, d.text)]).groups direction
      f)).compact.utf8ByteSize < 2 ^ 63

/-- Between two questions, with one document open. -/
structure Ready (d : Document) (link : Link MockServer) : Prop where
  quiet : link.Quiet
  serves : link.server.Serves [(d.uri.text, d.text)]

variable {d : Document} {link : Link MockServer} {timeout : Nat} {f : Function}

/-! ### Positions -/

theorem Fitting.lt_of_getElem? (h : Fitting d) {index : Nat} {line : List Char}
    (hline : (Text.lines d.text.toList)[index]? = some line) :
    index < 2 ^ 32 ∧ Utf8.width line < 2 ^ 32 := by
  obtain ⟨hlt, -⟩ := List.getElem?_eq_some_iff.1 hline
  exact ⟨Nat.lt_of_lt_of_le hlt h.lines_le, h.width_lt line (List.mem_of_getElem? hline)⟩

theorem Fitting.function (h : Fitting d) (hf : f ∈ functions d.uri.text d.text) : f.Fits := by
  have hstands := stands_of_mem_functions hf
  obtain ⟨line, before, after, hline, hnamed, hcolumn⟩ := hstands.defined
  obtain ⟨last, hlast, hend⟩ := hstands.ended
  obtain ⟨hline_lt, hwidth⟩ := h.lt_of_getElem? hline
  obtain ⟨hlast_lt, hlastWidth⟩ := h.lt_of_getElem? hlast
  rw [hnamed.line_eq, Utf8.width_append, Utf8.width_append, Utf8.width_toList] at hwidth
  have hindent := hstands.indent_le
  exact ⟨by omega, by rw [Function.nameWidth]; omega, hline_lt, hlast_lt, by omega⟩

theorem Fitting.call (h : Fitting d) {s : CallSite}
    (hs : s.Stands (functions d.uri.text d.text) (Text.lines d.text.toList)) : s.Fits := by
  obtain ⟨line, before, after, hline, heq, hcolumn⟩ := hs.named
  obtain ⟨hline_lt, hwidth⟩ := h.lt_of_getElem? hline
  rw [heq, Utf8.width_append, Utf8.width_append, Utf8.width_toList] at hwidth
  exact ⟨hline_lt, by rw [Function.nameWidth]; omega⟩

theorem Fitting.groups (h : Fitting d) (direction : Direction) (f : Function) :
    Fit d.uri ((CallGraph.build [(d.uri.text, d.text)]).groups direction f) := by
  have hfunction {e : Function × List CallSite}
      (he : e ∈ (CallGraph.build [(d.uri.text, d.text)]).groups direction f) :
      e.1 ∈ functions d.uri.text d.text := CallGraph.mem_functions_of_mem_groups he
  refine ⟨fun e he => (stands_of_mem_functions (hfunction he)).uri_eq,
    fun e he => h.function (hfunction he), fun e he s hs => ?_⟩
  rw [CallGraph.groups_eq] at he
  exact h.call (CallGraph.stands_of_mem_calls (CallGraph.mem_calls_of_mem_group he hs))

theorem Fitting.width_uri_lt (h : Fitting d) : Utf8.width d.uri.toJson.print < 2 ^ 63 := by
  have hopening := h.opening_lt
  rw [Json.utf8ByteSize_compact] at hopening
  let members : List (String × Json) := [("languageId", .string d.language),
    ("text", .string d.text), ("uri", d.uri.toJson), ("version", .int32 d.version)]
  have hdocument := Json.width_member_le (show ("uri", d.uri.toJson) ∈ members by simp [members])
  have hparams := Json.width_member_le
    (List.mem_singleton_self ("textDocument", Json.object members))
  exact Nat.lt_of_le_of_lt (Nat.le_trans hdocument hparams) hopening

/-! ### Questions -/

/-- A question whose answer is a result of the right type. -/
theorem Ready.ask_run (h : Ready d link) (htimeout : 0 < timeout) {α : Type}
    {read : Json → Option α} {x : α} {method : String} {params v : Json}
    (hparams : params.Canonical Incoming.innerDepth)
    (hsize : Utf8.width (Json.printString method) + Utf8.width params.print < 2 ^ 63 + 2 ^ 61)
    (hresult : link.server.result? method params = some v)
    (hv : v.Canonical (Json.Reader.maxDepth - 1)) (hvsize : Utf8.width v.print < 2 ^ 63 + 2 ^ 61)
    (hread : read v = some x) :
    ∃ link', ((Link.transport peer timeout).ask read method params).run.run link = (.ok x, link') ∧
      Ready d link' := by
  have hcounted := Message.length_frame_le (Nat.le_trans
    (Request.width_print_le (Int64.ofNat (link.state.issued + 1)) method params) (by omega))
  have hfeed := h.serves.feed_request (r := ⟨rpcVersion, State.idAfter link.state.issued, method,
    params⟩) hparams hcounted hresult
  obtain ⟨link', hrequest, hquiet, hserver⟩ := h.quiet.request htimeout hfeed
    (Message.sendable_response _ hv hvsize)
  refine ⟨link', Transport.ask_run hrequest hread, hquiet, ?_⟩
  rw [hserver]
  exact ⟨h.serves.options, h.serves.unread, h.serves.running, h.serves.documents⟩

/-- A document is opened in a session that has none. -/
theorem openDocument_run (timeout : Nat) (hquiet : link.Quiet) (hserves : link.server.Serves [])
    (hd : Fitting d) :
    ∃ link', ((Link.transport peer timeout).openDocument d).run.run link = (.ok (), link') ∧
      Ready d link' := by
  have hopening := hd.opening_lt
  rw [Json.utf8ByteSize_compact] at hopening
  have hcounted : (Message.frame (opening d).toJson).length ≤ Decimal.max64 := by
    have hmethod : Utf8.width (Json.printString "textDocument/didOpen") = 22 := by decide
    have hwidth := Notification.width_print_le "textDocument/didOpen" d.openParams
    exact Message.length_frame_le (Nat.le_trans hwidth (by omega))
  obtain ⟨link', hnotify, hquiet', hserver⟩ := hquiet.notify (hserves.feed_opening hcounted)
  refine ⟨link', hnotify, hquiet', ?_⟩
  rw [hserver]
  exact ⟨hserves.options, hserves.unread, hserves.running, rfl⟩

theorem canonical_prepareParams (uri : Uri) (position : Position) :
    (PrepareParams.toJson ⟨uri, position, none⟩).Canonical 2 := by
  have hword (n : UInt32) : (Json.word32 n).Canonical 0 :=
    .nat (Nat.lt_trans n.toNat_lt (by decide))
  have hposition : position.toJson.Canonical 1 :=
    .object (show ["character", "line"].Pairwise (· < ·) by decide) (by simp [hword])
  have hdocument : (Json.object [("uri", uri.toJson)]).Canonical 1 :=
    .object (by simp) (by simpa using .string _)
  exact .ofFields
    (show ["position", "textDocument", "workDoneToken"].Pairwise (· < ·) by decide)
    (by simp [hposition, hdocument])

theorem width_prepareParams_le (uri : Uri) (position : Position) :
    Utf8.width (PrepareParams.toJson ⟨uri, position, none⟩).print ≤
      Utf8.width uri.toJson.print + 200 := by
  have hword (n : UInt32) : Utf8.width (Json.word32 n).print ≤ 21 :=
    Json.width_print_nat_le (Nat.lt_trans n.toNat_lt (by decide))
  have hcharacter := hword position.character
  have hline := hword position.line
  have hposition := Json.width_print_object_le
    [("character", .word32 position.character), ("line", .word32 position.line)]
  have hdocument := Json.width_print_object_le [("uri", uri.toJson)]
  have hparams := Json.width_print_object_le
    [("position", position.toJson), ("textDocument", .object [("uri", uri.toJson)])]
  have hnames : Utf8.width (Json.printString "character") = 11 ∧
      Utf8.width (Json.printString "line") = 6 ∧ Utf8.width (Json.printString "uri") = 5 ∧
      Utf8.width (Json.printString "position") = 10 ∧
      Utf8.width (Json.printString "textDocument") = 14 := by decide
  simp only [List.map_cons, List.map_nil, List.sum_cons, List.sum_nil, hnames]
    at hposition hdocument hparams
  refine Nat.le_trans hparams ?_
  rw [Position.toJson]
  omega

/-- What stands at a place in a name. -/
theorem Ready.prepare_run (h : Ready d link) (hd : Fitting d) (htimeout : 0 < timeout)
    (hf : f ∈ functions d.uri.text d.text) {position : Position}
    (hfound : (CallGraph.build [(d.uri.text, d.text)]).atPosition? d.uri.text d.text
      position.line.toNat position.character.toNat = some f) :
    ∃ link', ((Link.transport peer timeout).connection.prepare d.uri position).run.run link =
      (.ok (some [itemOf d.uri f]), link') ∧ Ready d link' := by
  have hitem := hd.item_lt f hf
  rw [Json.utf8ByteSize_compact] at hitem
  refine h.ask_run htimeout ((canonical_prepareParams d.uri position).mono (by decide)) ?_
    (h.serves.result?_prepare hfound) (v := .array [itemJson f]) ?_ ?_ ?_
  · have hparams := width_prepareParams_le d.uri position
    have hmethod : Utf8.width (Json.printString PrepareParams.method) = 35 := by decide
    have huri := hd.width_uri_lt
    omega
  · have harray : (Json.array [itemJson f]).Canonical 4 :=
      .array (by simpa using canonical_itemJson (hd.function hf))
    exact harray.mono (by decide)
  · have hbrackets : Utf8.width (Json.array [itemJson f]).print =
        Utf8.width (itemJson f).print + 2 := by
      have hchars : '['.utf8Size = 1 ∧ ']'.utf8Size = 1 := by decide
      simp only [Json.print, Json.printElements, List.cons_append, Utf8.width_cons,
        Utf8.width_append, Utf8.width_nil, hchars]
      omega
    omega
  · have hread := ofJson?_itemJson (stands_of_mem_functions hf).uri_eq (hd.function hf)
    simp [Json.nullable?, Json.list?, hread]

/-- What calls a function, or what it calls. -/
theorem Ready.calls_run (h : Ready d link) (hd : Fitting d) (htimeout : 0 < timeout)
    (hf : f ∈ functions d.uri.text d.text) (direction : Direction) :
    ∃ link',
      ((Link.transport peer timeout).connection.calls direction (itemOf d.uri f)).run.run link =
        (.ok (some (((CallGraph.build [(d.uri.text, d.text)]).groups direction f).map
          (callOf d.uri))), link') ∧ Ready d link' := by
  have hfits := hd.function hf
  have hitem := hd.item_lt f hf
  have hcalls := hd.calls_lt f hf direction
  rw [Json.utf8ByteSize_compact] at hitem hcalls
  have hresult := h.serves.result?_calls hf hfits direction
  rw [toJson_callsParams (stands_of_mem_functions hf).uri_eq hfits] at hresult
  have hcanonical : (Json.object [("item", itemJson f)]).Canonical 4 :=
    .object (by simp) (by simpa using canonical_itemJson hfits)
  have hask := h.ask_run htimeout (hcanonical.mono (by decide)) ?_ hresult
    ((canonical_groupsJson (hd.groups direction f)).mono (by decide))
    (Nat.lt_add_right _ hcalls) (nullable?_groupsJson (hd.groups direction f))
  · rwa [← toJson_callsParams (stands_of_mem_functions hf).uri_eq hfits] at hask
  · have hparams := Json.width_print_object_le [("item", itemJson f)]
    have hname : Utf8.width (Json.printString "item") = 6 := by decide
    have hmethod : Utf8.width (Json.printString (CallsParams.method direction)) = 29 := by
      cases direction <;> decide
    simp only [List.map_cons, List.map_nil, List.sum_cons, List.sum_nil, hname] at hparams
    omega

end MockServer

end CallHierarchy
