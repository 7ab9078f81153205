import CallHierarchy.Proofs.Json.Printed
import CallHierarchy.Proofs.Wire.Extension
import CallHierarchy.Wire.Message

/-! Messages survive the wire. A frame at the front of a buffer is taken off with its body, and the
body of a message is read as the message. So a stream of frames yields the messages that were
written, in order, and leaves nothing over (`parse_drain_frames`). -/

namespace CallHierarchy

/-! ### Frames -/

namespace Frame

/-- The header of a body, without its terminator. -/
def headerText (length : Nat) : String := "Content-Length: " ++ Decimal.text length

theorem toList_headerText (length : Nat) :
    (headerText length).toList =
      "Content-Length".toList ++ ':' :: ' ' :: Nat.toDigits 10 length := by
  have hname : "Content-Length: ".toList = "Content-Length".toList ++ [':', ' '] := by decide
  have htext : (headerText length).toList =
      "Content-Length: ".toList ++ (Decimal.text length).toList := String.toList_append
  simp only [htext, hname, Decimal.toList_text, List.append_assoc, List.cons_append,
    List.nil_append]

theorem bounds_of_isDigit {c : Char} (h : c.isDigit = true) : 48 ≤ c.toNat ∧ c.toNat ≤ 57 := by
  simpa [Char.isDigit, UInt32.le_iff_toNat_le] using h

/-- A header is printable text of ASCII. -/
theorem bounds_of_mem_headerText {length : Nat} {c : Char} (h : c ∈ (headerText length).toList) :
    32 ≤ c.toNat ∧ c.toNat < 128 := by
  have hname : "Content-Length".toList.all (fun c => 32 ≤ c.toNat && c.toNat < 128) = true := by
    decide
  simp only [toList_headerText, List.mem_append, List.mem_cons] at h
  rcases h with h | rfl | rfl | h
  · simpa using List.all_eq_true.1 hname c h
  · decide
  · decide
  · have hbounds := bounds_of_isDigit (Decimal.isDigit_of_mem_toDigits h)
    omega

theorem isBlank_of_isDigit {c : Char} (h : c.isDigit = true) : Text.isBlank c = false := by
  have hbounds := bounds_of_isDigit h
  simp only [Text.isBlank, Bool.or_eq_false_iff, Bool.and_eq_false_iff, decide_eq_false_iff_not,
    beq_eq_false_iff_ne]
  omega

theorem trim_digits (n : Nat) : Text.trim (' ' :: Nat.toDigits 10 n) = Nat.toDigits 10 n :=
  Text.trim_of_no_blank fun _ h => isBlank_of_isDigit (Decimal.isDigit_of_mem_toDigits h)

theorem contentLength_headerText {length : Nat} (h : length ≤ Decimal.max64) :
    contentLength (headerText length).toList = .ok length := by
  have hnewline : '\n' ∉ (headerText length).toList := fun hm => by
    have hlow : 32 ≤ 10 := (bounds_of_mem_headerText hm).1
    omega
  have hlines := Text.lines_of_not_mem (by simp [toList_headerText]) hnewline
  have hcut : Text.cutAt ':' (headerText length).toList =
      some ("Content-Length".toList, ' ' :: Nat.toDigits 10 length) :=
    (congrArg (Text.cutAt ':') (toList_headerText length)).trans (Text.cutAt_append (by decide) _)
  have hname : Text.sameAscii (Text.trim "Content-Length".toList) lengthName = true := by decide
  simp only [contentLength, hlines, List.filterMap_cons, hcut, List.filterMap_nil,
    List.filter_cons, hname, if_true, List.filter_nil, trim_digits, Decimal.unsigned?_toDigits h]

/-- Bytes without a carriage return hold no part of a terminator. -/
theorem cutHeader?_of_not_mem {header : List UInt8} (h : 13 ∉ header) (rest : List UInt8) :
    cutHeader? (header ++ terminator ++ rest) = some (header, rest) := by
  induction header with
  | nil => exact cutHeader?_terminator rest
  | cons b header ih =>
    have hb : b ≠ 13 := fun hb => h (hb ▸ List.mem_cons_self)
    have hrest := ih fun hm => h (List.mem_cons_of_mem _ hm)
    simp only [List.cons_append, List.append_assoc] at hrest ⊢
    simp [cutHeader?, terminator, Ne.symm hb, ← hrest]

theorem not_mem_encode_headerText (length : Nat) : 13 ∉ Utf8.encode (headerText length) := by
  refine Utf8.not_mem_encode fun c hc => ?_
  have hbounds := bounds_of_mem_headerText hc
  have hreturn : (13 : UInt8).toNat = 13 := rfl
  omega

theorem encode_eq (body : String) :
    encode body = Utf8.encode (headerText body.utf8ByteSize) ++ terminator ++ Utf8.encode body := by
  have hend : Utf8.encode "\r\n\r\n" = terminator := by decide
  rw [encode, Utf8.encode_append, hend]
  rfl

/-- The frame of a body is taken off as that body, whatever follows it. -/
theorem front_encode {body : String} (h : (encode body).length ≤ Decimal.max64)
    (rest : List UInt8) : front (encode body ++ rest) = .body body rest := by
  rw [encode_eq, List.length_append, List.length_append] at h
  refine front_eq_body_iff.2 ⟨_, headerText body.utf8ByteSize, ?_, Utf8.decode?_encode _, ?_, h⟩
  · rw [encode_eq, List.append_assoc _ (Utf8.encode body)]
    exact cutHeader?_of_not_mem (not_mem_encode_headerText _) _
  · rw [Utf8.length_encode body] at h ⊢
    exact contentLength_headerText (by omega)

/-- A stream of frames yields their bodies and leaves nothing over. -/
theorem drain_flatMap_encode {bodies : List String}
    (h : ∀ body ∈ bodies, (encode body).length ≤ Decimal.max64) :
    drain (bodies.flatMap encode) = ⟨bodies, none, []⟩ := by
  induction bodies with
  | nil => exact drain_of_incomplete rfl
  | cons body bodies ih =>
    rw [List.flatMap_cons, drain_of_body (front_encode (h body (by simp)) _),
      ih fun b hb => h b (List.mem_cons_of_mem _ hb)]

end Frame

/-! ### Messages -/

namespace Json

theorem get?_sorted_object (key : String) (ms : List (String × Json)) :
    (Json.object ms).sorted.get? key = (Dictionary.get? key ms.reverse).map sorted := by
  have hmap : ∀ ms : List (String × Json),
      Dictionary.get? key (ms.map fun m => (m.1, m.2.sorted)) =
        (Dictionary.get? key ms).map sorted := by
    intro ms
    induction ms with
    | nil => rfl
    | cons m ms ih =>
      simp only [List.map_cons, Dictionary.get?]
      split
      · rfl
      · exact ih
  rw [sorted, get?, Dictionary.get?_ofList, sortedMembers_eq_map, ← List.map_reverse, hmap]

theorem fields?_sorted_object (names : List String) (spare : Nat) (ms : List (String × Json)) :
    (Json.object ms).sorted.fields? names spare =
      some (names.map fun name => (Dictionary.get? name ms.reverse).map sorted) := by
  have hget := fun name => get?_sorted_object name ms
  simp only [sorted, get?] at hget
  simp only [sorted, fields?, hget]

theorem asInt64?_int64 (n : Int64) : (Json.int64 n).asInt64? = some n := by
  have hlow := Int64.le_toInt n
  have hhigh := Int64.toInt_lt n
  simp only [int64, int, asInt64?, asInt?]
  rw [if_pos (by omega), Option.map_some, Int64.ofInt_toInt]

theorem sorted_int64 (n : Int64) : (Json.int64 n).sorted = .int64 n := rfl

theorem integral_int64 (n : Int64) : (Json.int64 n).Integral := by
  have hlow := Int64.le_toInt n
  have hhigh := Int64.toInt_lt n
  exact .integer ⟨hlow, by omega⟩

theorem integral_ofFields {fields : List (String × Option Json)}
    (h : ∀ field ∈ fields, ∀ v ∈ field.2, v.Integral) : (ofFields fields).Integral := by
  refine .object fun m hm => ?_
  obtain ⟨⟨name, value⟩, hfield, hvalue⟩ := List.mem_filterMap.1 hm
  obtain ⟨v, hv, rfl⟩ := Option.map_eq_some_iff.1 hvalue
  exact h _ hfield v hv

end Json

namespace RequestId

theorem ofJson?_toJson (id : RequestId) : ofJson? id.toJson = some id := by
  cases id with
  | number n => simp [ofJson?, toJson, Json.asInt64?_int64]
  | text s => simp [ofJson?, toJson, Json.asInt64?, Json.asInt?, Json.asString?]

theorem sorted_toJson (id : RequestId) : id.toJson.sorted = id.toJson := by
  cases id <;> simp [toJson, Json.int64, Json.int]

theorem present_toJson (id : RequestId) : Json.present (some id.toJson) = some id.toJson := by
  cases id <;> rfl

theorem integral_toJson (id : RequestId) : id.toJson.Integral := by
  cases id with
  | number n => exact Json.integral_int64 n
  | text s => exact .string s

end RequestId

namespace Message

/-- The parts of a message that may be any JSON. -/
def freeForm : Message → List Json
  | request r => [r.params]
  | notification n => [n.params]
  | response r => r.result.toList ++ (r.error.bind (·.data)).toList

/-- The message as it arrives. A result, or data of an error, that is `null` counts as absent. -/
def received : Message → Message
  | response r =>
    response { r with
      result := Json.present r.result
      error := r.error.map fun e => { e with data := Json.present e.data } }
  | m => m

/-- What a message needs to arrive as it was sent. The keys of free-form JSON are in increasing
order, as a sorted dictionary keeps them. A frame is no longer than 64 bits can count, as every
buffer is. -/
structure Sendable (m : Message) : Prop where
  identified : ∀ r, m = response r → r.id ≠ none
  integral : ∀ v ∈ m.freeForm, v.Integral
  ordered : ∀ v ∈ m.freeForm, v.sorted = v
  shallow : m.toJson.depth ≤ Json.Reader.maxDepth
  counted : (frame m.toJson).length ≤ Decimal.max64

theorem ofJson_request {r : Request} (body : String) (h : r.params.sorted = r.params) :
    ofJson body r.toJson.sorted = .ok (request r) := by
  have hid : r.toJson.sorted.get? "id" = some r.id.toJson := by
    simp [Request.toJson, Json.get?_sorted_object, Dictionary.get?, r.id.sorted_toJson]
  have hmethod : r.toJson.sorted.get? "method" = some (.string r.method) := by
    simp [Request.toJson, Json.get?_sorted_object, Dictionary.get?]
  have hread : Request.ofJson? r.toJson.sorted = some r := by
    simp [Request.toJson, Request.ofJson?, Json.fields?_sorted_object, Dictionary.get?,
      Json.asString?, r.id.sorted_toJson, r.id.ofJson?_toJson, h]
  simp [ofJson, hid, hmethod, r.id.present_toJson, hread]

theorem ofJson_notification {n : Notification} (body : String) (h : n.params.sorted = n.params) :
    ofJson body n.toJson.sorted = .ok (notification n) := by
  have hid : n.toJson.sorted.get? "id" = none := by
    simp [Notification.toJson, Json.get?_sorted_object, Dictionary.get?]
  have hmethod : n.toJson.sorted.get? "method" = some (.string n.method) := by
    simp [Notification.toJson, Json.get?_sorted_object, Dictionary.get?]
  have hread : Notification.ofJson? n.toJson.sorted = some n := by
    simp [Notification.toJson, Notification.ofJson?, Json.fields?_sorted_object, Dictionary.get?,
      Json.asString?, h]
  simp [ofJson, hid, hmethod, Json.present, hread]

theorem ofJson?_responseError {e : ResponseError} (h : ∀ v ∈ e.data, v.sorted = v) :
    ResponseError.ofJson? e.toJson.sorted = some { e with data := Json.present e.data } := by
  obtain ⟨code, message, data⟩ := e
  cases data with
  | none =>
    simp [ResponseError.toJson, Json.ofFields, ResponseError.ofJson?, Json.fields?_sorted_object,
      Dictionary.get?, Json.asString?, Json.asInt64?_int64, Json.present, Json.sorted_int64]
  | some v =>
    simp [ResponseError.toJson, Json.ofFields, ResponseError.ofJson?, Json.fields?_sorted_object,
      Dictionary.get?, Json.asString?, Json.sorted_int64, Json.asInt64?_int64, h v rfl]

theorem optional_toJson (id : RequestId) :
    Json.optional RequestId.ofJson? (some id.toJson) = some (some id) := by
  simp [Json.optional, id.present_toJson, id.ofJson?_toJson]

theorem optional_responseError {e : ResponseError} (h : ∀ v ∈ e.data, v.sorted = v) :
    Json.optional ResponseError.ofJson? (some e.toJson.sorted) =
      some (some { e with data := Json.present e.data }) := by
  have hobject : Json.present (some e.toJson.sorted) = some e.toJson.sorted := by
    simp [ResponseError.toJson, Json.ofFields, Json.sorted, Json.present]
  simp [Json.optional, hobject, ofJson?_responseError h]

theorem ofJson?_response {r : Response} {id : RequestId} (hid : r.id = some id)
    (hresult : ∀ v ∈ r.result, v.sorted = v)
    (hdata : ∀ e ∈ r.error, ∀ v ∈ e.data, v.sorted = v) :
    Response.ofJson? r.toJson.sorted = some { r with
      result := Json.present r.result
      error := r.error.map fun e => { e with data := Json.present e.data } } := by
  obtain ⟨version, _, result, error⟩ := r
  subst hid
  have hresult' : result.map Json.sorted = result := by
    cases result with
    | none => rfl
    | some v => exact congrArg some (hresult v rfl)
  cases error with
  | none =>
    cases result <;>
    simp_all [Response.toJson, Json.ofFields, Response.ofJson?, Json.fields?_sorted_object,
      Dictionary.get?, Json.asString?, id.sorted_toJson, optional_toJson]
  | some e =>
    have he := optional_responseError (hdata e rfl)
    cases result <;>
    simp_all [Response.toJson, Json.ofFields, Response.ofJson?, Json.fields?_sorted_object,
      Dictionary.get?, Json.asString?, id.sorted_toJson, optional_toJson]

theorem ofJson_response {r : Response} (body : String) (hid : r.id ≠ none)
    (h : ∀ v ∈ (response r).freeForm, v.sorted = v) :
    ofJson body r.toJson.sorted = .ok (received (response r)) := by
  obtain ⟨id, hid⟩ := Option.ne_none_iff_exists'.1 hid
  have hmethod : r.toJson.sorted.get? "method" = none := by
    cases hr : r.result <;> cases he : r.error <;>
      simp [Response.toJson, Json.ofFields, Json.get?_sorted_object, Dictionary.get?, hr, he]
  have hget : r.toJson.sorted.get? "id" = some id.toJson := by
    cases hr : r.result <;> cases he : r.error <;>
      simp [Response.toJson, Json.ofFields, Json.get?_sorted_object, Dictionary.get?, hr, he, hid,
        id.sorted_toJson]
  have hread := ofJson?_response hid
    (fun v hv => h v (by simp_all [freeForm]))
    (fun e he v hv => h v (by simp_all [freeForm]))
  simp [ofJson, hmethod, hget, id.present_toJson, hread, received]

theorem integral_responseError {e : ResponseError} (h : ∀ v ∈ e.data, v.Integral) :
    e.toJson.Integral := by
  apply Json.integral_ofFields
  rintro field hfield v hv
  simp only [List.mem_cons, List.not_mem_nil, or_false] at hfield
  rcases hfield with rfl | rfl | rfl
  · cases hv
    exact Json.integral_int64 e.code
  · cases hv
    exact .string e.message
  · exact h v hv

theorem integral_response {r : Response} {id : RequestId} (hid : r.id = some id)
    (hresult : ∀ v ∈ r.result, v.Integral)
    (hdata : ∀ e ∈ r.error, ∀ v ∈ e.data, v.Integral) : r.toJson.Integral := by
  apply Json.integral_ofFields
  rintro field hfield v hv
  simp only [List.mem_cons, List.not_mem_nil, or_false, hid] at hfield
  rcases hfield with rfl | rfl | rfl | rfl
  · cases hv
    exact .string r.version
  · cases hv
    exact id.integral_toJson
  · exact hresult v hv
  · obtain ⟨e, he, rfl⟩ := Option.map_eq_some_iff.1 hv
    exact integral_responseError (hdata e he)

theorem Sendable.integral_toJson {m : Message} (h : m.Sendable) : m.toJson.Integral := by
  have hfree := h.integral
  cases m with
  | request r =>
    refine .object fun m hm => ?_
    simp only [List.mem_cons, List.not_mem_nil, or_false] at hm
    rcases hm with rfl | rfl | rfl | rfl
    · exact .string r.version
    · exact r.id.integral_toJson
    · exact .string r.method
    · exact hfree r.params (by simp [freeForm])
  | notification n =>
    refine .object fun m hm => ?_
    simp only [List.mem_cons, List.not_mem_nil, or_false] at hm
    rcases hm with rfl | rfl | rfl
    · exact .string n.version
    · exact .string n.method
    · exact hfree n.params (by simp [freeForm])
  | response r =>
    obtain ⟨id, hid⟩ := Option.ne_none_iff_exists'.1 (h.identified r rfl)
    refine integral_response hid (fun v hv => hfree v ?_) (fun e he v hv => hfree v ?_)
    · exact List.mem_append_left _ (Option.mem_toList.2 hv)
    · exact List.mem_append_right _ (Option.mem_toList.2 (Option.mem_bind_iff.2 ⟨e, he, hv⟩))

/-- The body of a message reads as the message. -/
theorem Sendable.parse_compact {m : Message} (h : m.Sendable) :
    parse m.toJson.compact = .ok m.received := by
  have hread := Json.parse?_compact h.integral_toJson h.shallow
  have hordered := h.ordered
  simp only [parse, hread]
  cases m with
  | request r => exact ofJson_request _ (hordered r.params (by simp [freeForm]))
  | notification n => exact ofJson_notification _ (hordered n.params (by simp [freeForm]))
  | response r => exact ofJson_response _ (h.identified r rfl) hordered

/-- A stream of frames yields the messages that were framed, in order and each in its own kind, and
leaves nothing over. -/
theorem parse_drain_frames {ms : List Message} (h : ∀ m ∈ ms, m.Sendable) :
    let d := Frame.drain (ms.flatMap fun m => frame m.toJson)
    d.bodies.map parse = ms.map (fun m => .ok m.received) ∧ d.fault = none ∧ d.rest = [] := by
  have hframes : (ms.flatMap fun m => frame m.toJson) =
      (ms.map fun m => m.toJson.compact).flatMap Frame.encode := by
    rw [List.flatMap_map]
    rfl
  have hdrain : Frame.drain (ms.flatMap fun m => frame m.toJson) =
      ⟨ms.map fun m => m.toJson.compact, none, []⟩ := by
    rw [hframes]
    refine Frame.drain_flatMap_encode fun body hbody => ?_
    obtain ⟨m, hm, rfl⟩ := List.mem_map.1 hbody
    exact (h m hm).counted
  intro d
  have hd : d = ⟨ms.map fun m => m.toJson.compact, none, []⟩ := hdrain
  rw [hd]
  refine ⟨?_, rfl, rfl⟩
  rw [List.map_map]
  exact List.map_congr_left fun m hm => (h m hm).parse_compact

/-- A request, a notification and a response, with text outside of ASCII, a body that looks like
a header, and a result that is `null`, all in one stream. -/
theorem parse_drain_frames_mixed :
    let ms := [request ⟨rpcVersion, .text "é", "a", .object [("b", .array [.int64 (-1)])]⟩,
      notification ⟨rpcVersion, "Content-Length: 3\r\n\r\n", .null⟩,
      response ⟨rpcVersion, some (.number 7), some .null, some ⟨1, "\n", none⟩⟩]
    (∀ m ∈ ms, m.Sendable) ∧
      let d := Frame.drain (ms.flatMap fun m => frame m.toJson)
      d.bodies.map parse = ms.map (fun m => .ok m.received) ∧ d.fault = none ∧ d.rest = [] := by
  intro ms
  have h : ∀ m ∈ ms, m.Sendable := by
    intro m hm
    simp only [ms, List.mem_cons, List.not_mem_nil, or_false] at hm
    rcases hm with rfl | rfl | rfl
    · refine ⟨by simp, fun v hv => ?_, fun v hv => ?_, by decide, by decide⟩
      · obtain rfl := List.mem_singleton.1 hv
        refine .object fun member hmember => ?_
        obtain rfl := List.mem_singleton.1 hmember
        refine .array fun w hw => ?_
        obtain rfl := List.mem_singleton.1 hw
        exact Json.integral_int64 (-1)
      · obtain rfl := List.mem_singleton.1 hv
        rfl
    · refine ⟨by simp, fun v hv => ?_, fun v hv => ?_, by decide, by decide⟩
      · obtain rfl := List.mem_singleton.1 hv
        exact .null
      · obtain rfl := List.mem_singleton.1 hv
        rfl
    · refine ⟨by simp, fun v hv => ?_, fun v hv => ?_, by decide, by decide⟩
      · obtain rfl := List.mem_singleton.1 hv
        exact .null
      · obtain rfl := List.mem_singleton.1 hv
        rfl
  exact ⟨h, parse_drain_frames h⟩

end Message

end CallHierarchy
