import CallHierarchy.MockServer.Intake
import CallHierarchy.Proofs.Json.Canonical
import CallHierarchy.Proofs.Wire.RoundTrip

/-! The mock server takes in what a client writes: the body of a frame (`intake_encode`), and in it
the request or the notification (`ofBody?_request`, `ofBody?_notification`). -/

namespace CallHierarchy

theorem RequestId.canonical_toJson (id : RequestId) {depth : Nat} : id.toJson.Canonical depth := by
  cases id with
  | number n =>
    have hlow := Int64.le_toInt n
    have hhigh := Int64.toInt_lt n
    exact .integer ⟨hlow, by omega⟩
  | text s => exact .string s

namespace MockServer

/-! ### Frames -/

theorem contentLength?_headerText {length : Nat} (h : length ≤ Decimal.max64) :
    contentLength? (Frame.headerText length).toList = some length := by
  have hnewline : '\n' ∉ (Frame.headerText length).toList := fun hm => by
    have hlow : 32 ≤ 10 := (Frame.bounds_of_mem_headerText hm).1
    omega
  have hlines := Text.lines_of_not_mem (by simp [Frame.toList_headerText]) hnewline
  have hcut : Text.cutAt ':' (Frame.headerText length).toList =
      some ("Content-Length".toList, ' ' :: Nat.toDigits 10 length) :=
    (congrArg (Text.cutAt ':') (Frame.toList_headerText length)).trans
      (Text.cutAt_append (by decide) _)
  have hstart : (Frame.lengthName ++ [':']).isPrefixOf
      (Text.lowerAscii (Frame.headerText length).toList) = true := by
    have hname : Text.lowerAscii "Content-Length".toList = Frame.lengthName := by decide
    rw [Frame.toList_headerText, Text.lowerAscii, List.map_append, ← Text.lowerAscii, hname,
      List.isPrefixOf_iff_prefix, List.map_cons]
    exact (List.prefix_append_right_inj _).2 ⟨_, rfl⟩
  simp only [contentLength?, hlines, List.filter_cons, hstart, if_true, List.filter_nil,
    List.getLast?_singleton, Option.bind_eq_bind, Option.bind_some, hcut, Frame.trim_digits,
    Decimal.unsigned?_toDigits h]

theorem intake_nil : intake [] = .nothing := rfl

/-- The frame of a body is taken off as that body, whatever follows it. -/
theorem intake_encode {body : String} (h : (Frame.encode body).length ≤ Decimal.max64)
    (rest : List UInt8) : intake (Frame.encode body ++ rest) = .body body rest := by
  have hcut : Frame.cutHeader? (Frame.encode body ++ rest) =
      some (Utf8.encode (Frame.headerText body.utf8ByteSize), Utf8.encode body ++ rest) := by
    rw [Frame.encode_eq, List.append_assoc _ (Utf8.encode body)]
    exact Frame.cutHeader?_of_not_mem (Frame.not_mem_encode_headerText _) _
  rw [Frame.encode_eq, List.length_append, List.length_append] at h
  have hlength := Utf8.length_encode body
  have hread : contentLength? (Frame.headerText body.utf8ByteSize).toList =
      some body.utf8ByteSize := contentLength?_headerText (by omega)
  simp only [intake, hcut, Utf8.decode?_encode, Option.bind_some, hread]
  rw [if_neg (by omega), if_neg (by simp [hlength]), ← hlength, List.take_left, List.drop_left,
    Utf8.decode?_encode]

/-! ### Messages -/

namespace Incoming

open Json

theorem objectFields?_of_known {ms : List (String × Json)} (hnames : ∀ m ∈ ms, m.1 ∈ fieldNames)
    (hnodup : (ms.map Prod.fst).Nodup) :
    objectFields? ms = some (fieldNames.map fun name => Dictionary.get? name ms) := by
  have hknown : (ms.filter fun m => m.1 ∈ fieldNames) = ms :=
    List.filter_eq_self.2 fun m hm => by simpa using hnames m hm
  exact (congrArg (fun known => if (known.map Prod.fst).Nodup then
    some (fieldNames.map fun name => Dictionary.get? name known) else none) hknown).trans
      (if_pos hnodup)

/-- The fields of a message that has no others are read by their names. -/
theorem whole_fields (ms : List (String × Json)) (hnames : ∀ m ∈ ms, m.1 ∈ fieldNames)
    (hnodup : (ms.map Prod.fst).Nodup) (hms : ∀ m ∈ ms, m.2.Canonical innerDepth) :
    Reader.whole fields (Json.object ms).compact.toList =
      some (fieldNames.map fun name => Dictionary.get? name ms) := by
  have hrow := Reader.enclosed_join printMember (fun m : String × Json => (m.1, m.2.sorted))
    (by decide : Reader.isBlank '\x7d' = false) (by decide)
    (fun m hm => ⟨'"', _, rfl, by decide, by decide⟩)
    (fun m hm c tail hc => Reader.member_printMember fieldValue (by
      rw [fieldValue, if_pos (hnames m hm)]
      exact Reader.value_print (hms m hm).integral (hms m hm).depth_le
        (Reader.ends_cons (by tauto) tail))) []
  have hsorted : ms.map (fun m => (m.1, m.2.sorted)) = ms :=
    (List.map_congr_left fun m hm => congrArg (Prod.mk m.1) (hms m hm).sorted_eq).trans
      (List.map_id' ms)
  have htext : (Json.object ms).compact.toList =
      '\x7b' :: (Text.join [','] (ms.map printMember) ++ ['\x7d']) := by
    simp [compact, print, printMembers_eq_join]
  rw [htext, Reader.whole, fields, Reader.skipBlanks_cons (by decide)]
  simp [hrow, hsorted, objectFields?_of_known hnames hnodup, Reader.skipBlanks]

/-- The server reads a request that a client has written. -/
theorem ofBody?_request {r : Request} (h : r.params.Canonical innerDepth) :
    ofBody? r.toJson.compact = some ⟨some r.id.toJson, some r.method, r.params⟩ := by
  have hread := whole_fields [("jsonrpc", .string r.version), ("id", r.id.toJson),
    ("method", .string r.method), ("params", r.params)] (by simp [fieldNames]) (by simp) (by
      simpa using ⟨.string _, r.id.canonical_toJson, .string _, h⟩)
  have hmethod : optional asString? (some (.string r.method)) = some (some r.method) := rfl
  simp [ofBody?, Request.toJson, hread, fieldNames, Dictionary.get?, r.id.present_toJson, hmethod]

/-- The server reads a notification that a client has written. -/
theorem ofBody?_notification {n : Notification} (h : n.params.Canonical innerDepth) :
    ofBody? n.toJson.compact = some ⟨none, some n.method, n.params⟩ := by
  have hread := whole_fields [("jsonrpc", .string n.version),
    ("method", .string n.method), ("params", n.params)] (by simp [fieldNames]) (by simp) (by
      simpa using ⟨.string _, .string _, h⟩)
  have hmethod : optional asString? (some (.string n.method)) = some (some n.method) := rfl
  simp [ofBody?, Notification.toJson, hread, fieldNames, Dictionary.get?, hmethod]

end Incoming

end MockServer

end CallHierarchy
