import CallHierarchy.Number.Decimal
import CallHierarchy.Text.Basic
import CallHierarchy.Text.Utf8

/-! Frames: message bodies behind a header that gives their length in bytes. A frame is taken off
the front of a buffer once it is there as a whole, so the bytes may arrive in any pieces. -/

namespace CallHierarchy.Frame

/-- Why the bytes at the front of a buffer are no frame. -/
inductive Fault where
  | headersNotText
  | missingLength
  /-- The text that stands where the length should be. -/
  | invalidLength (value : String)
  | bodyNotText
  /-- The frame would be longer than 64 bits can count. -/
  | overflow
  deriving DecidableEq, Repr

/-- The bytes that end a header. -/
def terminator : List UInt8 := [13, 10, 13, 10]

/-- The header before the first terminator, and the bytes behind it. -/
def cutHeader? : List UInt8 → Option (List UInt8 × List UInt8)
  | [] => none
  | b :: bytes =>
    if terminator.isPrefixOf (b :: bytes) then some ([], (b :: bytes).drop terminator.length)
    else (cutHeader? bytes).map fun (header, rest) => (b :: header, rest)

/-- The name of the line that gives the length. -/
def lengthName : List Char := "content-length".toList

/-- The length that a header gives: the value of the first line with the name. -/
def contentLength (header : List Char) : Except Fault Nat :=
  let values := ((Text.lines header).filterMap (Text.cutAt ':')).filter fun (name, _) =>
    Text.sameAscii (Text.trim name) lengthName
  match values with
  | [] => .error .missingLength
  | (_, value) :: _ =>
    match Decimal.unsigned? Decimal.max64 (Text.trim value) with
    | some n => .ok n
    | none => .error (.invalidLength (String.ofList value))

/-- What stands at the front of a buffer. -/
inductive Front where
  /-- No whole frame yet. -/
  | incomplete
  /-- A frame with a body, and the bytes behind it. -/
  | body (text : String) (rest : List UInt8)
  /-- Something else, and the bytes that are left with it taken off as far as it goes. -/
  | fault (cause : Fault) (rest : List UInt8)
  deriving DecidableEq, Repr

/-- Looks at the front of a buffer. -/
def front (buffer : List UInt8) : Front :=
  match cutHeader? buffer with
  | none => .incomplete
  | some (header, rest) =>
    match Utf8.decode? header with
    | none => .fault .headersNotText buffer
    | some text =>
      match contentLength text.toList with
      | .error cause => .fault cause buffer
      | .ok length =>
        if Decimal.max64 < header.length + terminator.length + length then .fault .overflow buffer
        else if rest.length < length then .incomplete
        else
          match Utf8.decode? (rest.take length) with
          | none => .fault .bodyNotText (rest.drop length)
          | some body => .body body (rest.drop length)

/-- The frame of a body. -/
def encode (body : String) : List UInt8 :=
  Utf8.encode ("Content-Length: " ++ Decimal.text body.utf8ByteSize ++ "\r\n\r\n") ++
    Utf8.encode body

theorem length_cutHeader? {bytes header rest : List UInt8}
    (h : cutHeader? bytes = some (header, rest)) :
    header.length + terminator.length + rest.length = bytes.length := by
  induction bytes generalizing header rest with
  | nil => simp [cutHeader?] at h
  | cons b bytes ih =>
    simp only [cutHeader?] at h
    split at h
    · next hp =>
      obtain ⟨rfl, rfl⟩ := Prod.mk.inj (Option.some.inj h)
      have := (List.isPrefixOf_iff_prefix.1 hp).length_le
      simp only [List.length_nil, List.length_drop]
      omega
    · obtain ⟨⟨header', rest'⟩, h', heq⟩ := Option.map_eq_some_iff.1 h
      obtain ⟨rfl, rfl⟩ := Prod.mk.inj heq
      have := ih h'
      simp only [List.length_cons]
      omega

/-- Taking a frame makes the buffer shorter by four bytes at least. -/
theorem length_of_front_body {buffer rest : List UInt8} {text : String}
    (h : front buffer = .body text rest) : rest.length + 4 ≤ buffer.length := by
  unfold front at h
  split at h
  · cases h
  · next header tail hcut =>
    have hlen := length_cutHeader? hcut
    simp only [terminator, List.length_cons, List.length_nil] at hlen
    split at h
    · cases h
    · split at h
      · cases h
      · split at h
        · cases h
        · split at h
          · cases h
          · split at h
            · cases h
            · injection h with _ hrest
              rw [← hrest, List.length_drop]
              omega

/-- What a buffer yields until no whole frame is left: the bodies of its frames, the fault that
ended them if there was one, and the bytes that are left. -/
structure Drain where
  bodies : List String
  fault : Option Fault
  rest : List UInt8
  deriving DecidableEq, Repr

/-- Takes frames off a buffer for as long as there are any. -/
def drain (buffer : List UInt8) : Drain :=
  match _h : front buffer with
  | .incomplete => ⟨[], none, buffer⟩
  | .fault cause rest => ⟨[], some cause, rest⟩
  | .body text rest =>
    let later := drain rest
    { later with bodies := text :: later.bodies }
termination_by buffer.length
decreasing_by
  have := length_of_front_body _h
  omega

/-- What a drained buffer keeps: nothing after a fault. -/
def Drain.kept (d : Drain) : List UInt8 := if d.fault.isSome then [] else d.rest

end CallHierarchy.Frame
