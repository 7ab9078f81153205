import Mathlib.Algebra.GroupWithZero.Nat
import CallHierarchy.Proofs.Json.Printed
import CallHierarchy.Proofs.Wire.RoundTrip

/-! How many bytes messages take: those of the values in them, and few more. -/

namespace CallHierarchy

open Utf8 (width)

namespace Decimal

theorem width_toDigits_le {n digits : Nat} (hpos : 0 < digits) (h : n < 10 ^ digits) :
    width (Nat.toDigits 10 n) ≤ digits := by
  have hascii : ∀ c ∈ Nat.toDigits 10 n, c.toNat < 128 := fun c hc => by
    have hbounds := Frame.bounds_of_isDigit (isDigit_of_mem_toDigits hc)
    omega
  rw [Utf8.width_eq_length hascii]
  exact (Nat.length_toDigits_le_iff (by decide) hpos).2 h

theorem width_intText_le {n : Int} (h : n.natAbs < 10 ^ 20) :
    width (intText n).toList ≤ 21 := by
  cases n with
  | ofNat n =>
    have hdigits := width_toDigits_le (by decide) h
    rw [intText, toList_text]
    exact Nat.le_succ_of_le hdigits
  | negSucc n =>
    have hdigits := width_toDigits_le (n := n + 1) (by decide) h
    have hminus : width "-".toList = 1 := by decide
    rw [intText, String.toList_append, toList_text, Utf8.width_append, hminus]
    omega

end Decimal

namespace Json

theorem utf8ByteSize_compact (v : Json) : v.compact.utf8ByteSize = width v.print := by
  rw [compact, ← Utf8.width_toList, String.toList_ofList]

theorem width_print_nat_le {n : Nat} (h : n < 2 ^ 64) : width (print (.nat n)) ≤ 21 :=
  Decimal.width_intText_le (by simpa using Nat.lt_trans h (by decide))

theorem width_join (c : Char) (texts : List (List Char)) (h : c.utf8Size = 1) :
    width (Text.join [c] texts) ≤ (texts.map fun t => width t + 1).sum := by
  induction texts with
  | nil => simp [Text.join]
  | cons t texts ih =>
    cases texts with
    | nil => simp [Text.join]
    | cons u texts =>
      simp only [Text.join, Utf8.width_append, Utf8.width_cons, Utf8.width_nil, h] at ih ⊢
      rw [List.map_cons, List.sum_cons]
      omega

theorem width_le_join (sep : List Char) {texts : List (List Char)} {t : List Char}
    (h : t ∈ texts) : width t ≤ width (Text.join sep texts) := by
  induction texts with
  | nil => cases h
  | cons u texts ih =>
    cases texts with
    | nil =>
      rw [List.mem_singleton.1 h]
      exact Nat.le_refl _
    | cons w texts =>
      simp only [Text.join, Utf8.width_append] at ih ⊢
      rcases List.mem_cons.1 h with rfl | h
      · omega
      · have := ih h
        omega

theorem width_printMember (m : String × Json) :
    width (printMember m) = width (printString m.1) + 1 + width (print m.2) := by
  have hcolon : ':'.utf8Size = 1 := by decide
  rw [printMember, Utf8.width_append, Utf8.width_cons, hcolon, Nat.add_assoc]

/-- An object takes the bytes of its names and values, and a few marks. -/
theorem width_print_object_le (ms : List (String × Json)) : width (print (.object ms)) ≤
    2 + (ms.map fun m => width (printString m.1) + width (print m.2) + 2).sum := by
  have hmember (m : String × Json) : width (printMember m) + 1 =
      width (printString m.1) + width (print m.2) + 2 := by
    rw [width_printMember]
    omega
  have hjoin := width_join ',' (ms.map printMember) (by decide)
  have hbraces : '\x7b'.utf8Size = 1 ∧ '\x7d'.utf8Size = 1 := by decide
  rw [List.map_map] at hjoin
  simp only [Function.comp_def, hmember] at hjoin
  simp only [print, printMembers_eq_join, List.cons_append, Utf8.width_cons, Utf8.width_append,
    Utf8.width_nil, hbraces]
  omega

/-- A member takes no more bytes than its object. -/
theorem width_member_le {ms : List (String × Json)} {m : String × Json} (h : m ∈ ms) :
    width (print m.2) ≤ width (print (.object ms)) := by
  have hjoin := width_le_join [','] (List.mem_map_of_mem (f := printMember) h)
  rw [width_printMember] at hjoin
  simp only [print, printMembers_eq_join, List.cons_append, Utf8.width_cons, Utf8.width_append]
  omega

end Json

theorem RequestId.width_print_number_le (n : Int64) : width (toJson (number n)).print ≤ 21 := by
  have hlow := Int64.le_toInt n
  have hhigh := Int64.toInt_lt n
  exact Decimal.width_intText_le (by omega)

/-! ### Messages -/

section Messages

open Json (printString)

theorem Json.width_print_string (s : String) : width (print (.string s)) = width (printString s) :=
  rfl

theorem width_rpcVersion : width (printString rpcVersion) = 5 := by decide

variable (n : Int64) (method : String) (v : Json)

theorem Request.width_print_le :
    width (toJson ⟨rpcVersion, .number n, method, v⟩).print ≤
      width (printString method) + width v.print + 70 := by
  have hobject := Json.width_print_object_le
    [("jsonrpc", .string rpcVersion), ("id", (RequestId.number n).toJson),
      ("method", .string method), ("params", v)]
  have hid := RequestId.width_print_number_le n
  have hnames : width (printString "jsonrpc") = 9 ∧ width (printString "id") = 4 ∧
      width (printString "method") = 8 ∧ width (printString "params") = 8 := by decide
  simp only [List.map_cons, List.map_nil, List.sum_cons, List.sum_nil, Json.width_print_string,
    hnames, width_rpcVersion] at hobject
  exact Nat.le_trans hobject (by omega)

theorem Notification.width_print_le :
    width (toJson ⟨rpcVersion, method, v⟩).print ≤
      width (printString method) + width v.print + 70 := by
  have hobject := Json.width_print_object_le
    [("jsonrpc", .string rpcVersion), ("method", .string method), ("params", v)]
  have hnames : width (printString "jsonrpc") = 9 ∧ width (printString "method") = 8 ∧
      width (printString "params") = 8 := by decide
  simp only [List.map_cons, List.map_nil, List.sum_cons, List.sum_nil, Json.width_print_string,
    hnames, width_rpcVersion] at hobject
  exact Nat.le_trans hobject (by omega)

theorem Response.width_print_le :
    width (toJson ⟨rpcVersion, some (.number n), some v, none⟩).print ≤ width v.print + 70 := by
  have hobject := Json.width_print_object_le
    [("jsonrpc", .string rpcVersion), ("id", (RequestId.number n).toJson), ("result", v)]
  have hid := RequestId.width_print_number_le n
  have hnames : width (printString "jsonrpc") = 9 ∧ width (printString "id") = 4 ∧
      width (printString "result") = 8 := by decide
  simp only [List.map_cons, List.map_nil, List.sum_cons, List.sum_nil, Json.width_print_string,
    hnames, width_rpcVersion] at hobject
  exact Nat.le_trans hobject (by omega)

end Messages

/-! ### Frames -/

namespace Frame

/-- A frame takes the bytes of its body and those of a short header. -/
theorem length_encode_le {body : String} (h : body.utf8ByteSize < 10 ^ 20) :
    (encode body).length ≤ body.utf8ByteSize + 40 := by
  have hname : width ("Content-Length".toList ++ [':', ' ']) = 16 := by decide
  have hdigits := Decimal.width_toDigits_le (by decide) h
  have hheader : width (headerText body.utf8ByteSize).toList =
      16 + width (Nat.toDigits 10 body.utf8ByteSize) := by
    rw [toList_headerText, ← hname, ← Utf8.width_append]
    simp
  rw [encode_eq, List.length_append, List.length_append, Utf8.length_encode, Utf8.length_encode,
    ← Utf8.width_toList, hheader]
  have hend : terminator.length = 4 := rfl
  omega

end Frame

/-- A frame around a value of less than `2 ^ 63` bytes, and few more, is not too long. -/
theorem Message.length_frame_le {v : Json} (h : width v.print ≤ 2 ^ 63 + 2 ^ 62) :
    (frame v).length ≤ Decimal.max64 := by
  rw [← Json.utf8ByteSize_compact] at h
  have hframe : (frame v).length ≤ v.compact.utf8ByteSize + 40 :=
    Frame.length_encode_le (by omega)
  rw [Decimal.max64]
  exact Nat.le_trans hframe (by omega)

end CallHierarchy
