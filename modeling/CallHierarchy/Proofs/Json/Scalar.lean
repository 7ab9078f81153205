import Mathlib.Algebra.Group.Int.Defs
import Mathlib.Algebra.Group.Nat.Defs
import Mathlib.Data.List.TakeDrop
import CallHierarchy.Json.Parser
import CallHierarchy.Json.Printer
import CallHierarchy.Proofs.Number.Digits

/-! Scalar values read back what is written: integers of 64 bits, and strings with any characters.
What follows a value is left as it is. -/

namespace CallHierarchy.Json

/-- The text does not go on with a number: it begins with no digit, point or exponent. -/
def Ends (rest : List Char) : Prop :=
  ∀ c ∈ rest.head?, c.isDigit = false ∧ c ≠ '.' ∧ c ≠ 'e' ∧ c ≠ 'E'

theorem ends_nil : Ends [] := by simp [Ends]

/-- An integer that a number of JSON holds exactly. -/
def Fits (n : Int) : Prop := -2 ^ 63 ≤ n ∧ n < 2 ^ 64

/-! ### Integers -/

namespace Literal

theorem digits?_append {ds rest : List Char} (hne : ds ≠ []) (hds : ∀ c ∈ ds, c.isDigit = true)
    (hr : Ends rest) : digits? (ds ++ rest) = some (ds, rest) := by
  have hspan : (ds ++ rest).span Char.isDigit = (ds, rest) := by
    rw [List.span_eq_takeWhile_dropWhile, List.takeWhile_append_of_pos hds,
      List.dropWhile_append_of_pos hds]
    cases rest with
    | nil => simp
    | cons c rest => simp [(hr c rfl).1]
  unfold digits?
  rw [hspan]
  cases ds with
  | nil => exact absurd rfl hne
  | cons c ds => rfl

theorem whole?_toDigits (n : Nat) {rest : List Char} (hr : Ends rest) :
    whole? (Nat.toDigits 10 n ++ rest) = some (Nat.toDigits 10 n, rest) := by
  have hdigits := digits?_append Nat.toDigits_ne_nil
    (fun _ => Decimal.isDigit_of_mem_toDigits (n := n)) hr
  simp only [whole?, hdigits, Option.bind_eq_bind, Option.bind_some, ite_eq_right_iff]
  rintro ⟨hzero, hlength⟩
  rw [Decimal.eq_zero_of_head?_toDigits hzero] at hlength
  simp at hlength

theorem fraction?_of_ends {rest : List Char} (hr : Ends rest) :
    fraction? rest = some (none, rest) := by
  cases rest with
  | nil => rfl
  | cons c rest =>
    have := (hr c rfl).2.1
    unfold fraction?
    split <;> simp_all

theorem exponent?_of_ends {rest : List Char} (hr : Ends rest) :
    exponent? rest = some (none, rest) := by
  cases rest with
  | nil => rfl
  | cons c rest => simp [exponent?, (hr c rfl).2.2]

/-- The literal that a whole number is written as. -/
def ofInt : Int → Literal
  | .ofNat n => ⟨false, Nat.toDigits 10 n, none, none⟩
  | .negSucc n => ⟨true, Nat.toDigits 10 (n + 1), none, none⟩

theorem read?_intText (n : Int) {rest : List Char} (hr : Ends rest) :
    read? ((Decimal.intText n).toList ++ rest) = some (ofInt n, rest) := by
  cases n with
  | ofNat n =>
    have hsign : ∀ ds, Nat.toDigits 10 n ++ rest ≠ '-' :: ds := fun ds hds => by
      cases h : Nat.toDigits 10 n with
      | nil => exact absurd h Nat.toDigits_ne_nil
      | cons c cs =>
        have := Decimal.isDigit_of_mem_toDigits (n := n) (c := c) (by simp [h])
        rw [h] at hds
        simp_all
    simp only [Decimal.intText, Decimal.text, String.toList_ofList, ofInt]
    unfold read?
    split
    next negative ds hds =>
      split at hds
      · next ds' hds' => exact absurd hds' (hsign ds')
      · obtain ⟨rfl, rfl⟩ := Prod.mk.inj hds
        simp [whole?_toDigits n hr, fraction?_of_ends hr, exponent?_of_ends hr]
  | negSucc n =>
    have htext : (Decimal.intText (.negSucc n)).toList ++ rest =
        '-' :: (Nat.toDigits 10 (n + 1) ++ rest) := by
      simp [Decimal.intText, Decimal.text]
    rw [htext]
    simp [read?, ofInt, whole?_toDigits (n + 1) hr, fraction?_of_ends hr, exponent?_of_ends hr]

theorem number?_ofInt {n : Int} (h : Fits n) : (ofInt n).number? = some (.integer n) := by
  obtain ⟨hlow, hhigh⟩ := h
  cases n with
  | ofNat n =>
    have : n ≤ Decimal.max64 := by
      simp only [Int.ofNat_eq_natCast] at hhigh
      simp only [Decimal.max64]
      omega
    simp [ofInt, number?, Decimal.value_toDigits, this]
  | negSucc n =>
    have hle : n + 1 ≤ 0x8000000000000000 := by
      rw [Int.negSucc_eq] at hlow
      omega
    have hfits : 0 < n + 1 ∧ n + 1 ≤ 0x8000000000000000 := ⟨by omega, hle⟩
    simp only [ofInt, number?, Decimal.value_toDigits, Option.isNone_none, true_and, if_true, hfits,
      Int.negSucc_eq]
    rfl

end Literal

theorem Reader.number_intText {n : Int} (h : Fits n) {rest : List Char} (hr : Ends rest) :
    number ((Decimal.intText n).toList ++ rest) = some (.number (.integer n), rest) := by
  simp [number, Literal.read?_intText n hr, Literal.number?_ofInt h]

/-! ### Strings -/

namespace Reader

theorem hexDigit?_hexDigit : ∀ n < 16, hexDigit? (hexDigit n) = some n := by decide

/-- A character reads back from how it is written in a string. -/
theorem stringRest_escape (c : Char) (cs : List Char) :
    stringRest (escape c ++ cs) = (stringRest cs).map fun (s, rest) => (c :: s, rest) := by
  unfold escape
  split
  · next h => simp [h, stringRest, escaped?]
  split
  · next h => simp [h, stringRest, escaped?]
  split
  · next h => simp [h, stringRest, escaped?]
  split
  · next h => simp [h, stringRest, escaped?]
  split
  · next h => simp [h, stringRest, escaped?]
  split
  · next h => simp [h, stringRest, escaped?]
  split
  · next h => simp [h, stringRest, escaped?]
  split
  · next h =>
    have hhigh := hexDigit?_hexDigit (c.toNat / 16) (by omega)
    have hlow := hexDigit?_hexDigit (c.toNat % 16) (by omega)
    have hunit : codeUnit? '0' '0' (hexDigit (c.toNat / 16)) (hexDigit (c.toNat % 16)) =
        some c.toNat := by
      have hzero : hexDigit? '0' = some 0 := by decide
      simp only [codeUnit?, hzero, hhigh, hlow, Option.bind_eq_bind, Option.bind_some,
        Option.pure_def, Option.some.injEq]
      omega
    have hsurrogates : isHighSurrogate c.toNat = false ∧ isLowSurrogate c.toNat = false := by
      simp only [isHighSurrogate, isLowSurrogate, Bool.and_eq_false_iff, decide_eq_false_iff_not]
      omega
    simp [stringRest, hunit, hsurrogates, Char.ofNat_toNat]
  · next hquote hslash _ _ _ _ _ hcontrol =>
    rw [List.singleton_append, stringRest.eq_def]
    simp [hquote, hslash, hcontrol]

theorem stringRest_flatMap_escape (s rest : List Char) :
    stringRest (s.flatMap escape ++ '"' :: rest) = some (s, rest) := by
  induction s with
  | nil => rw [List.flatMap_nil, List.nil_append, stringRest.eq_def]; rfl
  | cons c s ih => rw [List.flatMap_cons, List.append_assoc, stringRest_escape, ih]; rfl

theorem string_printString (s : String) (rest : List Char) :
    string (printString s ++ rest) = some (s, rest) := by
  simp [string, printString, stringRest_flatMap_escape]

end Reader

end CallHierarchy.Json
