import CallHierarchy.Number.Decimal

/-! Decimal texts read back: the digits of a number are a row of digits without a zero before them,
and they denote the number. -/

namespace CallHierarchy.Decimal

@[simp] theorem toList_text (n : Nat) : (text n).toList = Nat.toDigits 10 n :=
  String.toList_ofList

theorem value_toDigits (n : Nat) : value (Nat.toDigits 10 n) = n :=
  Nat.ofDigitChars_ten_toDigits

theorem isDigit_of_mem_toDigits {n : Nat} {c : Char} (h : c ∈ Nat.toDigits 10 n) :
    c.isDigit = true :=
  Nat.isDigit_of_mem_toDigits (by decide) (by decide) h

theorem nat?_toDigits (n : Nat) : nat? (Nat.toDigits 10 n) = some n := by
  have hall : (Nat.toDigits 10 n).all Char.isDigit = true :=
    List.all_eq_true.2 fun _ => isDigit_of_mem_toDigits
  rw [nat?, if_pos ⟨Nat.toDigits_ne_nil, hall⟩, value_toDigits]

theorem unsigned?_toDigits {n limit : Nat} (h : n ≤ limit) :
    unsigned? limit (Nat.toDigits 10 n) = some n := by
  have hsign : ∀ ds, Nat.toDigits 10 n ≠ '+' :: ds := fun ds hds => by
    have := isDigit_of_mem_toDigits (n := n) (c := '+') (by simp [hds])
    simp at this
  unfold unsigned?
  split
  · next ds hds => exact absurd hds (hsign ds)
  · simp [nat?_toDigits, h]

/-- Only the digits of zero begin with a zero. -/
theorem eq_zero_of_head?_toDigits {n : Nat} (h : (Nat.toDigits 10 n).head? = some '0') : n = 0 := by
  induction n using Nat.strongRecOn with
  | _ n ih =>
    by_cases hn : n < 10
    · rw [Nat.toDigits_of_lt_base hn] at h
      have hc : n.digitChar = '0' := by simpa using h
      have := Nat.toNat_digitChar_sub_48_of_lt_ten hn
      rw [hc] at this
      simpa using this.symm
    · rw [Nat.toDigits_of_base_le (by decide) (Nat.not_lt.1 hn)] at h
      have := ih (n / 10) (by omega) (by
        cases hds : Nat.toDigits 10 (n / 10) with
        | nil => exact absurd hds Nat.toDigits_ne_nil
        | cons c cs => simpa [hds] using h)
      omega

end CallHierarchy.Decimal
