import CallHierarchy.Text.Ellipsis

/-! Texts that have been shortened. A text has as many characters left as the limit allows
(`length_truncate`), and cutting it twice is cutting it once, to the smaller of the two limits
(`truncate_composes`). -/

namespace CallHierarchy.Ellipsis

variable {limit : Nat} {cs : List Char}

theorem truncate_of_length_le (h : cs.length ≤ limit) : truncate limit cs = cs := if_pos h

/-- What is cut off gives way to three dots, or to as many as there is room for. -/
theorem truncate_of_lt_length (h : limit < cs.length) :
    truncate limit cs = cs.take (limit - 3) ++ dots (min limit 3) := by
  rw [truncate, if_neg (Nat.not_le.2 h)]
  split
  · next hle => rw [Nat.sub_eq_zero_of_le hle, Nat.min_eq_left hle, List.take_zero, List.nil_append]
  · next hlt => rw [Nat.min_eq_right (Nat.le_of_not_le hlt)]

theorem length_truncate (limit : Nat) (cs : List Char) :
    (truncate limit cs).length = min limit cs.length := by
  by_cases h : cs.length ≤ limit
  · rw [truncate_of_length_le h, Nat.min_eq_right h]
  · rw [truncate_of_lt_length (Nat.lt_of_not_le h), List.length_append, List.length_take, dots,
      List.length_replicate]
    omega

/-- Of a text that has been cut, a smaller limit keeps no dots: the characters that it leaves stand
before them. -/
theorem truncate_cut {n m : Nat} (hcut : n < cs.length) (hlt : m < n) :
    truncate m (truncate n cs) = truncate m cs := by
  have hlength : m < (truncate n cs).length := by
    rw [length_truncate]
    omega
  have hkept : m - 3 ≤ (cs.take (n - 3)).length := by
    rw [List.length_take]
    omega
  rw [truncate_of_lt_length hlength, truncate_of_lt_length (Nat.lt_trans hlt hcut),
    truncate_of_lt_length hcut, List.take_append_of_le_length hkept, List.take_take,
    Nat.min_eq_left (by omega)]

theorem truncate_truncate (n m : Nat) (cs : List Char) :
    truncate m (truncate n cs) = truncate (min n m) cs := by
  by_cases hle : n ≤ m
  · have hlength : (truncate n cs).length ≤ m := by
      rw [length_truncate]
      omega
    rw [truncate_of_length_le hlength, Nat.min_eq_left hle]
  · rw [Nat.min_eq_right (Nat.le_of_not_le hle)]
    by_cases hcut : n < cs.length
    · exact truncate_cut hcut (Nat.lt_of_not_le hle)
    · rw [truncate_of_length_le (Nat.le_of_not_lt hcut)]

/-- Shortening leaves as many characters as the limit allows. Shortening again counts only if the
second limit is smaller, and then as if the text had been whole. -/
theorem truncate_composes (n m : Nat) (cs : List Char) :
    (truncate n cs).length = min n cs.length ∧
      truncate m (truncate n cs) = truncate (min n m) cs ∧
      truncate n (truncate n cs) = truncate n cs :=
  ⟨length_truncate n cs, truncate_truncate n m cs, by rw [truncate_truncate, Nat.min_self]⟩

-- The second cut falls into the dots of the first.
example : truncate 5 (truncate 7 "abcdefghij".toList) = "ab...".toList := by decide

end CallHierarchy.Ellipsis
