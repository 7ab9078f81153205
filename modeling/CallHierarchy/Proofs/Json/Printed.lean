import CallHierarchy.Proofs.Json.Scalar

/-! Printed values read back. The text of a value whose numbers are integers of 64 bits, and which
is not too deep, denotes the value with the keys of its objects in order (`parse?_compact`). -/

namespace CallHierarchy.Json

/-- Every number in the value is an integer that a number of JSON holds exactly. -/
inductive Integral : Json → Prop
  | null : Integral .null
  | bool (b : Bool) : Integral (.bool b)
  | integer {n : Int} (h : Fits n) : Integral (.number (.integer n))
  | string (s : String) : Integral (.string s)
  | array {vs : List Json} (h : ∀ v ∈ vs, Integral v) : Integral (.array vs)
  | object {ms : List (String × Json)} (h : ∀ m ∈ ms, Integral m.2) : Integral (.object ms)

/-- The text of a member of an object. -/
def printMember (m : String × Json) : List Char := printString m.1 ++ ':' :: print m.2

theorem printElements_eq_join (vs : List Json) :
    printElements vs = Text.join [','] (vs.map print) := by
  induction vs with
  | nil => rfl
  | cons v vs ih =>
    cases vs with
    | nil => rfl
    | cons w vs => simp [printElements, Text.join, ih]

theorem printMembers_eq_join (ms : List (String × Json)) :
    printMembers ms = Text.join [','] (ms.map printMember) := by
  induction ms with
  | nil => rfl
  | cons m ms ih =>
    cases ms with
    | nil => rfl
    | cons n ms => simp [printMembers, Text.join, printMember, ih]

/-! ### Rows between brackets -/

/-- The text begins with a character that is no blank and differs from `close`. -/
def Starts (close : Char) (text : List Char) : Prop :=
  ∃ c cs, text = c :: cs ∧ Reader.isBlank c = false ∧ c ≠ close

namespace Reader

theorem skipBlanks_cons {c : Char} (h : isBlank c = false) (cs : List Char) :
    skipBlanks (c :: cs) = c :: cs := by
  simp [skipBlanks, h]

section Rows

variable {α β : Type} {close : Char} {element : Reader β} (text : α → List Char) (read : α → β)
  {xs : List α}

/-- A row of texts with commas between them reads back element by element. -/
theorem sequence_join (hblank : isBlank close = false) (hcomma : close ≠ ',') (hne : xs ≠ [])
    (hread : ∀ x ∈ xs, ∀ c rest, c = ',' ∨ c = close →
      element (text x ++ c :: rest) = some (read x, c :: rest))
    {fuel : Nat} (hfuel : xs.length ≤ fuel) (rest : List Char) :
    sequence close element fuel (Text.join [','] (xs.map text) ++ close :: rest) =
      some (xs.map read, rest) := by
  induction xs generalizing fuel with
  | nil => exact absurd rfl hne
  | cons x xs ih =>
    obtain ⟨fuel, rfl⟩ : ∃ k, fuel = k + 1 := ⟨fuel - 1, by simp at hfuel; omega⟩
    cases xs with
    | nil =>
      have hx := hread x (by simp) close rest (.inr rfl)
      simp [Text.join, sequence, hx, skipBlanks_cons hblank]
    | cons y xs =>
      have hx := hread x (by simp) ',' (Text.join [','] ((y :: xs).map text) ++ close :: rest)
        (.inl rfl)
      have hfuel' : (y :: xs).length ≤ fuel := by
        simp only [List.length_cons] at hfuel ⊢
        omega
      have hrest := ih (by simp) (fun z hz => hread z (List.mem_cons_of_mem _ hz)) hfuel'
      have htext : Text.join [','] ((x :: y :: xs).map text) ++ close :: rest =
          text x ++ ',' :: (Text.join [','] ((y :: xs).map text) ++ close :: rest) := by
        simp [Text.join]
      rw [htext, sequence, hx]
      have hskip := skipBlanks_cons (c := ',') (by decide)
      simp only [Option.bind_eq_bind, Option.bind_some, hskip]
      rw [if_neg (Ne.symm hcomma), if_pos trivial, hrest]
      rfl

theorem length_le_join (sep : Char) (texts : List (List Char)) :
    texts.length ≤ (Text.join [sep] texts).length + 1 := by
  induction texts with
  | nil => simp
  | cons t texts ih =>
    cases texts with
    | nil => simp
    | cons u texts =>
      simp only [Text.join, List.length_append, List.length_cons] at ih ⊢
      omega

/-- What stands between brackets reads back, be it a row or nothing. -/
theorem enclosed_join (hblank : isBlank close = false) (hcomma : close ≠ ',')
    (hstart : ∀ x ∈ xs, Starts close (text x))
    (hread : ∀ x ∈ xs, ∀ c rest, c = ',' ∨ c = close →
      element (text x ++ c :: rest) = some (read x, c :: rest)) (rest : List Char) :
    enclosed close element (Text.join [','] (xs.map text) ++ close :: rest) =
      some (xs.map read, rest) := by
  cases xs with
  | nil => simp [Text.join, enclosed, skipBlanks_cons hblank]
  | cons x xs =>
    obtain ⟨c, cs, hx, hc, hclose⟩ := hstart x (by simp)
    have htext : ∃ more, Text.join [','] ((x :: xs).map text) ++ close :: rest = c :: more := by
      cases xs <;> simp [Text.join, hx]
    obtain ⟨more, hmore⟩ := htext
    have hlen := length_le_join ',' ((x :: xs).map text)
    have hfuel : (x :: xs).length ≤ (c :: more).length := by
      rw [← hmore]
      simp only [List.length_map, List.length_append, List.length_cons] at hlen ⊢
      omega
    have hrow := sequence_join text read hblank hcomma (by simp) hread hfuel rest
    rw [hmore] at hrow ⊢
    simp only [enclosed, skipBlanks_cons hc]
    rw [if_neg hclose, hrow]

end Rows

end Reader

/-! ### Values -/

theorem Starts.append {close : Char} {text : List Char} (h : Starts close text)
    (rest : List Char) : Starts close (text ++ rest) := by
  obtain ⟨c, cs, rfl, hc⟩ := h
  exact ⟨c, cs ++ rest, rfl, hc⟩

theorem starts_intText {close : Char} (hdigit : close.isDigit = false) (hminus : close ≠ '-')
    (n : Int) : Starts close (Decimal.intText n).toList := by
  have hnat : ∀ n : Nat, Starts close (Nat.toDigits 10 n) := fun n => by
    obtain ⟨c, cs, hcs⟩ := List.exists_cons_of_ne_nil (Nat.toDigits_ne_nil (n := n) (b := 10))
    have hc : c.isDigit = true := Decimal.isDigit_of_mem_toDigits (n := n) (by simp [hcs])
    refine ⟨c, cs, hcs, ?_, fun heq => by simp [heq, hdigit] at hc⟩
    simp only [Reader.isBlank, Bool.or_eq_false_iff, beq_eq_false_iff_ne]
    refine ⟨⟨⟨?_, ?_⟩, ?_⟩, ?_⟩ <;> (rintro rfl; revert hc; decide)
  cases n with
  | ofNat n => simpa [Decimal.intText, Decimal.text] using hnat n
  | negSucc n =>
    exact ⟨'-', Nat.toDigits 10 (n + 1), by simp [Decimal.intText, Decimal.text], by decide,
      Ne.symm hminus⟩

/-- No value begins like the end of an array. -/
theorem Integral.starts {v : Json} (hv : v.Integral) : Starts ']' (print v) := by
  cases hv with
  | null => exact ⟨'n', _, rfl, by decide, by decide⟩
  | bool b => cases b <;> exact ⟨_, _, rfl, by decide, by decide⟩
  | integer h => exact starts_intText (by decide) (by decide) _
  | string s => exact ⟨'"', _, rfl, by decide, by decide⟩
  | array h => exact ⟨'[', _, rfl, by decide, by decide⟩
  | object h => exact ⟨'\x7b', _, rfl, by decide, by decide⟩

namespace Reader

theorem scalar_intText {n : Int} (h : Fits n) {rest : List Char} (hr : Ends rest) :
    scalar ((Decimal.intText n).toList ++ rest) = some (.number (.integer n), rest) := by
  have hstart : ∀ close cs, close.isDigit = false → close ≠ '-' →
      (Decimal.intText n).toList ++ rest ≠ close :: cs := fun close cs hdigit hminus heq => by
    obtain ⟨c, cs', hcs, _, hc⟩ := (starts_intText hdigit hminus n).append rest
    rw [hcs] at heq
    exact hc (List.cons.inj heq).1
  unfold scalar
  split
  · next cs heq => exact absurd heq (hstart '"' cs (by decide) (by decide))
  · next cs heq => exact absurd heq (hstart 't' cs (by decide) (by decide))
  · next cs heq => exact absurd heq (hstart 'f' cs (by decide) (by decide))
  · next cs heq => exact absurd heq (hstart 'n' cs (by decide) (by decide))
  · exact number_intText h hr

/-- A text that begins with no bracket is read as a scalar value. -/
theorem value_eq_scalar {text : List Char} (harray : Starts '[' text) (hobject : Starts '\x7b' text)
    (depth : Nat) : value depth text = scalar text := by
  obtain ⟨c, cs, rfl, hblank, hc⟩ := harray
  obtain ⟨c', cs', heq, _, hc'⟩ := hobject
  obtain ⟨rfl, rfl⟩ := List.cons.inj heq
  cases depth <;> (unfold value nested; rw [skipBlanks_cons hblank]; split <;> simp_all)

theorem member_printMember (element : String → Reader Json) {m : String × Json} {v : Json}
    {rest : List Char} (h : element m.1 (print m.2 ++ rest) = some (v, rest)) :
    member string element (printMember m ++ rest) = some ((m.1, v), rest) := by
  have hname : skipBlanks (printMember m ++ rest) =
      printString m.1 ++ ':' :: (print m.2 ++ rest) := by
    rw [printMember, List.append_assoc]
    exact skipBlanks_cons (by decide) _
  have hcolon := skipBlanks_cons (c := ':') (by decide) (print m.2 ++ rest)
  simp [member, hname, string_printString, hcolon, h]

theorem value_print_of_depth_zero {v : Json} (hv : v.Integral) (hd : v.depth = 0)
    {rest : List Char} (hr : Ends rest) (depth : Nat) :
    value depth (print v ++ rest) = some (v.sorted, rest) := by
  cases hv with
  | null => exact value_eq_scalar ⟨'n', _, rfl, rfl, by decide⟩ ⟨'n', _, rfl, rfl, by decide⟩ depth
  | bool b =>
    cases b with
    | false =>
      exact value_eq_scalar ⟨'f', _, rfl, rfl, by decide⟩ ⟨'f', _, rfl, rfl, by decide⟩ depth
    | true =>
      exact value_eq_scalar ⟨'t', _, rfl, rfl, by decide⟩ ⟨'t', _, rfl, rfl, by decide⟩ depth
  | @integer n h =>
    refine (value_eq_scalar ?_ ?_ depth).trans (scalar_intText h hr)
    · exact (starts_intText (by decide) (by decide) n).append rest
    · exact (starts_intText (by decide) (by decide) n).append rest
  | string s =>
    refine (value_eq_scalar ⟨'"', _, rfl, rfl, by decide⟩ ⟨'"', _, rfl, rfl, by decide⟩
      depth).trans ?_
    have hstring := string_printString s rest
    show (string (printString s ++ rest)).map _ = _
    rw [hstring]
    rfl
  | array h => simp [Json.depth] at hd
  | object h => simp [Json.depth] at hd

theorem ends_cons {c : Char} (h : c = ',' ∨ c = ']' ∨ c = '\x7d') (rest : List Char) :
    Ends (c :: rest) := by
  rintro _ ⟨⟩
  rcases h with rfl | rfl | rfl <;> decide

/-- A printed value reads back, with the keys of its objects in order. -/
theorem value_print {depth : Nat} {v : Json} {rest : List Char} (hv : v.Integral)
    (hd : v.depth ≤ depth) (hr : Ends rest) :
    value depth (print v ++ rest) = some (v.sorted, rest) := by
  -- The induction is on the depth that is left: what stands in brackets is read with one less.
  induction depth generalizing v rest with
  | zero => exact value_print_of_depth_zero hv (Nat.le_zero.1 hd) hr 0
  | succ depth ih =>
    cases hv with
    | @array vs h =>
      have hrow := enclosed_join print sorted (by decide : isBlank ']' = false) (by decide)
        (fun v hm => (h v hm).starts)
        (fun v hm c tail hc => ih (h v hm)
          (by have := depth_le_depthElements hm; simp only [Json.depth] at hd; omega)
          (ends_cons (by tauto) tail)) rest
      have htext : print (.array vs) ++ rest =
          '[' :: (Text.join [','] (vs.map print) ++ ']' :: rest) := by
        simp [print, printElements_eq_join]
      rw [htext, value, nested, skipBlanks_cons (by decide)]
      simp only [value] at hrow
      simp [hrow, sorted, sortedElements_eq_map]
    | @object ms h =>
      have hrow := enclosed_join printMember (fun m : String × Json => (m.1, m.2.sorted))
        (by decide : isBlank '\x7d' = false) (by decide)
        (fun m hm => ⟨'"', _, rfl, by decide, by decide⟩)
        (fun m hm c tail hc => member_printMember (fun _ => value depth) (ih (h m hm)
          (by have := depth_le_depthMembers hm; simp only [Json.depth] at hd; omega)
          (ends_cons (by tauto) tail))) rest
      have htext : print (.object ms) ++ rest =
          '\x7b' :: (Text.join [','] (ms.map printMember) ++ '\x7d' :: rest) := by
        simp [print, printMembers_eq_join]
      rw [htext, value, nested, skipBlanks_cons (by decide)]
      simp only [value] at hrow
      simp [hrow, sorted, sortedMembers_eq_map]
    | null => exact value_print_of_depth_zero .null rfl hr _
    | bool b => exact value_print_of_depth_zero (.bool b) rfl hr _
    | integer h => exact value_print_of_depth_zero (.integer h) rfl hr _
    | string s => exact value_print_of_depth_zero (.string s) rfl hr _

end Reader

/-- The text of a value denotes the value with the keys of its objects in order. -/
theorem parse?_compact {v : Json} (hv : v.Integral) (hd : v.depth ≤ Reader.maxDepth) :
    parse? v.compact = some v.sorted := by
  have hread := Reader.value_print hv hd ends_nil
  rw [List.append_nil] at hread
  simp [parse?, compact, Reader.whole, hread, Reader.skipBlanks]

end CallHierarchy.Json
