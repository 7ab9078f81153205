import CallHierarchy.Number.Decimal
import CallHierarchy.Proofs.Source.Identifier

/-! Words around columns. The word at a column of a line is the longest run of bytes of ASCII
letters, digits and underscores there, and both of its ends stand between characters
(`longest_word`). `WordSearch.wordIn?` looks for the ends byte by byte, with a check on every index,
every sum and every cut. No check fails, and it finds the same word (`WordSearch.wordIn?_eq`). -/

namespace CallHierarchy

namespace Text

theorem width_le_of_mem_lines {cs line : List Char} (h : line ∈ lines cs) :
    Utf8.width line ≤ Utf8.width cs := by
  fun_induction lines cs generalizing line with
  | case1 => cases h
  | case2 cs ih =>
    rcases List.mem_cons.1 h with rfl | h
    · exact Nat.zero_le _
    · exact Nat.le_add_left_of_le (ih h)
  | case3 cs ih =>
    rcases List.mem_cons.1 h with rfl | h
    · exact Nat.zero_le _
    · exact Nat.le_add_left_of_le (Nat.le_add_left_of_le (ih h))
  | case4 c cs _ _ hnil ih =>
    rw [List.mem_singleton.1 h]
    exact Nat.add_le_add_left (Nat.zero_le _) _
  | case5 c cs _ _ first rest hlines ih =>
    rw [hlines] at ih
    rcases List.mem_cons.1 h with rfl | h
    · exact Nat.add_le_add_left (ih List.mem_cons_self) _
    · exact Nat.le_add_left_of_le (ih (List.mem_cons_of_mem _ h))

end Text

namespace Source

variable {bytes before word after : List UInt8} {chars : List Char} {b : UInt8}
  {column start stop start' stop' : Nat}

/-! ### Runs of bytes -/

/-- The byte of an ASCII letter, of an ASCII digit or of the underscore. -/
def OfWord (b : UInt8) : Prop := (Char.ofUInt8 b).isAlphanum = true ∨ Char.ofUInt8 b = '_'

instance (b : UInt8) : Decidable (OfWord b) := inferInstanceAs (Decidable (_ ∨ _))

theorem isWordByte_iff : isWordByte b = true ↔ OfWord b :=
  Utf8.forall_byte (motive := fun b => isWordByte b = true ↔ OfWord b) (by decide +kernel) b

/-- The bytes from `start` up to `stop` are bytes of words, and the one at `column` is among
them. -/
structure Covers (bytes : List UInt8) (column start stop : Nat) : Prop where
  low : start ≤ column
  high : column < stop
  ofWord : ∀ i, start ≤ i → i < stop → ∃ b, bytes[i]? = some b ∧ OfWord b

/-- The longest run of bytes of words around a column: every other one lies within it. -/
structure Longest (bytes : List UInt8) (column start stop : Nat) : Prop
    extends Covers bytes column start stop where
  within : ∀ start' stop', Covers bytes column start' stop' → start ≤ start' ∧ stop' ≤ stop

theorem Covers.stop_le (h : Covers bytes column start stop) : stop ≤ bytes.length := by
  have hlow := h.low
  have hhigh := h.high
  obtain ⟨b, hb, -⟩ := h.ofWord (stop - 1) (by omega) (by omega)
  have hlt := (List.getElem?_eq_some_iff.1 hb).1
  omega

theorem Longest.unique (h : Longest bytes column start stop)
    (h' : Longest bytes column start' stop') : start = start' ∧ stop = stop' := by
  obtain ⟨hstart, hstop⟩ := h.within _ _ h'.toCovers
  obtain ⟨hstart', hstop'⟩ := h'.within _ _ h.toCovers
  exact ⟨Nat.le_antisymm hstart hstart', Nat.le_antisymm hstop' hstop⟩

theorem Longest.not_before (h : Longest bytes column start stop) {i : Nat} (hi : start = i + 1)
    (hb : bytes[i]? = some b) : isWordByte b = false := by
  rw [← Bool.not_eq_true, isWordByte_iff]
  intro hword
  have hlow := h.low
  have hlonger : Covers bytes column i stop := by
    refine ⟨by omega, h.high, fun j hj hstop => ?_⟩
    rcases Nat.eq_or_lt_of_le hj with rfl | hj
    · exact ⟨b, hb, hword⟩
    · exact h.ofWord j (by omega) hstop
  have hwithin := (h.within _ _ hlonger).1
  omega

theorem Longest.not_after (h : Longest bytes column start stop) (hb : bytes[stop]? = some b) :
    isWordByte b = false := by
  rw [← Bool.not_eq_true, isWordByte_iff]
  intro hword
  have hhigh := h.high
  have hlonger : Covers bytes column start (stop + 1) := by
    refine ⟨h.low, by omega, fun j hj hstop => ?_⟩
    rcases Nat.eq_or_lt_of_le (Nat.le_of_lt_succ hstop) with rfl | hstop
    · exact ⟨b, hb, hword⟩
    · exact h.ofWord j hj hstop
  have hwithin := (h.within _ _ hlonger).2
  omega

/-- A run that has no byte of a word on either side is the longest one. -/
theorem longest_append (hlow : before.length ≤ column)
    (hhigh : column < before.length + word.length) (hword : ∀ b ∈ word, isWordByte b = true)
    (hbefore : ∀ b ∈ before.getLast?, isWordByte b = false)
    (hafter : ∀ b ∈ after.head?, isWordByte b = false) :
    Longest (before ++ word ++ after) column before.length (before.length + word.length) := by
  refine ⟨⟨hlow, hhigh, fun i hi hstop => ?_⟩, fun start' stop' h => ?_⟩
  · have hk : i - before.length < word.length := by omega
    refine ⟨word[i - before.length], ?_, isWordByte_iff.1 (hword _ (List.getElem_mem hk))⟩
    rw [List.append_assoc, List.getElem?_append_right hi, List.getElem?_append_left hk,
      List.getElem?_eq_getElem hk]
  -- A run that is longer on one side holds the byte there.
  have hlow' := h.low
  have hhigh' := h.high
  constructor
  · by_contra hlonger
    obtain ⟨b, hb, hofWord⟩ := h.ofWord (before.length - 1) (by omega) (by omega)
    rw [List.append_assoc, List.getElem?_append_left (by omega), ← List.getLast?_eq_getElem?] at hb
    exact Bool.eq_false_iff.1 (hbefore b hb) (isWordByte_iff.2 hofWord)
  · by_contra hlonger
    obtain ⟨b, hb, hofWord⟩ := h.ofWord (before.length + word.length) (by omega) (by omega)
    rw [← List.length_append, List.getElem?_append_right (Nat.le_refl _), Nat.sub_self,
      ← List.head?_eq_getElem?] at hb
    exact Bool.eq_false_iff.1 (hafter b hb) (isWordByte_iff.2 hofWord)

/-! ### Words -/

theorem wordAt?_eq_none_iff :
    wordAt? bytes column = none ↔ ∀ b ∈ bytes[column]?, ¬OfWord b := by
  rw [wordAt?]
  cases hb : bytes[column]? with
  | none => simp
  | some b => simp [isWordByte_iff]

theorem head?_dropWhile (p : UInt8 → Bool) (bytes : List UInt8) :
    ∀ b ∈ (bytes.dropWhile p).head?, p b = false := by
  intro b hb
  have hnot := List.head?_dropWhile_not p bytes
  rwa [hb] at hnot

/-- The word at a column stands there as the longest run. -/
theorem exists_longest_of_wordAt? (h : wordAt? bytes column = some word) :
    ∃ before after, bytes = before ++ word ++ after ∧ (∀ b ∈ word, isWordByte b = true) ∧
      Longest bytes column before.length (before.length + word.length) := by
  rw [wordAt?] at h
  split at h
  · next hcolumn =>
    obtain ⟨b, hb, hstands⟩ := (Option.any_eq_true _ _).1 hcolumn
    obtain ⟨hlt, hat⟩ := List.getElem?_eq_some_iff.1 hb
    generalize hback : ((bytes.take column).reverse.takeWhile isWordByte).reverse = back at h
    generalize hahead : (bytes.drop column).takeWhile isWordByte = ahead at h
    obtain rfl := Option.some.inj h
    have htake : (bytes.take column).rdropWhile isWordByte ++ back = bytes.take column :=
      hback ▸ List.rdropWhile_append_rtakeWhile
    have hdrop : ahead ++ (bytes.drop column).dropWhile isWordByte = bytes.drop column :=
      hahead ▸ List.takeWhile_append_dropWhile
    have hbefore := getLast?_rdropWhile isWordByte (bytes.take column)
    have hafter := head?_dropWhile isWordByte (bytes.drop column)
    generalize (bytes.take column).rdropWhile isWordByte = before at htake hbefore
    generalize (bytes.drop column).dropWhile isWordByte = after at hdrop hafter
    have hbytes : before ++ (back ++ ahead) ++ after = bytes := by
      rw [← List.append_assoc, htake, List.append_assoc, hdrop, List.take_append_drop]
    have hlow : before.length + back.length = column := by
      rw [← List.length_append, htake, List.length_take_of_le hlt.le]
    have hhigh : 0 < ahead.length := by
      rw [← hahead, List.drop_eq_getElem_cons hlt, hat, List.takeWhile_cons_of_pos hstands]
      exact Nat.succ_pos _
    have hword : ∀ b ∈ back ++ ahead, isWordByte b = true := by
      intro b hb
      rcases List.mem_append.1 hb with hb | hb
      · exact List.mem_rtakeWhile_imp (hback ▸ hb)
      · exact List.mem_takeWhile_imp (hahead ▸ hb)
    refine ⟨before, after, hbytes.symm, hword, ?_⟩
    rw [← hbytes]
    exact longest_append (by omega) (by rw [List.length_append]; omega) hword hbefore hafter
  · cases h

theorem exists_text_of_word (h : ∀ b ∈ bytes, isWordByte b = true) :
    ∃ text, Utf8.encode (String.ofList text) = bytes := by
  refine ⟨bytes.map Char.ofUInt8, ?_⟩
  rw [Utf8.encode_ofList]
  induction bytes with
  | nil => rfl
  | cons b bytes ih =>
    have hascii : (Char.ofUInt8 b).toNat < 128 := by
      by_contra hlarge
      have hb := h b List.mem_cons_self
      rw [isWordByte_of_le (Nat.not_lt.1 hlarge)] at hb
      cases hb
    rw [List.map_cons, List.flatMap_cons, Utf8.encodeChar_of_lt hascii,
      ih fun d hd => h d (List.mem_cons_of_mem _ hd)]
    exact congrArg (· :: bytes) (UInt8.ofNat_toNat)

/-- The word is the longest run around a column of a line, and it is cut out of the line between
characters. -/
def WordAround (line : List Char) (column : Nat) (word : List Char) : Prop :=
  ∃ before after, line = before ++ word ++ after ∧
    Longest (Utf8.encode (String.ofList line)) column (Utf8.width before)
      (Utf8.width (before ++ word))

/-- The two ends of a word are the ends of characters, because its own are ASCII. -/
theorem wordAround_of_wordAt?
    (h : wordAt? (Utf8.encode (String.ofList chars)) column = some bytes) :
    ∃ word, bytes = Utf8.encode (String.ofList word) ∧ WordAround chars column word := by
  obtain ⟨front, behind, hbytes, hword, hlongest⟩ := exists_longest_of_wordAt? h
  obtain ⟨word, rfl⟩ := exists_text_of_word hword
  have hne : word ≠ [] := by
    rintro rfl
    have hlow := hlongest.low
    have hhigh := hlongest.high
    rw [Utf8.length_encode_ofList, Utf8.width_nil] at hhigh
    omega
  have hprefix : Utf8.encode (String.ofList word) <+:
      (Utf8.encode (String.ofList chars)).drop front.length := by
    rw [hbytes, List.append_assoc, List.drop_left]
    exact List.prefix_append _ _
  obtain ⟨before, after, hline, hwidth⟩ := (Utf8.stands_iff_prefix hne).2 hprefix
  refine ⟨word, rfl, before, after, hline, ?_⟩
  rw [Utf8.width_append, ← hwidth, ← Utf8.length_encode_ofList word]
  exact hlongest

theorem WordAround.unique {word word' : List Char} (h : WordAround chars column word)
    (h' : WordAround chars column word') : word = word' := by
  obtain ⟨before, after, hline, hlongest⟩ := h
  obtain ⟨before', after', hline', hlongest'⟩ := h'
  obtain ⟨hstart, hstop⟩ := hlongest.unique hlongest'
  obtain ⟨hword, -⟩ := Utf8.append_inj_of_width (hline.symm.trans hline') hstop
  exact (Utf8.append_inj_of_width hword hstart).2

variable {text word : String} {line : Nat}

theorem wordIn?_eq (hline : (Text.lines text.toList)[line]? = some chars) :
    wordIn? text line column =
      (wordAt? (Utf8.encode (String.ofList chars)) column).bind Utf8.decode? := by
  simp [wordIn?, hline]

theorem wordIn?_cases (hline : (Text.lines text.toList)[line]? = some chars) (column : Nat) :
    (wordIn? text line column = none ∧
        ∀ b ∈ (Utf8.encode (String.ofList chars))[column]?, ¬OfWord b) ∨
      ∃ word, wordIn? text line column = some word ∧ WordAround chars column word.toList := by
  rw [wordIn?_eq hline]
  cases hword : wordAt? (Utf8.encode (String.ofList chars)) column with
  | none => exact .inl ⟨rfl, wordAt?_eq_none_iff.1 hword⟩
  | some bytes =>
    obtain ⟨word, rfl, haround⟩ := wordAround_of_wordAt? hword
    exact .inr ⟨String.ofList word, Utf8.decode?_encode _, by rwa [String.toList_ofList]⟩

theorem WordAround.exists_byte {word : List Char} (h : WordAround chars column word) :
    ∃ b, (Utf8.encode (String.ofList chars))[column]? = some b ∧ OfWord b := by
  obtain ⟨before, after, -, hlongest⟩ := h
  exact hlongest.ofWord column hlongest.low hlongest.high

theorem wordIn?_eq_none_iff : wordIn? text line column = none ↔
    (Text.lines text.toList).length ≤ line ∨ ∃ chars, (Text.lines text.toList)[line]? = some chars ∧
      (Utf8.width chars ≤ column ∨
        ∃ b, (Utf8.encode (String.ofList chars))[column]? = some b ∧ ¬OfWord b) := by
  cases hline : (Text.lines text.toList)[line]? with
  | none => simp [wordIn?, List.getElem?_eq_none_iff.1 hline]
  | some chars =>
    have hlt := (List.getElem?_eq_some_iff.1 hline).1
    have hlength := Utf8.length_encode_ofList chars
    rcases wordIn?_cases hline column with ⟨hnone, hbyte⟩ | ⟨word, hword, haround⟩
    · refine iff_of_true hnone (.inr ⟨chars, rfl, ?_⟩)
      cases hb : (Utf8.encode (String.ofList chars))[column]? with
      | none => exact .inl (hlength ▸ List.getElem?_eq_none_iff.1 hb)
      | some b => exact .inr ⟨b, rfl, hbyte b hb⟩
    · obtain ⟨b, hb, hofWord⟩ := haround.exists_byte
      refine iff_of_false (by simp [hword]) ?_
      rintro (hle | ⟨_, ⟨⟩, hle | ⟨b', hb', hnot⟩⟩)
      · omega
      · have hinside := (List.getElem?_eq_some_iff.1 hb).1
        omega
      · obtain rfl := Option.some.inj (hb.symm.trans hb')
        exact hnot hofWord

theorem wordIn?_eq_some_iff : wordIn? text line column = some word ↔
    ∃ chars, (Text.lines text.toList)[line]? = some chars ∧
      WordAround chars column word.toList := by
  constructor
  · intro h
    cases hline : (Text.lines text.toList)[line]? with
    | none => simp [wordIn?, hline] at h
    | some chars =>
      rcases wordIn?_cases hline column with ⟨hnone, -⟩ | ⟨word', hword, haround⟩
      · cases hnone.symm.trans h
      · obtain rfl := Option.some.inj (hword.symm.trans h)
        exact ⟨chars, rfl, haround⟩
  · rintro ⟨chars, hline, h⟩
    rcases wordIn?_cases hline column with ⟨-, hbyte⟩ | ⟨word', hword, haround⟩
    · obtain ⟨b, hb, hofWord⟩ := h.exists_byte
      exact absurd hofWord (hbyte b hb)
    · rw [hword, String.toList_inj.1 (haround.unique h)]

/-! ### The search -/

namespace WordSearch

/-- What would stop the search. -/
inductive Fault where
  /-- A sum that 64 bits cannot hold. -/
  | overflow
  /-- A place beyond the end of a line, or an end before its start. -/
  | outOfBounds
  /-- A cut between the bytes of a character. -/
  | splitsCharacter
  deriving DecidableEq, Repr

def byteAt (bytes : List UInt8) (i : Nat) : Except Fault UInt8 :=
  match bytes[i]? with
  | some b => .ok b
  | none => .error .outOfBounds

def successor (i : Nat) : Except Fault Nat :=
  if i < Decimal.max64 then .ok (i + 1) else .error .overflow

/-- The text before a column, and the text from it on. -/
def halves (column : Nat) : List Char → Except Fault (List Char × List Char)
  | [] => if column = 0 then .ok ([], []) else .error .outOfBounds
  | c :: cs =>
    if column = 0 then .ok ([], c :: cs)
    else if c.utf8Size ≤ column then do
      let (before, after) ← halves (column - c.utf8Size) cs
      return (c :: before, after)
    else .error .splitsCharacter

/-- The text from one column of a line up to another. -/
def slice (line : List Char) (start stop : Nat) : Except Fault (List Char) :=
  if start ≤ stop then do
    let (front, _) ← halves stop line
    let (_, part) ← halves start front
    return part
  else .error .outOfBounds

/-- Looks downwards from the byte below a column for one that is in no word, and goes to the column
behind it, or else to the start of the line. -/
def startBelow (bytes : List UInt8) : Nat → Except Fault Nat
  | 0 => return 0
  | i + 1 => do
    if isWordByte (← byteAt bytes i) then startBelow bytes i else successor i

/-- Looks upwards from the byte at `i`, among the `n` bytes up to the end of the line, for one that
is in no word, and goes to it, or else to the end. -/
def stopFrom (bytes : List UInt8) (i : Nat) : Nat → Except Fault Nat
  | 0 => return bytes.length
  | n + 1 => do
    if isWordByte (← byteAt bytes i) then stopFrom bytes (i + 1) n else return i

/-- The word that covers a column of a line of a text. -/
def wordIn? (text : String) (line column : Nat) : Except Fault (Option String) :=
  match (Text.lines text.toList)[line]? with
  | none => return none
  | some chars => do
    let bytes := Utf8.encode (String.ofList chars)
    if bytes.length ≤ column then return none
    let start ← startBelow bytes (column + 1)
    let stop ← stopFrom bytes column (bytes.length - column)
    if stop ≤ start then return none
    return some (String.ofList (← slice chars start stop))

theorem byteAt_eq {i : Nat} (h : bytes[i]? = some b) : byteAt bytes i = .ok b := by
  simp only [byteAt, h]

/-- A text falls into halves just where one of its characters ends. -/
theorem halves_eq_ok_iff {line before after : List Char} :
    halves column line = .ok (before, after) ↔
      line = before ++ after ∧ column = Utf8.width before := by
  constructor
  · intro h
    fun_induction halves column line generalizing before after with
    | case1 =>
      cases h
      exact ⟨rfl, rfl⟩
    | case2 | case5 => cases h
    | case3 c cs =>
      cases h
      exact ⟨rfl, rfl⟩
    | case4 column c cs hne hle ih =>
      cases hrest : halves (column - c.utf8Size) cs with
      | error fault => simp [hrest, bind, Except.bind] at h
      | ok rest =>
        simp only [hrest, bind, Except.bind] at h
        cases h
        obtain ⟨hcs, hcolumn⟩ := ih hrest
        refine ⟨congrArg (c :: ·) hcs, ?_⟩
        rw [Utf8.width_cons]
        omega
  · rintro ⟨rfl, rfl⟩
    induction before with
    | nil => cases after <;> rfl
    | cons c before ih =>
      have hpos := c.utf8Size_pos
      rw [Utf8.width_cons, List.cons_append, halves, if_neg (by omega), if_pos (by omega),
        Nat.add_sub_cancel_left, ih]
      rfl

theorem slice_append (before word after : List Char) :
    slice (before ++ word ++ after) (Utf8.width before) (Utf8.width (before ++ word)) =
      .ok word := by
  have hle : Utf8.width before ≤ Utf8.width (before ++ word) := by
    rw [Utf8.width_append]
    exact Nat.le_add_right _ _
  have hfront : halves (Utf8.width (before ++ word)) (before ++ word ++ after) =
      .ok (before ++ word, after) := halves_eq_ok_iff.2 ⟨rfl, rfl⟩
  have hpart : halves (Utf8.width before) (before ++ word) = .ok (before, word) :=
    halves_eq_ok_iff.2 ⟨rfl, rfl⟩
  simp only [slice, if_pos hle, hfront, hpart, bind, Except.bind]
  rfl

theorem startBelow_eq (h : Longest bytes column start stop) (hbytes : bytes.length ≤ Decimal.max64)
    {i : Nat} (hlow : start ≤ i) (hhigh : i ≤ stop) : startBelow bytes i = .ok start := by
  have hstop := h.stop_le
  -- The bytes of the run are passed one by one, down to the edge.
  induction i with
  | zero =>
    obtain rfl := Nat.le_zero.1 hlow
    rfl
  | succ i ih =>
    rcases Nat.eq_or_lt_of_le hlow with rfl | hlt
    · obtain ⟨b, hb⟩ : ∃ b, bytes[i]? = some b := ⟨_, List.getElem?_eq_getElem (by omega)⟩
      simp only [startBelow, byteAt_eq hb, bind, Except.bind, h.not_before rfl hb,
        Bool.false_eq_true, if_false]
      exact if_pos (by omega)
    · obtain ⟨b, hb, hofWord⟩ := h.ofWord i (by omega) hhigh
      simp only [startBelow, byteAt_eq hb, bind, Except.bind, isWordByte_iff.2 hofWord, if_true]
      exact ih (by omega) (by omega)

theorem stopFrom_eq (h : Longest bytes column start stop) {i n : Nat} (hlow : start ≤ i)
    (hhigh : i ≤ stop) (hn : i + n = bytes.length) : stopFrom bytes i n = .ok stop := by
  have hstop := h.stop_le
  -- The induction is on the bytes that are left in the line.
  induction n generalizing i with
  | zero =>
    obtain rfl : stop = bytes.length := by omega
    rfl
  | succ n ih =>
    rcases Nat.eq_or_lt_of_le hhigh with rfl | hlt
    · obtain ⟨b, hb⟩ : ∃ b, bytes[i]? = some b := ⟨_, List.getElem?_eq_getElem (by omega)⟩
      simp only [stopFrom, byteAt_eq hb, bind, Except.bind, h.not_after hb, Bool.false_eq_true,
        if_false]
      rfl
    · obtain ⟨b, hb, hofWord⟩ := h.ofWord i hlow hlt
      simp only [stopFrom, byteAt_eq hb, bind, Except.bind, isWordByte_iff.2 hofWord, if_true]
      exact ih (by omega) hlt (by omega)

/-- At a byte that is in no word both searches end at once, and what is between them is empty. -/
theorem wordIn?_of_outside (hline : (Text.lines text.toList)[line]? = some chars)
    (hbytes : (Utf8.encode (String.ofList chars)).length ≤ Decimal.max64)
    (hb : (Utf8.encode (String.ofList chars))[column]? = some b) (hword : isWordByte b = false) :
    wordIn? text line column = .ok none := by
  have hlt := (List.getElem?_eq_some_iff.1 hb).1
  have hstart : startBelow (Utf8.encode (String.ofList chars)) (column + 1) = .ok (column + 1) := by
    simp only [startBelow, byteAt_eq hb, bind, Except.bind, hword, Bool.false_eq_true, if_false]
    exact if_pos (by omega)
  have hstop : stopFrom (Utf8.encode (String.ofList chars)) column
      ((Utf8.encode (String.ofList chars)).length - column) = .ok column := by
    obtain ⟨n, hn⟩ := Nat.exists_eq_add_of_lt hlt
    rw [hn, Nat.add_assoc, Nat.add_sub_cancel_left]
    simp only [stopFrom, byteAt_eq hb, bind, Except.bind, hword, Bool.false_eq_true, if_false]
    rfl
  simp only [wordIn?, hline, if_neg (Nat.not_le.2 hlt), hstart, hstop, bind, Except.bind,
    if_pos (Nat.le_succ column)]
  rfl

theorem wordIn?_of_wordAround {word : List Char}
    (hline : (Text.lines text.toList)[line]? = some chars)
    (hbytes : (Utf8.encode (String.ofList chars)).length ≤ Decimal.max64)
    (h : WordAround chars column word) :
    wordIn? text line column = .ok (some (String.ofList word)) := by
  obtain ⟨before, after, hcut, hlongest⟩ := h
  have hlow := hlongest.low
  have hhigh := hlongest.high
  have hlt : column < (Utf8.encode (String.ofList chars)).length :=
    Nat.lt_of_lt_of_le hhigh hlongest.stop_le
  have hstart := startBelow_eq hlongest hbytes (Nat.le_succ_of_le hlow) hhigh
  have hstop := stopFrom_eq hlongest hlow hhigh.le (Nat.add_sub_cancel' hlt.le)
  have hslice : slice chars (Utf8.width before) (Utf8.width (before ++ word)) = .ok word := by
    rw [hcut]
    exact slice_append before word after
  simp only [wordIn?, hline, if_neg (Nat.not_le.2 hlt), hstart, hstop, bind, Except.bind,
    if_neg (Nat.not_le.2 (Nat.lt_of_le_of_lt hlow hhigh)), hslice]
  rfl

theorem wordIn?_eq (hsize : text.utf8ByteSize ≤ Decimal.max64) (line column : Nat) :
    wordIn? text line column = .ok (Source.wordIn? text line column) := by
  cases hline : (Text.lines text.toList)[line]? with
  | none =>
    rw [Source.wordIn?_eq_none_iff.2 (.inl (List.getElem?_eq_none_iff.1 hline)), wordIn?, hline]
    rfl
  | some chars =>
    have hbytes : (Utf8.encode (String.ofList chars)).length ≤ Decimal.max64 := by
      have hwidth := Text.width_le_of_mem_lines (List.mem_of_getElem? hline)
      rw [Utf8.width_toList] at hwidth
      rw [Utf8.length_encode_ofList]
      exact hwidth.trans hsize
    rcases wordIn?_cases hline column with ⟨hnone, hbyte⟩ | ⟨word, hword, haround⟩
    · rw [hnone]
      cases hb : (Utf8.encode (String.ofList chars))[column]? with
      | none =>
        rw [wordIn?, hline]
        exact if_pos (List.getElem?_eq_none_iff.1 hb)
      | some b =>
        exact wordIn?_of_outside hline hbytes hb
          (Bool.eq_false_iff.2 (mt isWordByte_iff.1 (hbyte b hb)))
    · rw [hword, wordIn?_of_wordAround hline hbytes haround, String.ofList_toList]

end WordSearch

/-- The search for the word at a column fails no check, in a text whose bytes 64 bits can count, as
those of all texts in memory. There is no word just where there is no such line, where the line has
no such column, and where the byte there is in no word. Else the word is the longest run of bytes of
words there, which starts and stops between characters. -/
theorem longest_word (text : String) (line column : Nat) :
    (text.utf8ByteSize ≤ Decimal.max64 →
      WordSearch.wordIn? text line column = .ok (wordIn? text line column)) ∧
    (wordIn? text line column = none ↔ (Text.lines text.toList).length ≤ line ∨
      ∃ chars, (Text.lines text.toList)[line]? = some chars ∧ (Utf8.width chars ≤ column ∨
        ∃ b, (Utf8.encode (String.ofList chars))[column]? = some b ∧ ¬OfWord b)) ∧
    ∀ word, wordIn? text line column = some word ↔
      ∃ chars, (Text.lines text.toList)[line]? = some chars ∧
        WordAround chars column word.toList := by
  refine ⟨fun hsize => ?_, wordIn?_eq_none_iff, fun word => wordIn?_eq_some_iff⟩
  exact WordSearch.wordIn?_eq hsize line column

/-- Between a letter and a sign of two bytes each. -/
def accented : String := "é(\r\nçab_1§(x)"

theorem longest_word_accented :
    accented.utf8ByteSize ≤ Decimal.max64 ∧
    (WordSearch.wordIn? accented 1 4 = .ok (some "ab_1") ∧
      ∃ chars, (Text.lines accented.toList)[1]? = some chars ∧
        WordAround chars 4 "ab_1".toList) ∧
    WordSearch.wordIn? accented 1 7 = .ok none := by
  have hsize : accented.utf8ByteSize ≤ Decimal.max64 := by decide
  have hword : wordIn? accented 1 4 = some "ab_1" := by decide +kernel
  obtain ⟨hsearch, -, hsome⟩ := longest_word accented 1 4
  obtain ⟨hsearch', hnone, -⟩ := longest_word accented 1 7
  refine ⟨hsize, ⟨hword ▸ hsearch hsize, (hsome "ab_1").1 hword⟩, ?_⟩
  -- The second byte of the sign.
  have hsign : wordIn? accented 1 7 = none :=
    hnone.2 (.inr ⟨"çab_1§(x)".toList, by decide, .inr ⟨0xA7, by decide +kernel, by decide⟩⟩)
  rw [hsearch' hsize, hsign]

end Source

end CallHierarchy
