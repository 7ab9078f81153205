import CallHierarchy.Proofs.Source.Calls

/-! Finding functions again. A function of the open documents is found by its document, its name and
the line that defines it (`find?_build`). If the name is ASCII, the function is found at every
column of its name there (`atPosition?_build`), and at every column of the name in a call of the
function, one with that name is found (`exists_atPosition?_call`). -/

namespace CallHierarchy.Source

/-! ### Words -/

theorem takeWhile_append_of_head? {p : UInt8 → Bool} {word rest : List UInt8}
    (hword : ∀ b ∈ word, p b = true) (hrest : ∀ b ∈ rest.head?, p b = false) :
    (word ++ rest).takeWhile p = word := by
  rw [List.takeWhile_append_of_pos hword]
  cases rest with
  | nil => simp
  | cons b rest => simp [hrest b rfl]

/-- A word between bytes that belong to no word is found by each of its columns. -/
theorem wordAt?_middle {before word after : List UInt8} {column : Nat}
    (hlow : before.length ≤ column) (hhigh : column < before.length + word.length)
    (hword : ∀ b ∈ word, isWordByte b = true)
    (hbefore : ∀ b ∈ before.getLast?, isWordByte b = false)
    (hafter : ∀ b ∈ after.head?, isWordByte b = false) :
    wordAt? (before ++ word ++ after) column = some word := by
  obtain ⟨k, rfl⟩ := Nat.exists_eq_add_of_le hlow
  have hk : k < word.length := by omega
  have hbyte : (before ++ word ++ after)[before.length + k]? = some word[k] := by
    rw [List.append_assoc, List.getElem?_append_right (Nat.le_add_right _ _),
      Nat.add_sub_cancel_left, List.getElem?_append_left hk, List.getElem?_eq_getElem hk]
  have htake : (before ++ word ++ after).take (before.length + k) = before ++ word.take k := by
    rw [List.append_assoc, List.take_length_add_append, List.take_append_of_le_length hk.le]
  have hdrop : (before ++ word ++ after).drop (before.length + k) = word.drop k ++ after := by
    rw [List.append_assoc, List.drop_length_add_append, List.drop_append_of_le_length hk.le]
  have hstart : ((word.take k).reverse ++ before.reverse).takeWhile isWordByte =
      (word.take k).reverse :=
    takeWhile_append_of_head? (fun b hb => hword b (List.mem_of_mem_take (List.mem_reverse.1 hb)))
      (by rwa [List.head?_reverse])
  have hend : (word.drop k ++ after).takeWhile isWordByte = word.drop k :=
    takeWhile_append_of_head? (fun b hb => hword b (List.mem_of_mem_drop hb)) hafter
  rw [wordAt?, hbyte, htake, hdrop, Option.any_some, hword _ (List.getElem_mem hk), if_pos rfl,
    List.reverse_append, hstart, List.reverse_reverse, hend, List.take_append_drop]

theorem isWordByte_of_isNameChar {c : Char} (hascii : c.toNat < 128) :
    isWordByte c.toNat.toUInt8 = isNameChar c := by
  have hall : ∀ n < 128, isWordByte n.toUInt8 = isNameChar (Char.ofNat n) := by decide +kernel
  rw [hall c.toNat hascii, Char.ofNat_toNat]

theorem isWordByte_of_le {b : UInt8} (h : 128 ≤ b.toNat) : isWordByte b = false := by
  simp only [isWordByte, Bool.or_eq_false_iff, Bool.and_eq_false_iff, decide_eq_false_iff_not,
    UInt8.le_iff_toNat_le, beq_eq_false_iff_ne, UInt8.reduceToNat, ne_eq, ← UInt8.toNat_inj]
  omega

/-- A character that is in no name begins with a byte that is in no word. -/
theorem isWordByte_head_encodeChar {c : Char} (h : isNameChar c = false) :
    ∀ b ∈ (String.utf8EncodeChar c).head?, isWordByte b = false := by
  intro b hb
  by_cases hascii : c.toNat < 128
  · rw [Utf8.encodeChar_of_lt hascii] at hb
    obtain rfl := Option.some.inj hb
    rw [isWordByte_of_isNameChar hascii, h]
  · exact isWordByte_of_le
      (Utf8.le_of_mem_encodeChar (Nat.not_lt.1 hascii) (List.mem_of_mem_head? hb))

/-- The bytes of an ASCII name are those of a word. -/
theorem isWordByte_of_mem_encode {name : String} (hchars : ∀ c ∈ name.toList, isNameChar c = true)
    (hascii : ∀ c ∈ name.toList, c.toNat < 128) :
    ∀ b ∈ Utf8.encode name, isWordByte b = true := by
  intro b hb
  rw [← String.ofList_toList (s := name), Utf8.encode_ofList] at hb
  obtain ⟨c, hc, hb⟩ := List.mem_flatMap.1 hb
  rw [Utf8.encodeChar_of_lt (hascii c hc), List.mem_singleton] at hb
  rw [hb, isWordByte_of_isNameChar (hascii c hc)]
  exact hchars c hc

/-- An ASCII name in a line is the word at each of its columns. -/
theorem wordAt?_named {name line before after : List Char} (h : Named name line before after)
    (hascii : ∀ c ∈ name, c.toNat < 128) {column : Nat} (hlow : Utf8.width before ≤ column)
    (hhigh : column < Utf8.width before + Utf8.width name) :
    wordAt? (Utf8.encode (String.ofList line)) column =
      some (Utf8.encode (String.ofList name)) := by
  rw [h.line_eq, Utf8.encode_ofList_append, Utf8.encode_ofList_append]
  refine wordAt?_middle ?_ ?_ (isWordByte_of_mem_encode ?_ ?_) ?_ ?_
  · rwa [Utf8.length_encode_ofList]
  · rwa [Utf8.length_encode_ofList, Utf8.length_encode_ofList]
  · rw [String.toList_ofList]
    exact h.name_chars
  · rwa [String.toList_ofList]
  · intro b hb
    obtain ⟨start, rfl⟩ := List.getLast?_eq_some_iff.1 h.before_last
    rw [Utf8.encode_ofList, List.flatMap_append] at hb
    simp only [List.flatMap_cons, List.flatMap_nil, List.append_nil] at hb
    rw [Utf8.encodeChar_of_lt (by decide), List.getLast?_append] at hb
    obtain rfl := Option.some.inj hb
    decide
  · intro b hb
    rw [Utf8.encode_ofList] at hb
    cases after with
    | nil => cases hb
    | cons c after =>
      have hne : String.utf8EncodeChar c ≠ [] :=
        List.ne_nil_of_length_pos (by rw [String.length_utf8EncodeChar]; exact c.utf8Size_pos)
      rw [List.flatMap_cons, List.head?_append_of_ne_nil _ hne] at hb
      exact isWordByte_head_encodeChar (h.after_head c rfl) b hb

/-- The name of a function that is called is the word at each of its columns. -/
theorem wordAt?_calls {line : List Char} {name : String} {start column : Nat}
    (h : Calls line name start) (hchars : ∀ c ∈ name.toList, isNameChar c = true)
    (hascii : ∀ c ∈ name.toList, c.toNat < 128) (hlow : start ≤ column)
    (hhigh : column < start + name.utf8ByteSize) :
    wordAt? (Utf8.encode (String.ofList line)) column = some (Utf8.encode name) := by
  obtain ⟨tail, htail⟩ := h.named
  rw [Utf8.encode_append, List.append_assoc] at htail
  have hlength := congrArg List.length htail
  rw [List.length_append, Utf8.length_encode, List.length_drop] at hlength
  have hstart : ((Utf8.encode (String.ofList line)).take start).length = start :=
    List.length_take_of_le (by omega)
  have hbytes : Utf8.encode (String.ofList line) = (Utf8.encode (String.ofList line)).take start ++
      Utf8.encode name ++ (Utf8.encode "(" ++ tail) := by
    rw [List.append_assoc, htail, List.take_append_drop]
  rw [hbytes]
  refine wordAt?_middle ?_ ?_ (isWordByte_of_mem_encode hchars hascii) ?_ ?_
  · rwa [hstart]
  · rwa [hstart, Utf8.length_encode]
  · intro b hb
    cases start with
    | zero => cases hb
    | succ k =>
      refine h.begins k rfl b ?_
      rw [List.getLast?_eq_getElem?, hstart, Nat.add_sub_cancel,
        List.getElem?_take_of_lt (Nat.lt_succ_self k)] at hb
      exact hb
  · intro b hb
    have hparenthesis : Utf8.encode "(" = [40] := by decide
    rw [hparenthesis] at hb
    obtain rfl := Option.some.inj hb
    decide

/-! ### Functions -/

namespace CallGraph

variable {documents : Documents} {uri text : String} {f : Function} {g : CallGraph}

/-- A function of the open documents is found by its document, its name and its line. -/
theorem find?_build (hdocs : (documents.map Prod.fst).Nodup)
    (hf : f ∈ (build documents).functions) :
    (build documents).find? f.uri f.name f.line = some f := by
  rw [find?]
  generalize hp : (fun g : Function => g.uri == f.uri && g.name == f.name && g.line == f.line) = p
  have hpf : p f = true := by simp [← hp]
  cases hfind : (build documents).functions.find? p with
  | none => exact absurd hpf (List.find?_eq_none.1 hfind f hf)
  | some g =>
    have hg := List.find?_some hfind
    simp only [← hp, Bool.and_eq_true, beq_iff_eq] at hg
    rw [eq_of_line_eq_build hdocs (List.mem_of_find?_eq_some hfind) hf hg.1.1 hg.2]

/-- Where a word stands, the function is found that the line defines under that name, or else the
first one of that name. -/
theorem atPosition?_eq {word : String} {line column : Nat} {chars : List Char}
    (hline : (Text.lines text.toList)[line]? = some chars)
    (hword : wordAt? (Utf8.encode (String.ofList chars)) column = some (Utf8.encode word)) :
    g.atPosition? uri text line column =
      (g.find? uri word line).or (g.functions.find? fun f => f.name == word) := by
  simp [atPosition?, wordIn?, find?, hline, hword]

/-- A function with an ASCII name is found at each column of the name in the line that defines
it. -/
theorem atPosition?_build (hdocs : (documents.map Prod.fst).Nodup)
    (hf : f ∈ (build documents).functions) (htext : documents.get? f.uri = some text)
    (hascii : ∀ c ∈ f.name.toList, c.toNat < 128) {column : Nat} (hlow : f.nameColumn ≤ column)
    (hhigh : column < f.nameColumn + f.nameWidth) :
    (build documents).atPosition? f.uri text f.line column = some f := by
  obtain ⟨text', htext', hmem⟩ := (mem_functions_build hdocs).1 hf
  obtain rfl : text = text' := Option.some.inj (htext.symm.trans htext')
  obtain ⟨line, before, after, hline, hnamed, hcolumn⟩ := (stands_of_mem_functions hmem).defined
  rw [hcolumn] at hlow hhigh
  rw [Function.nameWidth, ← Utf8.width_toList] at hhigh
  have hword := wordAt?_named hnamed hascii hlow hhigh
  rw [String.ofList_toList] at hword
  rw [atPosition?_eq hline hword, find?_build hdocs hf, Option.some_or]

/-- At each column of the name in a call of a function with an ASCII name, a function of that name
is found. -/
theorem exists_atPosition?_call (hdocs : (documents.map Prod.fst).Nodup) {s : CallSite}
    (hs : s ∈ (build documents).calls) (htext : documents.get? s.caller.uri = some text)
    (hascii : ∀ c ∈ s.callee.name.toList, c.toNat < 128) {column : Nat} (hlow : s.column ≤ column)
    (hhigh : column < s.column + s.callee.nameWidth) :
    ∃ h ∈ (build documents).functions, h.name = s.callee.name ∧
      (build documents).atPosition? s.caller.uri text s.line column = some h := by
  have hrecorded := (mem_calls_iff hdocs).1 hs
  obtain ⟨text', line, htext', hline, -, hcalls⟩ := hrecorded.called
  obtain rfl : text = text' := Option.some.inj (htext.symm.trans htext')
  obtain ⟨calleeText, -, hcallee⟩ := (mem_functions_build hdocs).1 hrecorded.callee_mem
  obtain ⟨_, _, _, -, hnamed, -⟩ := (stands_of_mem_functions hcallee).defined
  have hword := wordAt?_calls hcalls hnamed.name_chars hascii hlow hhigh
  rw [atPosition?_eq hline hword]
  cases hdefined : (build documents).find? s.caller.uri s.callee.name s.line with
  | some h =>
    have hname := List.find?_some hdefined
    simp only [Bool.and_eq_true, beq_iff_eq] at hname
    exact ⟨h, List.mem_of_find?_eq_some hdefined, hname.1.2, rfl⟩
  | none =>
    have hfound : ((build documents).functions.find? fun f => f.name == s.callee.name).isSome :=
      List.find?_isSome.2 ⟨s.callee, hrecorded.callee_mem, beq_self_eq_true _⟩
    obtain ⟨h, hh⟩ := Option.isSome_iff_exists.1 hfound
    have hname := List.find?_some hh
    exact ⟨h, List.mem_of_find?_eq_some hh, beq_iff_eq.1 hname, hh⟩

/-! ### One document -/

/-- A function is found by its name and its line. -/
theorem find?_function (hf : f ∈ Source.functions uri text) :
    (build [(uri, text)]).find? uri f.name f.line = some f := by
  obtain rfl := (stands_of_mem_functions hf).uri_eq
  have hdocs : (([(f.uri, text)] : Documents).map Prod.fst).Nodup := List.nodup_singleton _
  exact find?_build hdocs (by rwa [functions_build])

/-- A function with an ASCII name is found at each column of the name in the line that defines
it. -/
theorem atPosition?_function (hf : f ∈ Source.functions uri text)
    (hascii : ∀ c ∈ f.name.toList, c.toNat < 128) {column : Nat} (hlow : f.nameColumn ≤ column)
    (hhigh : column < f.nameColumn + f.nameWidth) :
    (build [(uri, text)]).atPosition? uri text f.line column = some f := by
  obtain rfl := (stands_of_mem_functions hf).uri_eq
  have hdocs : (([(f.uri, text)] : Documents).map Prod.fst).Nodup := List.nodup_singleton _
  exact atPosition?_build hdocs (by rwa [functions_build]) (if_pos rfl) hascii hlow hhigh

end CallGraph

end CallHierarchy.Source
