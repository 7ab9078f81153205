import CallHierarchy.Proofs.Source.Documents
import CallHierarchy.Proofs.Text.Bytes

/-! Which calls are recorded. Each occurrence of the name of a function, with a parenthesis right
behind it, counts as a call if it stands in a body, not in a comment, and not in the middle of a
longer word. All of these are recorded and nothing else is, each of them once
(`CallGraph.calls_exact`). -/

namespace CallHierarchy.Source

variable {line cs : List Char} {name : String} {column n : Nat}

/-! ### Comments -/

/-- The first text in the line that is not blank begins a comment. -/
def Comments (line : List Char) : Prop :=
  ∃ blanks text, line = blanks ++ text ∧ (∀ c ∈ blanks, Text.isBlank c = true) ∧
    ("//".toList <+: text ∨ "#".toList <+: text)

theorem dropWhile_append_of_prefix {p : Char → Bool} {blanks text start : List Char} {c : Char}
    (hblanks : ∀ b ∈ blanks, p b = true) (hc : p c = false) (htext : c :: start <+: text) :
    (blanks ++ text).dropWhile p = text := by
  obtain ⟨rest, rfl⟩ := htext
  rw [List.dropWhile_append_of_pos hblanks, List.cons_append,
    List.dropWhile_cons_of_neg (by simp [hc])]

theorem isComment_iff : isComment line = true ↔ Comments line := by
  simp only [isComment, Bool.or_eq_true, List.isPrefixOf_iff_prefix]
  constructor
  · intro h
    refine ⟨line.takeWhile Text.isBlank, Text.trimStart line, ?_, ?_, h⟩
    · exact List.takeWhile_append_dropWhile.symm
    · exact fun c hc => List.mem_takeWhile_imp hc
  · rintro ⟨blanks, text, rfl, hblanks, h⟩
    have htrim : Text.trimStart (blanks ++ text) = text := by
      rcases h with h | h
      · exact dropWhile_append_of_prefix hblanks (by decide) h
      · exact dropWhile_append_of_prefix hblanks (by decide) h
    rw [htrim]
    exact h

/-! ### The search -/

section Search

variable {q : List Char} {x : Char}

/-- A pattern that ends in a character which stands nowhere else in it does not overlap itself. -/
theorem length_le_of_overlap (hx : x ∉ q) {before after rest : List Char}
    (h : before ++ (q ++ [x]) ++ after = (q ++ [x]) ++ rest) (hbefore : before ≠ []) :
    q.length + 1 ≤ before.length := by
  by_contra hlt
  have hpos := List.length_pos_iff.2 hbefore
  -- The end of the first occurrence lies in the second one, before its end.
  have hfirst : ((q ++ [x]) ++ rest)[q.length]? = some x := by simp
  have hsecond : (before ++ (q ++ [x]) ++ after)[q.length]? = q[q.length - before.length]? := by
    rw [List.append_assoc, List.getElem?_append_right (by omega), List.append_assoc,
      List.getElem?_append_left (by omega)]
  rw [h, hfirst] at hsecond
  exact hx (List.mem_of_getElem? hsecond.symm)

/-- Behind an occurrence of such a pattern, none begins before the end of the pattern. -/
theorem standsAt_behind (hx : x ∉ q) {c : Char} (h : q ++ [x] <+: c :: cs) :
    StandsAt (q ++ [x]) 0 column cs n ↔ StandsAt (q ++ [x]) q.length column cs n := by
  refine ⟨fun ⟨before, after, hcs, hn, _⟩ => ?_, fun hbehind => hbehind.mono (Nat.zero_le _)⟩
  obtain ⟨rest, hrest⟩ := h
  have hoverlap : c :: before ++ (q ++ [x]) ++ after = (q ++ [x]) ++ rest := by
    rw [hrest, hcs]
    rfl
  have hlength := length_le_of_overlap hx hoverlap (List.cons_ne_nil c before)
  exact ⟨before, after, hcs, hn, Nat.le_of_succ_le_succ hlength⟩

/-- The search from the left misses no occurrence of such a pattern. -/
theorem mem_matchColumns_iff (hx : x ∉ q) {skip : Nat} :
    n ∈ matchColumns (q ++ [x]) skip column cs ↔ StandsAt (q ++ [x]) skip column cs n := by
  fun_induction matchColumns (q ++ [x]) skip column cs with
  | case1 => simp [StandsAt]
  | case2 column c cs skip ih =>
    rw [ih, standsAt_cons]
    simp
  | case3 column c cs hp ih =>
    -- The search goes on behind the pattern, and passes over no other occurrence there.
    have hp := List.isPrefixOf_iff_prefix.1 hp
    have hskip : (q ++ [x]).length - 1 = q.length := by simp
    rw [List.mem_cons, ih, standsAt_cons, hskip, ← standsAt_behind hx hp]
    simp [hp]
  | case4 column c cs hp ih =>
    have hp : ¬q ++ [x] <+: c :: cs := mt List.isPrefixOf_iff_prefix.2 hp
    rw [ih, standsAt_cons]
    simp [hp]

end Search

/-- The columns are found in increasing order. -/
theorem pairwise_matchColumns (pattern : List Char) (skip column : Nat) (cs : List Char) :
    (matchColumns pattern skip column cs).Pairwise (· < ·) := by
  fun_induction matchColumns pattern skip column cs with
  | case1 => exact .nil
  | case2 column c cs skip ih => exact ih
  | case3 column c cs hp ih =>
    refine List.pairwise_cons.2 ⟨fun n hn => ?_, ih⟩
    obtain ⟨before, after, -, rfl, -⟩ := standsAt_of_mem hn
    have hpos := c.utf8Size_pos
    omega
  | case4 column c cs hp ih => exact ih

/-! ### Calls in a line -/

/-- At a column of the line a function of the name is called: its bytes there are those of the name
and a parenthesis, and the byte before them, if there is one, is no ASCII letter or digit and no
underscore. -/
structure Calls (line : List Char) (name : String) (column : Nat) : Prop where
  named : Utf8.encode (name ++ "(") <+: (Utf8.encode (String.ofList line)).drop column
  begins : ∀ k, column = k + 1 → ∀ b ∈ (Utf8.encode (String.ofList line))[k]?,
    isWordByte b = false

/-- A function is called where its name is found, if the name has no parenthesis in it. -/
theorem mem_callColumns_iff (hname : '(' ∉ name.toList) :
    column ∈ callColumns name line ↔ Calls line name column := by
  have hfound : column ∈ matchColumns (name.toList ++ "(".toList) 0 0 line ↔
      Utf8.encode (name ++ "(") <+: (Utf8.encode (String.ofList line)).drop column := by
    have hbytes : name ++ "(" = String.ofList (name.toList ++ "(".toList) := by
      rw [String.ofList_append, String.ofList_toList, String.ofList_toList]
    rw [hbytes, ← Utf8.stands_iff_prefix (by simp)]
    refine (mem_matchColumns_iff hname).trans ?_
    simp [StandsAt]
  have hbegins : (column = 0 || !(Utf8.encode (String.ofList line))[column - 1]?.any isWordByte) =
      true ↔ ∀ k, column = k + 1 → ∀ b ∈ (Utf8.encode (String.ofList line))[k]?,
        isWordByte b = false := by
    cases column with
    | zero => simp
    | succ k => cases hbyte : (Utf8.encode (String.ofList line))[k]? <;> simp [hbyte]
  rw [callColumns, List.mem_filter, hfound, hbegins]
  exact ⟨fun h => ⟨h.1, h.2⟩, fun h => ⟨h.named, h.begins⟩⟩

/-- The name of a function may end a longer one. -/
example : callColumns "aa" "aa(aaa(".toList = [0] := by decide +kernel

theorem nodup_callColumns (name : String) (line : List Char) : (callColumns name line).Nodup := by
  refine ((pairwise_matchColumns _ _ _ line).filter _).imp fun hlt heq => ?_
  rw [heq] at hlt
  exact Nat.lt_irrefl _ hlt

/-- No name has a parenthesis in it. -/
theorem not_mem_name {uri text : String} {f : Function} (hf : f ∈ functions uri text) :
    '(' ∉ f.name.toList := by
  obtain ⟨line, before, after, -, hnamed, -⟩ := (stands_of_mem_functions hf).defined
  intro hmem
  exact absurd (hnamed.name_chars '(' hmem) (by decide)

/-! ### Calls in the documents -/

/-- A call as it is to be recorded. It stands in the body of its caller, in a line that is no
comment, and in the line of the definition behind the name defined. -/
structure CallSite.Recorded (documents : Documents) (s : CallSite) : Prop where
  caller_mem : s.caller ∈ (CallGraph.build documents).functions
  callee_mem : s.callee ∈ (CallGraph.build documents).functions
  body : s.caller.line ≤ s.line ∧ s.line ≤ s.caller.endLine
  called : ∃ text line, documents.get? s.caller.uri = some text ∧
    (Text.lines text.toList)[s.line]? = some line ∧ ¬Comments line ∧
    Calls line s.callee.name s.column
  behind_name : s.line = s.caller.line → s.caller.nameColumn + s.caller.nameWidth ≤ s.column

namespace CallGraph

variable {documents : Documents} {fs : List Function} {caller : Function}
  {lines : List (List Char)}

theorem mem_calls_iff (hdocs : (documents.map Prod.fst).Nodup) {s : CallSite} :
    s ∈ (build documents).calls ↔ s.Recorded documents := by
  have hname {f : Function} (hf : f ∈ (build documents).functions) : '(' ∉ f.name.toList := by
    obtain ⟨text, -, hf⟩ := (mem_functions_build hdocs).1 hf
    exact not_mem_name hf
  rw [mem_calls_build]
  simp only [mem_callsIn_iff]
  constructor
  · rintro ⟨hcaller, text, htext, -, hcallee, hbody, line, hline, hcomment, hcolumn, hbehind⟩
    refine ⟨hcaller, hcallee, hbody, ⟨text, line, htext, hline, ?_, ?_⟩, hbehind⟩
    · rw [← isComment_iff, hcomment]
      exact Bool.false_ne_true
    · exact (mem_callColumns_iff (hname hcallee)).1 hcolumn
  · rintro ⟨hcaller, hcallee, hbody, ⟨text, line, htext, hline, hcomment, hcalls⟩, hbehind⟩
    refine ⟨hcaller, text, htext, trivial, hcallee, hbody, line, hline, ?_, ?_, hbehind⟩
    · exact Bool.eq_false_iff.2 (mt isComment_iff.1 hcomment)
    · exact (mem_callColumns_iff (hname hcallee)).2 hcalls

theorem nodup_callsInLine (hfs : fs.Nodup) (line : List Char) (index : Nat) :
    (callsInLine fs caller line index).Nodup := by
  unfold callsInLine
  split
  · exact .nil
  · refine List.pairwise_flatMap.2 ⟨fun callee _ => ?_, hfs.imp fun hne s hs t ht heq => hne ?_⟩
    · exact ((nodup_callColumns _ _).filter _).map fun _ _ heq => (CallSite.mk.inj heq).2.2.2
    · obtain ⟨_, -, rfl⟩ := List.mem_map.1 hs
      obtain ⟨_, -, rfl⟩ := List.mem_map.1 ht
      exact (CallSite.mk.inj heq).2.1

theorem nodup_callsIn (hfs : fs.Nodup) : (callsIn fs caller lines).Nodup := by
  -- No two lines of the body have one index, and a call has the index of its line.
  have hbody := (pairwise_zipIdx lines).sublist
    ((List.drop_sublist caller.line _).trans (List.take_sublist (caller.endLine + 1) _))
  refine List.pairwise_flatMap.2 ⟨fun _ _ => nodup_callsInLine hfs _ _, ?_⟩
  refine hbody.imp fun hlt s hs t ht heq => ?_
  rw [← (mem_callsInLine_iff.1 hs).2.2.1, ← (mem_callsInLine_iff.1 ht).2.2.1, heq] at hlt
  exact Nat.lt_irrefl _ hlt

theorem nodup_calls (hdocs : (documents.map Prod.fst).Nodup) : (build documents).calls.Nodup := by
  have hfs := nodup_functions_build hdocs
  refine List.pairwise_flatMap.2 ⟨fun caller _ => ?_, hfs.imp fun hne s hs t ht heq => hne ?_⟩
  · split
    · exact .nil
    · exact nodup_callsIn hfs
  · -- The calls of distinct functions are distinct, for each call has its function as its caller.
    split at hs
    · cases hs
    · split at ht
      · cases ht
      · rw [← (mem_callsIn_iff.1 hs).1, heq, (mem_callsIn_iff.1 ht).1]

/-- The calls of the open documents are exactly those in their texts. Where the documents have URIs
of their own, a call is recorded just where its line is one of the body of its caller and no
comment, the bytes at its column are the name of its callee and a parenthesis, with no byte of a
word before them, and the column lies behind the name defined, if the line defines its caller. No
call is recorded twice, and no two calls in one line of a document have different callers. -/
theorem calls_exact (hdocs : (documents.map Prod.fst).Nodup) :
    (∀ s, s ∈ (build documents).calls ↔ s.Recorded documents) ∧
      (build documents).calls.Nodup ∧ (build documents).functions.Nodup ∧
      ∀ s ∈ (build documents).calls, ∀ t ∈ (build documents).calls,
        s.caller.uri = t.caller.uri → s.line = t.line → s.caller = t.caller := by
  refine ⟨fun s => mem_calls_iff hdocs, nodup_calls hdocs, nodup_functions_build hdocs, ?_⟩
  intro s hs t ht huri hline
  have hs := (mem_calls_iff hdocs).1 hs
  have ht := (mem_calls_iff hdocs).1 ht
  exact eq_of_mem_bodies_build hdocs hs.caller_mem ht.caller_mem huri hs.body (hline ▸ ht.body)

/-- A call behind a character of two bytes, the name of the function called at the end of a longer
one, and a call in a comment. -/
def accented : Documents := [("a", "fn f():\n  é g(); fg()\n  // g()\nfn g():")]

def accentedCall : CallSite where
  caller := ⟨"a", "f", false, "fn f()", 0, 0, 3, 2, 8⟩
  callee := ⟨"a", "g", false, "fn g()", 3, 0, 3, 3, 7⟩
  line := 1
  column := 5

theorem calls_exact_accented :
    (accented.map Prod.fst).Nodup ∧ (build accented).calls = [accentedCall] ∧
      accentedCall.Recorded accented ∧
      ¬CallSite.Recorded accented { accentedCall with column := 11 } := by
  have hdocs : (accented.map Prod.fst).Nodup := by decide
  have hcalls : (build accented).calls = [accentedCall] := by decide +kernel
  have hmem := (calls_exact hdocs).1
  rw [hcalls] at hmem
  exact ⟨hdocs, hcalls, (hmem _).1 (by simp), fun h => absurd ((hmem _).2 h) (by decide)⟩

end CallGraph

end CallHierarchy.Source
