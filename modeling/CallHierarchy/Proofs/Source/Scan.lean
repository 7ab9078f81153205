import CallHierarchy.Proofs.Source.Function
import CallHierarchy.Proofs.Text.Bytes

/-! Finding the functions of a text in one pass. `Scan.functions` goes through the lines and ends
the body of the function found last where it comes to the next definition, with a check on every
index, every cut and every difference. No check fails, and the pass finds the functions of the text
(`Scan.functions_eq`). A body ends on the last line before the next definition that is neither blank
nor a deprecation (`placed_of_getElem?`). -/

namespace CallHierarchy.Source

variable {uri : String} {lines : List (List Char)} {line : List Char} {d : Definition}
  {ds : List (Definition × Nat)} {first index next last : Nat}

/-! ### Where bodies end -/

/-- Whether a body can end on the line. -/
def isWritten (line : List Char) : Bool := !isBlankLine line && !isDeprecation line

/-- The last line before `next` that is neither blank nor a deprecation. -/
structure LastWritten (lines : List (List Char)) (next last : Nat) : Prop where
  lt : last < next
  written : ∃ line, lines[last]? = some line ∧ isWritten line = true
  later : ∀ i, last < i → i < next → ∀ line ∈ lines[i]?, isWritten line = false

theorem dropTail_cons {p : Char → Bool} {c : Char} (hc : p c = false) (cs : List Char) :
    Text.dropTail p (c :: cs) = c :: Text.dropTail p cs := by
  rw [Text.dropTail, Text.dropTail, List.reverse_cons, List.dropWhile_append]
  split
  · next hempty =>
    rw [List.isEmpty_iff.1 hempty, List.dropWhile_cons_of_neg (by simp [hc])]
    rfl
  · rw [List.reverse_append]
    rfl

/-- A line that begins a definition is neither blank nor a deprecation. -/
theorem isWritten_of_ofLine? (h : Definition.ofLine? line = some d) : isWritten line = true := by
  simp only [Definition.ofLine?, Option.bind_eq_bind, Option.bind_eq_some_iff] at h
  obtain ⟨rest, hrest, -⟩ := h
  obtain ⟨keyword, hkeyword, hafter⟩ := List.exists_of_findSome?_eq_some hrest
  obtain ⟨-, visible, -, hvisible, hmem⟩ := exists_front line
  rw [after?_eq_some hafter] at hvisible
  -- The text of the line begins with the first letter of a word.
  obtain ⟨c, tail, htext, hc⟩ :
      ∃ c tail, Text.trimStart line = c :: tail ∧ c ∈ ['p', 'f', 'd'] := by
    simp only [Definition.keywords, List.mem_cons, List.not_mem_nil, or_false] at hkeyword hmem
    rcases hmem with rfl | rfl
    · rcases hkeyword with rfl | rfl | rfl
      · exact ⟨'f', _, hvisible, by decide⟩
      · exact ⟨'f', _, hvisible, by decide⟩
      · exact ⟨'d', _, hvisible, by decide⟩
    · exact ⟨'p', _, hvisible, by decide⟩
  obtain ⟨hblank, hhash, hat⟩ : Text.isBlank c = false ∧ '#' ≠ c ∧ '@' ≠ c := by
    simp only [List.mem_cons, List.not_mem_nil, or_false] at hc
    rcases hc with rfl | rfl | rfl <;> decide
  simp [isWritten, isBlankLine, isDeprecation, Text.trim, htext, Text.trimEnd,
    dropTail_cons hblank, List.isPrefixOf_cons_cons, hhash, hat]

/-- The last of the elements that satisfy `p`: none behind it does. -/
theorem of_getLast?_filter {α : Type} {p : α → Bool} {xs : List α} {x : α} {i : Nat}
    (h : (xs.zipIdx.filter fun e => p e.1).getLast? = some (x, i)) :
    xs[i]? = some x ∧ p x = true ∧ ∀ j, i < j → ∀ y ∈ xs[j]?, p y = false := by
  obtain ⟨earlier, hfilter⟩ := List.getLast?_eq_some_iff.1 h
  have hmem {y : α} {j : Nat} : (y, j) ∈ earlier ++ [(x, i)] ↔ xs[j]? = some y ∧ p y = true := by
    rw [← hfilter, List.mem_filter, List.mem_zipIdx_iff_getElem?]
  obtain ⟨hx, hpx⟩ := hmem.1 (List.mem_append_right earlier (List.mem_singleton_self (x, i)))
  refine ⟨hx, hpx, fun j hj y hy => Bool.eq_false_iff.2 fun hpy => ?_⟩
  -- The indices go up, so an element behind this one cannot stand before it among those found.
  have hpair := (pairwise_zipIdx xs).filter fun e => p e.1
  rw [hfilter, List.pairwise_append] at hpair
  rcases List.mem_append.1 (hmem.2 ⟨hy, hpy⟩) with hearlier | hsame
  · have hlt : j < i := hpair.2.2 (y, j) hearlier (x, i) (List.mem_singleton_self _)
    omega
  · have heq : j = i := congrArg Prod.snd (List.mem_singleton.1 hsame)
    omega

/-- The body of a definition ends on its last line that is written. -/
theorem lastWritten_lastOfBody (hline : lines[index]? = some line)
    (hwritten : isWritten line = true) (hlt : index < next) :
    LastWritten lines next (index + lastOfBody ((lines.drop index).take (next - index))) := by
  generalize hbody : (lines.drop index).take (next - index) = body
  have hat (i : Nat) (hi : i < next - index) : body[i]? = lines[index + i]? := by
    rw [← hbody, List.getElem?_take_of_lt hi, List.getElem?_drop]
  -- The definition stands in its own body, so there is a line that is written.
  have hfirst : (line, 0) ∈ body.zipIdx.filter fun e => isWritten e.1 := by
    refine List.mem_filter.2 ⟨List.mem_zipIdx_iff_getElem?.2 ?_, hwritten⟩
    rw [hat 0 (Nat.sub_pos_of_lt hlt)]
    exact hline
  obtain ⟨⟨final, last⟩, hlast⟩ := Option.ne_none_iff_exists'.1
    (mt List.getLast?_eq_none_iff.1 (List.ne_nil_of_mem hfirst))
  have hlastOf : lastOfBody body = last :=
    congrArg (fun found => (Option.map Prod.snd found).getD 0) hlast
  obtain ⟨hfinal, hfinalWritten, hlater⟩ := of_getLast?_filter hlast
  have hinside : last < next - index := by
    obtain ⟨hlength, -⟩ := List.getElem?_eq_some_iff.1 hfinal
    rw [← hbody, List.length_take] at hlength
    exact Nat.lt_of_lt_of_le hlength (Nat.min_le_left _ _)
  rw [hlastOf]
  refine ⟨by omega, ⟨final, ?_, hfinalWritten⟩, fun i hlow hhigh line hline => ?_⟩
  · rw [← hat last hinside, hfinal]
  · obtain ⟨k, rfl⟩ := Nat.exists_eq_add_of_le (show index ≤ i by omega)
    refine hlater k (by omega) line ?_
    rwa [hat k (by omega)]

/-! ### Functions one after the other -/

/-- Each body ends before the next definition, and the last one at the end of the text. -/
theorem getElem?_close (uri : String) (lines : List (List Char)) (ds : List (Definition × Nat))
    (i : Nat) : (close uri lines ds)[i]? = ds[i]?.map fun e =>
      toFunction uri lines e.1 e.2 ((ds[i + 1]?.map Prod.snd).getD lines.length) := by
  fun_induction close uri lines ds generalizing i with
  | case1 => rfl
  | case2 d index =>
    cases i with
    | zero => rfl
    | succ i => rfl
  | case3 d index d' next rest ih =>
    cases i with
    | zero => rfl
    | succ i => exact ih i

/-- A function as the lines of its document have it, where the next function begins at `next`. -/
structure Function.Placed (lines : List (List Char)) (next : Nat) (f : Function) : Prop where
  line_le : f.line ≤ f.endLine
  endLine_lt : f.endLine < lines.length
  ends : LastWritten lines next f.endLine
  endColumn : ∃ line, lines[f.endLine]? = some line ∧ f.endColumn = Utf8.width line
  name_ne : f.name ≠ ""
  indent_lt : f.indent < f.nameColumn
  /-- The bytes of the name stand at its column in the line that defines the function. -/
  named : ∃ line, lines[f.line]? = some line ∧
    Utf8.encode f.name <+: (Utf8.encode (String.ofList line)).drop f.nameColumn ∧
    f.nameColumn + f.nameWidth ≤ Utf8.width line

theorem placed_toFunction (uri : String) (hd : (d, index) ∈ definitions lines) (hlt : index < next)
    (hnext : next ≤ lines.length) : (toFunction uri lines d index next).Placed lines next := by
  obtain ⟨line, hline, hof⟩ := mem_definitions hd
  obtain ⟨-, -, -, -, hindent⟩ := named_of_ofLine? hof
  have hstands := (stands_toFunction uri hd hlt hnext).1
  have hends : LastWritten lines next (toFunction uri lines d index next).endLine :=
    lastWritten_lastOfBody hline (isWritten_of_ofLine? hof) hlt
  obtain ⟨line', before, after, hdefined, hnamed, hcolumn⟩ := hstands.defined
  refine ⟨hstands.line_le, Nat.lt_of_lt_of_le hends.lt hnext, hends, hstands.ended, ?_, hindent,
    ⟨line', hdefined, ?_, ?_⟩⟩
  · exact fun hempty => hnamed.name_ne_nil (by rw [hempty]; rfl)
  · have hbytes := (Utf8.stands_iff_prefix hnamed.name_ne_nil).1
      ⟨before, after, hnamed.line_eq, hcolumn⟩
    rwa [String.ofList_toList] at hbytes
  · rw [hnamed.line_eq, Utf8.width_append, Utf8.width_append, Utf8.width_toList, hcolumn]
    exact Nat.le_add_right _ _

/-- The functions of a text are placed one after the other. -/
theorem placed_of_getElem? {text : String} {f : Function} {i : Nat}
    (h : (functions uri text)[i]? = some f) :
    f.Placed (Text.lines text.toList) (((functions uri text)[i + 1]?.map Function.line).getD
      (Text.lines text.toList).length) := by
  simp only [functions, getElem?_close] at h ⊢
  generalize hlines : Text.lines text.toList = lines at h ⊢
  obtain ⟨⟨d, index⟩, hd, rfl⟩ := Option.map_eq_some_iff.1 h
  have hmem : (d, index) ∈ definitions lines := List.mem_of_getElem? hd
  have hnext : (((definitions lines)[i + 1]?.map fun e => toFunction uri lines e.1 e.2
      (((definitions lines)[i + 1 + 1]?.map Prod.snd).getD lines.length)).map Function.line) =
      (definitions lines)[i + 1]?.map Prod.snd := Option.map_map _ _ _
  rw [hnext]
  cases hlater : (definitions lines)[i + 1]? with
  | none =>
    have hlt : index < lines.length := lt_length_of_mem_definitions hmem
    exact placed_toFunction uri hmem hlt (Nat.le_refl _)
  | some e =>
    have hlt : index < e.2 := by
      obtain ⟨hi, hat⟩ := List.getElem?_eq_some_iff.1 hd
      obtain ⟨hi', hat'⟩ := List.getElem?_eq_some_iff.1 hlater
      have hpair := List.pairwise_iff_getElem.1 (pairwise_definitions lines) i (i + 1) hi hi'
        (Nat.lt_succ_self i)
      rwa [hat, hat'] at hpair
    exact placed_toFunction uri hmem hlt
      (lt_length_of_mem_definitions (List.mem_of_getElem? hlater)).le

/-! ### The pass -/

namespace Scan

/-- What a machine cannot do. -/
inductive Fault where
  /-- A place beyond the end of a text or of a row of lines. -/
  | outOfBounds
  /-- A cut between the bytes of a character. -/
  | splitsCharacter
  /-- A difference below zero. -/
  | negative
  deriving DecidableEq, Repr

/-- The text behind its first `n` bytes. -/
def cutFrom (n : Nat) : List Char → Except Fault (List Char)
  | [] => if n = 0 then .ok [] else .error .outOfBounds
  | c :: cs =>
    if n = 0 then .ok (c :: cs)
    else if c.utf8Size ≤ n then cutFrom (n - c.utf8Size) cs
    else .error .splitsCharacter

def difference (a b : Nat) : Except Fault Nat := if b ≤ a then .ok (a - b) else .error .negative

def lineAt (lines : List (List Char)) (i : Nat) : Except Fault (List Char) :=
  match lines[i]? with
  | some line => .ok line
  | none => .error .outOfBounds

/-- The lines before the line `i`. -/
def linesBefore (lines : List (List Char)) (i : Nat) : Except Fault (List (List Char)) :=
  if i ≤ lines.length then .ok (lines.take i) else .error .outOfBounds

/-- The definition that a line begins. -/
def definition? (line : List Char) : Except Fault (Option Definition) := do
  let text := Text.trimStart line
  let plain := (Text.after? Definition.visibility text).getD text
  match Definition.keywords.find? (·.isPrefixOf plain) with
  | none => return none
  | some keyword =>
    let name := (← cutFrom (Utf8.width keyword) plain).takeWhile isNameChar
    if name.isEmpty then return none
    let indent ← difference (Utf8.width line) (Utf8.width text)
    return some {
      name
      indent
      nameColumn := indent + (← difference (Utf8.width text) (Utf8.width plain)) +
        Utf8.width keyword
      detail :=
        Text.trimEnd (Text.dropTail (fun c => c == '\x7b' || c == ':') (Text.trimEnd text)) }

/-- A function whose body has not been ended. -/
def begun (uri : String) (d : Definition) (line : List Char) (index : Nat) (deprecated : Bool) :
    Function where
  uri
  name := String.ofList d.name
  deprecated
  detail := String.ofList d.detail
  line := index
  indent := d.indent
  nameColumn := d.nameColumn
  endLine := index
  endColumn := Utf8.width line

/-- Looks upwards from the line above `next`, as far as the line `first`, for one that is
written. -/
def findWritten (lines : List (List Char)) (first : Nat) : Nat → Except Fault (Option Nat)
  | 0 => return none
  | i + 1 => do
    if i < first then return none
    if isWritten (← lineAt lines i) then return some i
    findWritten lines first i

/-- Ends the body of a function. -/
def closeBody (lines : List (List Char)) (next : Nat) (f : Function) : Except Fault Function := do
  let last := (← findWritten lines f.line next).getD f.line
  return { f with endLine := last, endColumn := Utf8.width (← lineAt lines last) }

/-- Ends the body of the function found last. -/
def closeLast (lines : List (List Char)) (next : Nat) (found : List Function) :
    Except Fault (List Function) :=
  match found.getLast? with
  | none => return found
  | some last => return found.dropLast ++ [← closeBody lines next last]

/-- Goes on to the next line, with the functions found before it. -/
def step (uri : String) (lines : List (List Char)) (found : List Function)
    (entry : List Char × Nat) : Except Fault (List Function) := do
  match ← definition? entry.1 with
  | none => return found
  | some d =>
    let deprecated := endsInDeprecation (← linesBefore lines entry.2)
    return (← closeLast lines entry.2 found) ++ [begun uri d entry.1 entry.2 deprecated]

/-- The functions that a text defines. -/
def functions (uri text : String) : Except Fault (List Function) := do
  let lines := Text.lines text.toList
  closeLast lines lines.length (← lines.zipIdx.foldlM (step uri lines) [])

/-! ### The checks -/

theorem cutFrom_append (a b : List Char) : cutFrom (Utf8.width a) (a ++ b) = .ok b := by
  induction a with
  | nil => cases b <;> rfl
  | cons c a ih =>
    have hpos := c.utf8Size_pos
    rw [Utf8.width_cons, List.cons_append, cutFrom, if_neg (by omega), if_pos (by omega),
      Nat.add_sub_cancel_left, ih]

theorem difference_append (a b : List Char) :
    difference (Utf8.width (a ++ b)) (Utf8.width b) = .ok (Utf8.width a) := by
  rw [difference, Utf8.width_append, if_pos (Nat.le_add_left _ _), Nat.add_sub_cancel]

theorem lineAt_eq {i : Nat} (h : lines[i]? = some line) : lineAt lines i = .ok line := by
  simp only [lineAt, h]

/-- The first keyword at the front of a text is cut off it. -/
theorem findSome?_after? (keywords : List (List Char)) (plain : List Char) :
    keywords.findSome? (Text.after? · plain) =
      (keywords.find? (·.isPrefixOf plain)).map fun keyword => plain.drop keyword.length := by
  induction keywords with
  | nil => rfl
  | cons keyword keywords ih =>
    rw [List.findSome?_cons, List.find?_cons, Text.after?]
    cases keyword.isPrefixOf plain with
    | true => rfl
    | false => exact ih

theorem definition?_eq (line : List Char) : definition? line = .ok (Definition.ofLine? line) := by
  obtain ⟨blanks, visible, hblanks, hvisible, -⟩ := exists_front line
  simp only [definition?, Definition.ofLine?, findSome?_after?]
  generalize (Text.after? Definition.visibility (Text.trimStart line)).getD
    (Text.trimStart line) = plain at hvisible
  cases hfind : Definition.keywords.find? (·.isPrefixOf plain) with
  | none => rfl
  | some keyword =>
    have hprefix := List.find?_some hfind
    obtain ⟨rest, rfl⟩ := List.isPrefixOf_iff_prefix.1 hprefix
    have hindent : difference (Utf8.width line) (Utf8.width (Text.trimStart line)) =
        .ok (Utf8.width blanks) := by
      rw [congrArg Utf8.width hblanks]
      exact difference_append _ _
    have hvisibleWidth : difference (Utf8.width (Text.trimStart line))
        (Utf8.width (keyword ++ rest)) = .ok (Utf8.width visible) := by
      rw [congrArg Utf8.width hvisible]
      exact difference_append _ _
    have htext : Utf8.width line = Utf8.width blanks + Utf8.width (Text.trimStart line) :=
      (congrArg Utf8.width hblanks).trans (Utf8.width_append _ _)
    have hplain := congrArg Utf8.width hvisible
    rw [Utf8.width_append, Utf8.width_append] at hplain
    have hcolumns : Utf8.width blanks = Utf8.width line - Utf8.width (Text.trimStart line) ∧
        Utf8.width blanks + Utf8.width visible + Utf8.width keyword =
          Utf8.width line - Utf8.width rest := by omega
    simp only [cutFrom_append, hindent, hvisibleWidth, Option.map_some, List.drop_left, bind,
      Except.bind, Option.bind, pure, Except.pure, hcolumns.2]
    rw [hcolumns.1]
    split <;> rfl

theorem findWritten_eq (h : LastWritten lines next last) (hfirst : first ≤ last)
    (hnext : next ≤ lines.length) : findWritten lines first next = .ok (some last) := by
  obtain ⟨written, hat, hwritten⟩ := h.written
  -- Every line between the last one that is written and `next` is passed over.
  have hpassed (i : Nat) (hlow : last < i) (hhigh : i ≤ next) :
      findWritten lines first i = .ok (some last) := by
    induction i with
    | zero => omega
    | succ i ih =>
      rw [findWritten, if_neg (by omega)]
      rcases Nat.lt_or_eq_of_le (Nat.le_of_lt_succ hlow) with hlt | rfl
      · obtain ⟨line, hline⟩ : ∃ line, lines[i]? = some line :=
          ⟨_, List.getElem?_eq_getElem (by omega)⟩
        simp only [lineAt_eq hline, bind, Except.bind, h.later i hlt hhigh line hline,
          Bool.false_eq_true, if_false]
        exact ih hlt (by omega)
      · simp only [lineAt_eq hat, bind, Except.bind, hwritten, if_true]
        rfl
  exact hpassed next h.lt (Nat.le_refl _)

/-- Ending the body of a definition makes its function. -/
theorem closeBody_begun (uri : String) (hd : (d, index) ∈ definitions lines)
    (hlt : index < next) (hnext : next ≤ lines.length) :
    closeBody lines next (begun uri d line index (endsInDeprecation (lines.take index))) =
      .ok (toFunction uri lines d index next) := by
  have hplaced := placed_toFunction uri hd hlt hnext
  obtain ⟨final, hfinal, hcolumn⟩ := hplaced.endColumn
  have hfind : findWritten lines index next =
      .ok (some (toFunction uri lines d index next).endLine) :=
    findWritten_eq hplaced.ends hplaced.line_le hnext
  simp only [closeBody, begun, hfind, bind, Except.bind, Option.getD_some, lineAt_eq hfinal, pure,
    Except.pure, ← hcolumn]
  rfl

/-- The functions of definitions before a line at which the last body ends. -/
def closeAt (uri : String) (lines : List (List Char)) (next : Nat) :
    List (Definition × Nat) → List Function
  | [] => []
  | [(d, index)] => [toFunction uri lines d index next]
  | (d, index) :: (d', next') :: rest =>
    toFunction uri lines d index next' :: closeAt uri lines next ((d', next') :: rest)

theorem closeAt_length (uri : String) (lines : List (List Char)) (ds : List (Definition × Nat)) :
    closeAt uri lines lines.length ds = close uri lines ds := by
  fun_induction close uri lines ds with
  | case1 => rfl
  | case2 => rfl
  | case3 d index d' next rest ih => rw [closeAt, ih]

theorem closeAt_concat (uri : String) (lines : List (List Char)) (ds : List (Definition × Nat))
    (e : Definition × Nat) (next : Nat) :
    closeAt uri lines next (ds ++ [e]) =
      closeAt uri lines e.2 ds ++ [toFunction uri lines e.1 e.2 next] := by
  fun_induction closeAt uri lines e.2 ds with
  | case1 => rfl
  | case2 => rfl
  | case3 d index d' next' rest ih =>
    rw [List.cons_append, List.cons_append, closeAt, ← List.cons_append, ih]
    rfl

/-- What has been found in the lines before a place: the definitions there, of which the last has a
body that has not been ended. -/
inductive Found (uri : String) (lines : List (List Char)) :
    List (Definition × Nat) → List Function → Prop where
  | nothing : Found uri lines [] []
  | unended {ds : List (Definition × Nat)} {d : Definition} {index : Nat} {line : List Char}
      (hd : (d, index) ∈ definitions lines) (hline : lines[index]? = some line) :
      Found uri lines (ds ++ [(d, index)]) (closeAt uri lines index ds ++
        [begun uri d line index (endsInDeprecation (lines.take index))])

theorem Found.closeLast_eq {found : List Function} (h : Found uri lines ds found)
    (hbefore : ∀ e ∈ ds, e.2 < next) (hnext : next ≤ lines.length) :
    closeLast lines next found = .ok (closeAt uri lines next ds) := by
  cases h with
  | nothing => rfl
  | unended hd =>
    have hlt := hbefore _ (List.mem_append_right _ (List.mem_singleton_self _))
    simp only [closeLast, List.getLast?_concat, List.dropLast_concat,
      closeBody_begun uri hd hlt hnext, closeAt_concat]
    rfl

/-- One more line is passed. -/
theorem Found.step {found : List Function} (h : Found uri lines ds found)
    (hbefore : ∀ e ∈ ds, e.2 < index) (hline : lines[index]? = some line) :
    ∃ found', Scan.step uri lines found (line, index) = .ok found' ∧
      Found uri lines (ds ++ ((Definition.ofLine? line).map (·, index)).toList) found' := by
  have hindex : index ≤ lines.length := (List.getElem?_eq_some_iff.1 hline).1.le
  cases hof : Definition.ofLine? line with
  | none =>
    refine ⟨found, ?_, ?_⟩
    · simp only [Scan.step, definition?_eq, hof]
      rfl
    · rwa [Option.map_none, Option.toList_none, List.append_nil]
  | some d =>
    refine ⟨_, ?_, .unended (List.mem_filterMap.2
      ⟨(line, index), List.mem_zipIdx_iff_getElem?.2 hline, by simp [hof]⟩) hline⟩
    simp only [Scan.step, definition?_eq, hof, linesBefore, if_pos hindex,
      h.closeLast_eq hbefore hindex]
    rfl

theorem found_take (uri : String) (lines : List (List Char)) {n : Nat} (hn : n ≤ lines.length) :
    ∃ found, (lines.take n).zipIdx.foldlM (Scan.step uri lines) [] = .ok found ∧
      Found uri lines (definitions (lines.take n)) found := by
  induction n with
  | zero => exact ⟨[], rfl, .nothing⟩
  | succ n ih =>
    obtain ⟨found, hfold, hfound⟩ := ih (Nat.le_of_succ_le hn)
    obtain ⟨line, hline⟩ : ∃ line, lines[n]? = some line := ⟨_, List.getElem?_eq_getElem hn⟩
    have hlength : (lines.take n).length = n := List.length_take_of_le (Nat.le_of_succ_le hn)
    have hzip : (lines.take (n + 1)).zipIdx = (lines.take n).zipIdx ++ [(line, n)] := by
      rw [List.take_add_one, hline, List.zipIdx_append, hlength]
      simp
    have hbefore : ∀ e ∈ definitions (lines.take n), e.2 < n := fun e he =>
      hlength ▸ lt_length_of_mem_definitions he
    obtain ⟨found', hstep, hfound'⟩ := hfound.step hbefore hline
    refine ⟨found', ?_, ?_⟩
    · rw [hzip, List.foldlM_append, hfold]
      simp only [List.foldlM_cons, List.foldlM_nil, hstep, bind, Except.bind]
      rfl
    · have hdefinitions : definitions (lines.take (n + 1)) = definitions (lines.take n) ++
          ((Definition.ofLine? line).map (·, n)).toList := by
        rw [definitions, hzip, List.filterMap_append]
        cases hof : Definition.ofLine? line <;> simp [definitions, hof]
      rwa [hdefinitions]

/-- The pass finds the functions of the text, and no check fails. -/
theorem functions_eq (uri text : String) :
    functions uri text = .ok (Source.functions uri text) := by
  obtain ⟨found, hfold, hfound⟩ :=
    found_take uri (Text.lines text.toList) (Nat.le_refl _)
  rw [List.take_length] at hfold hfound
  simp only [functions, hfold, bind, Except.bind]
  rw [hfound.closeLast_eq (fun e he => lt_length_of_mem_definitions he) (Nat.le_refl _),
    closeAt_length]
  rfl

end Scan

end CallHierarchy.Source
