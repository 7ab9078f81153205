import CallHierarchy.Proofs.Drawing.Lines

/-! What a drawing without colors tells of its trees. The groups before a text can be told from the
text, so a line says how deep its entry is, and the depths of all entries in preorder say which
entries are below which. Two rows of trees with the same drawing have one shape and the same texts
(`draw_tells`). -/

namespace CallHierarchy

namespace Tree

/-- Equally many trees, and below each one a row of the same shape. -/
inductive SameShape : List Tree → List Tree → Prop
  | nil : SameShape [] []
  | cons {tree other : Tree} {rest others : List Tree} :
      SameShape tree.children other.children → SameShape rest others →
      SameShape (tree :: rest) (other :: others)

end Tree

namespace Drawing

open CallHierarchy.Tree

/-! ### Depths in preorder -/

/-- The depths of the rows, in preorder. -/
def depths (lasts : List Bool) (trees : List Tree) : List Nat := (rowsIn lasts trees).map Row.depth

theorem depths_cons (lasts : List Bool) (tree : Tree) (rest : List Tree) :
    depths lasts (tree :: rest) = lasts.length ::
      (depths (lasts ++ [rest.isEmpty]) tree.children ++ depths lasts rest) := by
  have hdepth : (⟨lasts ++ [rest.isEmpty], tree⟩ : Row).depth = lasts.length := by
    simp [Row.depth]
  rw [depths, rowsIn, rows_eq, List.map_append, List.map_cons, hdepth, List.cons_append]
  rfl

/-- What comes after the rows below an entry is no deeper than the entry. -/
theorem head_depths_le {lasts : List Bool} {tail : List Nat}
    (htail : ∀ n ∈ tail.head?, n < lasts.length) (trees : List Tree) :
    ∀ n ∈ (depths lasts trees ++ tail).head?, n < lasts.length + 1 := by
  intro n hn
  cases trees with
  | nil => exact Nat.lt_succ_of_lt (htail n hn)
  | cons tree rest =>
    rw [depths_cons, List.cons_append, List.head?_cons, Option.mem_some_iff] at hn
    omega

/-- The depths in preorder determine the shape, and where they end. -/
theorem sameShape_of_depths {lasts lasts' : List Bool} (hlength : lasts.length = lasts'.length)
    {trees others : List Tree} {tail tail' : List Nat}
    (htail : ∀ n ∈ tail.head?, n < lasts.length) (htail' : ∀ n ∈ tail'.head?, n < lasts.length)
    (h : depths lasts trees ++ tail = depths lasts' others ++ tail') :
    SameShape trees others ∧ tail = tail' := by
  -- A row of siblings ends where a smaller depth follows, which is what the tails begin with. So
  -- neither row can end before the other one.
  induction trees using forest_induction generalizing lasts lasts' others tail tail' with
  | nil =>
    cases others with
    | nil => exact ⟨.nil, h⟩
    | cons other others =>
      rw [depths_cons] at h
      have hlt := htail lasts'.length (by rw [show tail = _ from h]; rfl)
      omega
  | cons tree rest hbelow ih =>
    cases others with
    | nil =>
      rw [depths_cons] at h
      have hlt := htail' lasts.length (by rw [← show _ = tail' from h]; rfl)
      omega
    | cons other others =>
      have hlonger : (lasts ++ [rest.isEmpty]).length = (lasts' ++ [others.isEmpty]).length := by
        simp [hlength]
      have hlast : (lasts ++ [rest.isEmpty]).length = lasts.length + 1 := by simp
      rw [depths_cons, depths_cons, List.cons_append, List.cons_append, List.append_assoc,
        List.append_assoc, List.cons.injEq] at h
      obtain ⟨hchildren, hrest⟩ := hbelow hlonger (hlast ▸ head_depths_le htail rest)
        (hlast ▸ hlength ▸ head_depths_le (hlength ▸ htail') others) h.2
      obtain ⟨hsiblings, hend⟩ := ih hlength htail htail' hrest
      exact ⟨.cons hchildren hsiblings, hend⟩

/-! ### Lines read back -/

/-- The characters of which branches are drawn. -/
def marks : List Char := [' ', '│', '├', '└', '─']

/-- Reads a line: the number of groups before the text, and the text. -/
def readLine : List Char → Nat × List Char
  | ' ' :: ' ' :: ' ' :: ' ' :: cs => ((readLine cs).1 + 1, (readLine cs).2)
  | '│' :: ' ' :: ' ' :: ' ' :: cs => ((readLine cs).1 + 1, (readLine cs).2)
  | '├' :: '─' :: '─' :: ' ' :: cs => (1, cs)
  | '└' :: '─' :: '─' :: ' ' :: cs => (1, cs)
  | cs => (0, cs)

theorem readLine_text {text : List Char} (h : ∀ c ∈ text.head?, c ∉ marks) :
    readLine text = (0, text) := by
  unfold readLine
  split
  · exact absurd (h ' ' rfl) (by decide)
  · exact absurd (h '│' rfl) (by decide)
  · exact absurd (h '├' rfl) (by decide)
  · exact absurd (h '└' rfl) (by decide)
  · rfl

theorem readLine_itself (last : Bool) (text : List Char) :
    readLine ((group true last).toList ++ text) = (1, text) := by
  cases last <;> rfl

theorem readLine_above (last : Bool) (cs : List Char) :
    readLine ((group false last).toList ++ cs) = ((readLine cs).1 + 1, (readLine cs).2) := by
  cases last <;> rfl

theorem readLine_groups {row : Row} {text : List Char} (hrow : row.lasts ≠ [])
    (htext : ∀ c ∈ text.head?, c ∉ marks) :
    readLine ((String.join row.groups).toList ++ text) = (row.depth, text) := by
  obtain ⟨lasts, tree⟩ := row
  obtain ⟨root, lasts, rfl⟩ := List.exists_cons_of_ne_nil hrow
  rcases List.eq_nil_or_concat' lasts with rfl | ⟨above, last, rfl⟩
  · exact readLine_text htext
  · have hdepth : (⟨root :: (above ++ [last]), tree⟩ : Row).depth = above.length + 1 := by
      simp [Row.depth]
    rw [hdepth, ← List.cons_append, Row.groups_concat, String.toList_join, List.flatMap_append,
      List.flatMap_singleton, List.append_assoc]
    clear hrow hdepth
    -- Each group above is read on its own; the last one ends the groups.
    induction above with
    | nil => exact readLine_itself last text
    | cons first above ih =>
      rw [List.map_cons, List.flatMap_cons, List.append_assoc, readLine_above, ih]
      rfl

/-- Lines that hold no line feed can be told apart by the line feeds at their ends. -/
theorem eq_of_flatMap_ended {texts others : List (List Char)} (htexts : ∀ cs ∈ texts, '\n' ∉ cs)
    (hothers : ∀ cs ∈ others, '\n' ∉ cs)
    (h : texts.flatMap (· ++ ['\n']) = others.flatMap (· ++ ['\n'])) : texts = others := by
  induction texts generalizing others with
  | nil =>
    cases others with
    | nil => rfl
    | cons other others => simp at h
  | cons cs texts ih =>
    cases others with
    | nil => simp at h
    | cons other others =>
      have hcut := congrArg (Text.cutAt '\n') h
      simp only [List.flatMap_cons, List.append_assoc, List.singleton_append,
        Text.cutAt_append (htexts cs List.mem_cons_self),
        Text.cutAt_append (hothers other List.mem_cons_self), Option.some.injEq,
        Prod.mk.injEq] at hcut
      rw [hcut.1, ih (fun ds hds => htexts ds (List.mem_cons_of_mem _ hds))
        (fun ds hds => hothers ds (List.mem_cons_of_mem _ hds)) hcut.2]

/-! ### Drawings read back -/

/-- An entry of an item whose text can be told from the branches before it and from the texts around
it. -/
structure Legible (entry : Entry) : Prop where
  ofItem : ∃ style item, entry = Entry.ofItem style item
  name : ∃ c ∈ entry.name.toList.head?, c ∉ marks
  name_feed : '\n' ∉ entry.name.toList
  path_feed : '\n' ∉ entry.path.toList
  detail_feed : '\n' ∉ entry.detail.toList

theorem lasts_ne_nil {lasts : List Bool} {trees : List Tree} {row : Row}
    (h : row ∈ rowsIn lasts trees) : row.lasts ≠ [] := by
  induction trees using forest_induction generalizing lasts with
  | nil => cases h
  | cons tree rest hbelow ih =>
    rw [rowsIn, rows_eq, List.mem_append, List.mem_cons] at h
    rcases h with (rfl | h) | h
    · simp
    · exact hbelow h
    · exact ih h

namespace Legible

variable {tree : Tree}

theorem head_symbolText (h : Legible tree.entry) (direction : Direction) :
    ∀ c ∈ (symbolText ⟨false⟩ direction tree).toList.head?, c ∉ marks := by
  obtain ⟨c, hc, hmark⟩ := h.name
  intro d hd
  simp only [symbolText, symbol_plain, String.toList_append, List.append_assoc, List.head?_append,
    Option.mem_def.1 hc, Option.some_or, Option.mem_some_iff] at hd
  exact hd ▸ hmark

theorem feeds_symbolText_eq_zero (h : Legible tree.entry) (direction : Direction) :
    feeds (symbolText ⟨false⟩ direction tree) = 0 := by
  have hicon : feeds tree.entry.icon = 0 :=
    feeds_eq_zero.2 (not_mem_icon h.ofItem (by decide) (by decide))
  have hdetail : feeds (shownDetail tree.entry) = 0 :=
    feeds_eq_zero.2 (not_mem_shownDetail h.detail_feed (by decide))
  rw [feeds_symbolText, feeds_eq_zero.2 h.name_feed, hicon, feeds_eq_zero.2 h.path_feed, hdetail]

end Legible

/-- A line without its end. -/
def Row.content (direction : Direction) (row : Row) : List Char :=
  (String.join row.groups).toList ++ (symbolText ⟨false⟩ direction row.tree).toList

theorem toList_draw (direction : Direction) (trees : List Tree) :
    (draw ⟨false⟩ direction trees).toList =
      ((rowsIn [] trees).map (Row.content direction)).flatMap (· ++ ['\n']) := by
  rw [draw_eq_join, String.toList_join, List.flatMap_map, List.flatMap_map]
  refine List.flatMap_congr fun row _ => ?_
  rw [Row.line, String.toList_append, String.toList_append]
  rfl

theorem legible_of_mem_rowsIn {trees : List Tree} (h : ∀ entry ∈ entriesIn trees, Legible entry)
    {row : Row} (hrow : row ∈ rowsIn [] trees) : Legible row.tree.entry := by
  refine h _ ?_
  rw [← map_entry_rowsIn]
  exact List.mem_map_of_mem hrow

theorem not_mem_content {trees : List Tree} (h : ∀ entry ∈ entriesIn trees, Legible entry)
    (direction : Direction) :
    ∀ cs ∈ (rowsIn [] trees).map (Row.content direction), '\n' ∉ cs := by
  intro cs hcs hfeed
  obtain ⟨row, hrow, rfl⟩ := List.mem_map.1 hcs
  rcases List.mem_append.1 hfeed with hfeed | hfeed
  · exact feeds_eq_zero.1 (feeds_groups row) hfeed
  · exact feeds_eq_zero.1 ((legible_of_mem_rowsIn h hrow).feeds_symbolText_eq_zero direction) hfeed

theorem map_readLine_content {trees : List Tree} (h : ∀ entry ∈ entriesIn trees, Legible entry)
    (direction : Direction) :
    ((rowsIn [] trees).map (Row.content direction)).map readLine =
      (rowsIn [] trees).map fun row =>
        (row.depth, (symbolText ⟨false⟩ direction row.tree).toList) := by
  rw [List.map_map]
  exact List.map_congr_left fun row hrow =>
    readLine_groups (lasts_ne_nil hrow) ((legible_of_mem_rowsIn h hrow).head_symbolText direction)

/-- The group for the entry at a level, on the way from the root to an entry. -/
theorem Row.getElem?_groups {row : Row} {level : Nat} {last : Bool}
    (h : row.lasts[level + 1]? = some last) :
    row.groups[level]? = some (group (level + 1 == row.depth) last) := by
  have hpair : row.lasts.zipIdx[level + 1]? = some (last, level + 1) := by
    rw [List.getElem?_zipIdx, h, Nat.zero_add]
    rfl
  rw [Row.groups, List.getElem?_map, List.getElem?_tail, hpair]
  rfl

/-- A drawing without colors is made of a line for each entry, in preorder. Before the text of an
entry stand as many groups of four characters as the entry is deep. The group for an ancestor below
the root is blank if that is the last of its siblings, and else a bar. The last group, for the entry
itself, is a corner if the entry is the last of its siblings, and else a tee. If two rows of trees
with legible entries have the same drawing, they have the same shape, and their entries have the
same texts. -/
theorem draw_tells (direction direction' : Direction) (trees others : List Tree) :
    draw ⟨false⟩ direction trees = String.join ((rowsIn [] trees).map fun row =>
        String.join row.groups ++ symbolText ⟨false⟩ direction row.tree ++ "\n") ∧
      (∀ row ∈ rowsIn [] trees, row.lasts.length = row.depth + 1 ∧
        row.groups.length = row.depth ∧
        ∀ level last, row.lasts[level + 1]? = some last → row.groups[level]? = some (
          if level + 1 = row.depth then (if last then "└── " else "├── ")
          else if last then "    " else "│   ")) ∧
      ((∀ entry ∈ entriesIn trees, Legible entry) → (∀ entry ∈ entriesIn others, Legible entry) →
        draw ⟨false⟩ direction trees = draw ⟨false⟩ direction' others →
        SameShape trees others ∧
          (rowsIn [] trees).map (fun row => symbolText ⟨false⟩ direction row.tree) =
            (rowsIn [] others).map (fun row => symbolText ⟨false⟩ direction' row.tree)) := by
  refine ⟨draw_eq_join _ _ _, fun row hrow => ⟨?_, row.length_groups, fun level last hlast => ?_⟩,
    fun htrees hothers hdraw => ?_⟩
  · have hpos := List.length_pos_iff.2 (lasts_ne_nil hrow)
    rw [Row.depth]
    omega
  · rw [Row.getElem?_groups hlast, group]
    simp only [beq_iff_eq]
  · have hcontents : (rowsIn [] trees).map (Row.content direction) =
        (rowsIn [] others).map (Row.content direction') := by
      refine eq_of_flatMap_ended (not_mem_content htrees direction)
        (not_mem_content hothers direction') ?_
      rw [← toList_draw, ← toList_draw, hdraw]
    have hread := congrArg (List.map readLine) hcontents
    rw [map_readLine_content htrees, map_readLine_content hothers] at hread
    have hdepths : depths [] trees = depths [] others := by
      have hfst := congrArg (List.map Prod.fst) hread
      rwa [List.map_map, List.map_map] at hfst
    have htexts := congrArg (List.map fun p => String.ofList p.2) hread
    simp only [List.map_map, Function.comp_def, String.ofList_toList] at htexts
    have hends : depths [] trees ++ [] = depths [] others ++ [] := congrArg (· ++ []) hdepths
    exact ⟨(sameShape_of_depths rfl (by simp) (by simp) hends).1, htexts⟩

/-- The texts of an item are legible if the server has put no line feed into them, and no branch
before its name. -/
theorem legible_ofItem {style : PathStyle} {item : Item}
    (hname : ∃ c ∈ item.name.toList.head?, c ∉ marks) (hnameFeed : '\n' ∉ item.name.toList)
    (hpath : '\n' ∉ (Path.ofUri style item.uri.text).toList)
    (hdetail : '\n' ∉ (item.detail.getD "").toList) : Legible (Entry.ofItem style item) :=
  ⟨⟨style, item, rfl⟩, hname, hnameFeed, hpath, hdetail⟩

/-- Whether the lower entry was expanded is not drawn. -/
theorem draw_tells_expanded :
    let main := Entry.ofItem .posix (Item.onLine "main" 0)
    let load := Entry.ofItem .posix (Item.onLine "load" 4)
    let trees : List Tree := [⟨main, [⟨load, [], false, false⟩], true, false⟩]
    let others : List Tree := [⟨main, [⟨load, [], true, false⟩], true, false⟩]
    (∀ entry ∈ entriesIn trees, Legible entry) ∧ (∀ entry ∈ entriesIn others, Legible entry) ∧
      draw ⟨false⟩ .incoming trees =
        "main (type-function)  /a:1:1\n└── load (type-function)  /a:5:1\n" ∧
      draw ⟨false⟩ .incoming trees = draw ⟨false⟩ .outgoing others ∧ SameShape trees others := by
  intro main load trees others
  have hmain : Legible main := legible_ofItem ⟨'m', rfl, by decide⟩ (by decide) (by decide +kernel)
    (by decide)
  have hload : Legible load := legible_ofItem ⟨'l', rfl, by decide⟩ (by decide) (by decide +kernel)
    (by decide)
  have hlegible : ∀ entry ∈ [main, load], Legible entry := by
    intro entry hentry
    rcases List.mem_pair.1 hentry with rfl | rfl
    · exact hmain
    · exact hload
  have hsame : draw ⟨false⟩ .incoming trees = draw ⟨false⟩ .outgoing others := rfl
  refine ⟨hlegible, hlegible, by decide +kernel, hsame, ?_⟩
  exact ((draw_tells .incoming .outgoing trees others).2.2 hlegible hlegible hsame).1

end Drawing

end CallHierarchy
