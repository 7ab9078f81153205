import Mathlib.Algebra.GroupWithZero.Nat
import CallHierarchy.Proofs.Number.Digits
import CallHierarchy.Proofs.Tree.Walk
import CallHierarchy.Tree.Drawing

/-! The lines of a drawing. A drawing has a row for each entry, in preorder: four characters for
each level down to the entry, and then its text (`draw_eq_join`). Without colors it has a line for
each entry, and one more for each line feed in a name, in a path or in the part of a detail that is
shown (`feeds_draw`). -/

namespace CallHierarchy

namespace Tree

/-- Induction on a row of trees: over what stands below the first one, and over those beside it. -/
theorem forest_induction {motive : List Tree → Prop} (nil : motive [])
    (cons : ∀ tree rest, motive tree.children → motive rest → motive (tree :: rest)) :
    ∀ trees, motive trees
  | [] => nil
  | ⟨_, children, _, _⟩ :: rest =>
    cons _ rest (forest_induction nil cons children) (forest_induction nil cons rest)

/-- The entries of a row of trees, in preorder. -/
def entriesIn (trees : List Tree) : List Entry := (placesIn [] trees).map (·.tree.entry)

end Tree

namespace Symbol

theorem icon_mem (kind : Int32) : icon kind ∈ "type-symbol" :: icons.map Prod.snd := by
  rw [icon]
  cases hlookup : icons.lookup kind with
  | none => exact List.mem_cons_self
  | some text =>
    obtain ⟨before, after, heq, -⟩ := List.lookup_eq_some_iff.1 hlookup
    rw [heq]
    simp

/-- The icons are words of ASCII letters and hyphens. -/
theorem isWord_icon (kind : Int32) : ∀ c ∈ (icon kind).toList, c.isAlpha ∨ c = '-' := by
  have hall : (("type-symbol" :: icons.map Prod.snd).all fun text =>
      text.toList.all fun c => c.isAlpha || c == '-') = true := by decide
  intro c hc
  simpa using List.all_eq_true.1 (List.all_eq_true.1 hall _ (icon_mem kind)) c hc

end Symbol

namespace Drawing

open CallHierarchy.Tree

/-! ### Rows -/

/-- A tree in a drawing. For each entry from the root down to that of the tree, `lasts` says whether
it is the last of its siblings. -/
structure Row where
  lasts : List Bool
  tree : Tree

mutual

/-- The rows of a tree, in preorder. -/
def rows (lasts : List Bool) : Tree → List Row
  | ⟨entry, children, expanded, recursive⟩ =>
    ⟨lasts, ⟨entry, children, expanded, recursive⟩⟩ :: rowsIn lasts children

/-- The rows of siblings and of what stands below them, in preorder. Above them are the entries that
`lasts` tells of. -/
def rowsIn (lasts : List Bool) : List Tree → List Row
  | [] => []
  | tree :: rest => rows (lasts ++ [rest.isEmpty]) tree ++ rowsIn lasts rest

end

theorem rows_eq (lasts : List Bool) (tree : Tree) :
    rows lasts tree = ⟨lasts, tree⟩ :: rowsIn lasts tree.children := by
  cases tree
  rfl

/-- How far below the root the entry is. -/
def Row.depth (row : Row) : Nat := row.lasts.length - 1

/-- The rows are the places of the trees, each with as many entries above it as it is deep. -/
theorem rowsIn_eq_placesIn (lasts : List Bool) (above : List Entry)
    (hlength : lasts.length = above.length) (trees : List Tree) :
    (rowsIn lasts trees).map (fun row => (row.depth, row.tree)) =
      (placesIn above trees).map (fun p => (p.above.length, p.tree)) := by
  induction trees using forest_induction generalizing lasts above with
  | nil => rfl
  | cons tree rest hbelow ih =>
    have hlonger : (lasts ++ [rest.isEmpty]).length = (above ++ [tree.entry]).length := by
      simp [hlength]
    have hdepth : (⟨lasts ++ [rest.isEmpty], tree⟩ : Row).depth = above.length := by
      simp [Row.depth, hlength]
    rw [rowsIn, placesIn, rows_eq, places_eq, List.map_append, List.map_append, List.map_cons,
      List.map_cons, hbelow _ _ hlonger, ih _ _ hlength, hdepth]

theorem map_entry_rowsIn (trees : List Tree) :
    (rowsIn [] trees).map (·.tree.entry) = entriesIn trees := by
  have hplaces := congrArg (List.map fun q : Nat × Tree => q.2.entry)
    (rowsIn_eq_placesIn [] [] rfl trees)
  rwa [List.map_map, List.map_map] at hplaces

/-- The four characters before an entry that stand for itself or for an entry above it, which may be
the last of its siblings. -/
def group (itself last : Bool) : String :=
  if itself then (if last then "└── " else "├── ") else (if last then "    " else "│   ")

namespace Row

/-- What stands before the text of the entry: a group for each entry below the root down to this
one. -/
def groups (row : Row) : List String :=
  row.lasts.zipIdx.tail.map fun (last, level) => group (level == row.depth) last

/-- The line of the entry. -/
def line (color : Color) (direction : Direction) (row : Row) : String :=
  String.join row.groups ++ symbolText color direction row.tree ++ "\n"

@[simp] theorem length_groups (row : Row) : row.groups.length = row.depth := by
  simp [groups, depth]

/-- The groups of an entry that is no root. -/
theorem groups_concat (root : Bool) (above : List Bool) (last : Bool) (tree : Tree) :
    (⟨root :: above ++ [last], tree⟩ : Row).groups =
      above.map (group false) ++ [group true last] := by
  have hdepth : (⟨root :: above ++ [last], tree⟩ : Row).depth = above.length + 1 := by
    simp [depth]
  have habove : (above.zipIdx 1).map (fun (last, level) => group (level == above.length + 1) last) =
      above.map (group false) :=
    calc (above.zipIdx 1).map (fun (last, level) => group (level == above.length + 1) last)
        = (above.zipIdx 1).map (group false ∘ Prod.fst) :=
          -- Above the entry every level is less than its depth.
          List.map_congr_left fun p hp => by
            have hlt := (List.mem_zipIdx hp).2.1
            have hne : (p.2 == above.length + 1) = false := by
              rw [beq_eq_false_iff_ne]
              omega
            simp only [hne, Function.comp_apply]
      _ = above.map (group false) := by rw [← List.map_map, List.zipIdx_map_fst]
  rw [groups, hdepth, List.cons_append, List.zipIdx_cons, List.tail_cons, List.zipIdx_append,
    List.map_append, habove]
  simp [Nat.add_comm]

end Row

theorem branch_eq_join (root : Bool) (above : List Bool) (last : Bool) (tree : Tree) :
    branch above last = String.join (⟨root :: above ++ [last], tree⟩ : Row).groups := by
  have hgroup : group false = fun last => if last then "    " else "│   " := by
    funext last
    simp [group]
  rw [Row.groups_concat, String.join_append, hgroup]
  simp [branch, group, String.join_cons]

/-- What is drawn below an entry: the lines of the rows below it. -/
theorem below_eq_join (color : Color) (direction : Direction) (root : Bool) (above : List Bool)
    (trees : List Tree) : below color direction above trees =
      String.join ((rowsIn (root :: above) trees).map (Row.line color direction)) := by
  induction trees using forest_induction generalizing above with
  | nil => rfl
  | cons tree rest hbelow ih =>
    obtain ⟨entry, children, expanded, recursive⟩ := tree
    rw [below, whole, hbelow, ih,
      branch_eq_join root above _ ⟨entry, children, expanded, recursive⟩, rowsIn, rows,
      List.map_append, List.map_cons, String.join_append, String.join_cons, Row.line]
    simp only [List.cons_append, String.append_assoc]

/-- A drawing is made of the lines of its rows. -/
theorem draw_eq_join (color : Color) (direction : Direction) (trees : List Tree) :
    draw color direction trees =
      String.join ((rowsIn [] trees).map (Row.line color direction)) := by
  induction trees with
  | nil => rfl
  | cons tree rest ih =>
    obtain ⟨entry, children, expanded, recursive⟩ := tree
    have hroot : (⟨[rest.isEmpty], ⟨entry, children, expanded, recursive⟩⟩ : Row).groups = [] := rfl
    rw [draw, List.map_cons, String.join_cons, whole, below_eq_join color direction rest.isEmpty,
      rowsIn, rows, List.map_append, List.map_cons, String.join_append, String.join_cons, Row.line,
      List.nil_append, hroot, ← ih, draw]
    simp only [String.join_nil, String.empty_append, String.append_assoc]

/-! ### Lines -/

/-- The detail of an entry as far as it is shown. -/
def shownDetail (entry : Entry) : String :=
  String.ofList (Ellipsis.truncate detailWidth entry.detail.toList)

/-- Cutting a text short puts nothing but dots into it. -/
theorem mem_of_mem_truncate {limit : Nat} {cs : List Char} {c : Char}
    (h : c ∈ Ellipsis.truncate limit cs) : c ∈ cs ∨ c = '.' := by
  have hdots : ∀ n, c ∈ Ellipsis.dots n → c = '.' := fun n hc => List.eq_of_mem_replicate hc
  unfold Ellipsis.truncate at h
  split at h
  · exact .inl h
  · split at h
    · exact .inr (hdots _ h)
    · rcases List.mem_append.1 h with h | h
      · exact .inl (List.mem_of_mem_take h)
      · exact .inr (hdots _ h)

theorem not_mem_shownDetail {entry : Entry} {c : Char} (h : c ∉ entry.detail.toList)
    (hdot : c ≠ '.') : c ∉ (shownDetail entry).toList := by
  rw [shownDetail, String.toList_ofList]
  intro hc
  rcases mem_of_mem_truncate hc with hc | hc
  · exact h hc
  · exact hdot hc

/-- The icon of an item's entry holds nothing but letters and hyphens. -/
theorem not_mem_icon {entry : Entry} {c : Char}
    (h : ∃ style item, entry = Entry.ofItem style item) (halpha : ¬ c.isAlpha)
    (hhyphen : c ≠ '-') : c ∉ entry.icon.toList := by
  obtain ⟨style, item, rfl⟩ := h
  intro hc
  rcases Symbol.isWord_icon item.kind c hc with hc | hc
  · exact halpha hc
  · exact hhyphen hc

/-- How often a text holds a line feed. -/
def feeds (s : String) : Nat := s.toList.count '\n'

@[simp] theorem feeds_append (a b : String) : feeds (a ++ b) = feeds a + feeds b := by
  simp [feeds]

theorem feeds_eq_zero {s : String} : feeds s = 0 ↔ '\n' ∉ s.toList := List.count_eq_zero

theorem feeds_join (texts : List String) : feeds (String.join texts) = (texts.map feeds).sum := by
  induction texts with
  | nil => rfl
  | cons s texts ih => rw [String.join_cons, feeds_append, ih, List.map_cons, List.sum_cons]

theorem not_mem_ordinal {c : Char} (h : ¬ c.isDigit) (n : UInt32) : c ∉ (ordinal n).toList := by
  rw [ordinal, Decimal.toList_text]
  exact fun hc => h (Decimal.isDigit_of_mem_toDigits hc)

theorem feeds_ordinal (n : UInt32) : feeds (ordinal n) = 0 :=
  feeds_eq_zero.2 (not_mem_ordinal (by decide) n)

theorem feeds_group (itself last : Bool) : feeds (group itself last) = 0 := by
  cases itself <;> cases last <;> decide

theorem feeds_groups (row : Row) : feeds (String.join row.groups) = 0 := by
  rw [feeds_join, List.sum_eq_zero_iff_forall_eq_nat]
  intro n hn
  obtain ⟨s, hs, rfl⟩ := List.mem_map.1 hn
  obtain ⟨_, _, rfl⟩ := List.mem_map.1 hs
  exact feeds_group _ _

@[simp] theorem paint_plain (code text : String) : Color.paint ⟨false⟩ code text = text := rfl

@[simp] theorem symbol_plain (direction : Direction) (text : String) :
    Color.symbol ⟨false⟩ direction text = text := by
  cases direction <;> rfl

theorem feeds_location (entry : Entry) : feeds (location entry) = feeds entry.path := by
  have hcolon : feeds ":" = 0 := by decide
  simp only [location, feeds_append, feeds_ordinal, hcolon, Nat.add_zero]

/-- The text of an entry holds the line feeds of its name, icon and path, and those of its detail as
far as that is shown. -/
theorem feeds_symbolText (direction : Direction) (tree : Tree) :
    feeds (symbolText ⟨false⟩ direction tree) =
      feeds tree.entry.name + feeds tree.entry.icon + feeds tree.entry.path +
        feeds (shownDetail tree.entry) := by
  have hfixed : feeds "" = 0 ∧ feeds " " = 0 ∧ feeds "  " = 0 ∧ feeds "(" = 0 ∧ feeds ")" = 0 ∧
      feeds "[deprecated]" = 0 ∧ feeds "(recursive)" = 0 := by decide
  have hdetail : (if tree.entry.detail.isEmpty then 0 else feeds (shownDetail tree.entry)) =
      feeds (shownDetail tree.entry) := by
    split
    · next h =>
      rw [shownDetail, String.isEmpty_iff.1 h]
      decide
    · rfl
  rw [shownDetail] at hdetail
  simp only [symbolText, feeds_append, symbol_plain, Color.dim, Color.red, paint_plain,
    feeds_location, apply_ite feeds, hfixed, hdetail, shownDetail, Nat.add_zero, Nat.zero_add,
    ite_self]

/-- A drawing has as many line feeds as rows, and those of the texts that servers choose. -/
theorem feeds_draw_eq (direction : Direction) (trees : List Tree) :
    feeds (draw ⟨false⟩ direction trees) = (entriesIn trees).length +
      ((entriesIn trees).map fun entry => feeds entry.name + feeds entry.icon + feeds entry.path +
        feeds (shownDetail entry)).sum := by
  have hline : ∀ row : Row, feeds (row.line ⟨false⟩ direction) =
      feeds row.tree.entry.name + feeds row.tree.entry.icon + feeds row.tree.entry.path +
        feeds (shownDetail row.tree.entry) + 1 := by
    intro row
    have hend : feeds "\n" = 1 := by decide
    rw [Row.line, feeds_append, feeds_append, feeds_groups, feeds_symbolText, hend, Nat.zero_add]
  rw [draw_eq_join, feeds_join, List.map_map, ← map_entry_rowsIn, List.length_map, List.map_map]
  induction rowsIn [] trees with
  | nil => rfl
  | cons row rows ih =>
    simp only [List.map_cons, List.sum_cons, List.length_cons, Function.comp_apply, hline, ih]
    omega

/-- The lines of a drawing of converted items, without colors. There is one for each entry, and one
more for each line feed in the name of an entry, in its path, or in its detail as far as that is
shown. So there are as many lines as entries just where none of these texts has a line feed. -/
theorem feeds_draw {trees : List Tree}
    (hconverted : ∀ entry ∈ entriesIn trees, ∃ style item, entry = Entry.ofItem style item)
    (direction : Direction) :
    feeds (draw ⟨false⟩ direction trees) = (entriesIn trees).length +
        ((entriesIn trees).map fun entry =>
          feeds entry.name + feeds entry.path + feeds (shownDetail entry)).sum ∧
      (feeds (draw ⟨false⟩ direction trees) = (entriesIn trees).length ↔
        ∀ entry ∈ entriesIn trees, '\n' ∉ entry.name.toList ∧ '\n' ∉ entry.path.toList ∧
          '\n' ∉ (shownDetail entry).toList) := by
  have hicon : ∀ entry ∈ entriesIn trees, feeds entry.icon = 0 := fun entry hentry =>
    feeds_eq_zero.2 (not_mem_icon (hconverted entry hentry) (by decide) (by decide))
  have hsum : feeds (draw ⟨false⟩ direction trees) = (entriesIn trees).length +
      ((entriesIn trees).map fun entry =>
        feeds entry.name + feeds entry.path + feeds (shownDetail entry)).sum := by
    rw [feeds_draw_eq]
    refine congrArg (fun ns => _ + List.sum ns) (List.map_congr_left fun entry hentry => ?_)
    rw [hicon entry hentry, Nat.add_zero]
  refine ⟨hsum, ?_⟩
  rw [hsum, Nat.add_eq_left, List.sum_eq_zero_iff_forall_eq_nat, List.forall_mem_map]
  refine forall₂_congr fun entry _ => ?_
  rw [Nat.add_eq_zero_iff, Nat.add_eq_zero_iff, feeds_eq_zero, feeds_eq_zero, feeds_eq_zero,
    and_assoc]

/-- In the path of the lower entry the URI names a line feed. -/
theorem feeds_draw_namedFeed :
    let main := Item.onLine "main" 0
    let load := { Item.onLine "load" 4 with uri := ⟨"file:///a%0Ab", by decide⟩ }
    let trees : List Tree := [⟨Entry.ofItem .posix main,
      [⟨Entry.ofItem .posix load, [], false, false⟩], true, false⟩]
    (∀ entry ∈ entriesIn trees, ∃ style item, entry = Entry.ofItem style item) ∧
      (entriesIn trees).length = 2 ∧ feeds (draw ⟨false⟩ .outgoing trees) = 3 := by
  intro main load trees
  have hconverted : ∀ entry ∈ entriesIn trees, ∃ style item, entry = Entry.ofItem style item := by
    intro entry hentry
    rcases List.mem_pair.1 hentry with rfl | rfl
    · exact ⟨.posix, main, rfl⟩
    · exact ⟨.posix, load, rfl⟩
  refine ⟨hconverted, rfl, ?_⟩
  rw [(feeds_draw hconverted .outgoing).1]
  decide +kernel

/-- A name with a line feed takes up two lines. -/
theorem feeds_draw_brokenName :
    let item := Item.onLine "a\nb" 0
    let trees : List Tree := [⟨Entry.ofItem .posix item, [], false, false⟩]
    (∀ entry ∈ entriesIn trees, ∃ style item, entry = Entry.ofItem style item) ∧
      (entriesIn trees).length = 1 ∧ feeds (draw ⟨false⟩ .outgoing trees) = 2 := by
  refine ⟨fun entry hentry => ⟨.posix, Item.onLine "a\nb" 0, List.mem_singleton.1 hentry⟩, rfl, ?_⟩
  decide +kernel

end Drawing

end CallHierarchy
