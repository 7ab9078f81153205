import CallHierarchy.Proofs.Drawing.Lines

/-! Colors as decoration. A terminal reads a text as characters that it shows and escape sequences
that it obeys. What it shows of a colored drawing is the drawing without colors, and each color ends
before the next one begins. Only the colors of the names differ between the directions
(`draw_colored`). -/

namespace CallHierarchy

namespace Terminal

/-! ### Escape sequences -/

/-- The character that begins an escape sequence. -/
def escape : Char := '\x1b'

/-- What a text is to a terminal: characters, and escape sequences with their codes. -/
inductive Token where
  | shown (c : Char)
  | sequence (code : List Char)
  deriving DecidableEq

/-- The code of an escape sequence whose first character has been read, and what follows: after a
bracket stand the digits of the code and the letter m. -/
def code? : List Char → Option (List Char × List Char)
  | '[' :: cs =>
    match Text.cutAt 'm' cs with
    | some (code, rest) => if code ≠ [] ∧ code.all Char.isDigit then some (code, rest) else none
    | none => none
  | _ => none

theorem length_lt_of_code? {cs code rest : List Char} (h : code? cs = some (code, rest)) :
    rest.length < cs.length := by
  unfold code? at h
  split at h
  · next cs =>
    split at h
    · next hcut =>
      split at h
      · obtain ⟨rfl, rfl⟩ := Prod.mk.inj (Option.some.inj h)
        rw [(Text.cutAt_eq_some hcut).1]
        simp
        omega
      · cases h
    · cases h
  · cases h

/-- Reads a text as a terminal does. -/
def tokens : List Char → List Token
  | [] => []
  | c :: cs =>
    if c = escape then
      match _hcode : code? cs with
      | some (code, rest) => .sequence code :: tokens rest
      | none => .shown c :: tokens cs
    else .shown c :: tokens cs
termination_by cs => cs.length
decreasing_by
  · have := length_lt_of_code? _hcode
    simp only [List.length_cons]
    omega
  all_goals simp

/-- The text without its escape sequences. -/
def shown (ts : List Token) : List Char :=
  ts.filterMap fun
    | .shown c => some c
    | .sequence _ => none

/-- The codes of the escape sequences, in order. -/
def codes (ts : List Token) : List (List Char) :=
  ts.filterMap fun
    | .shown _ => none
    | .sequence code => some code

/-- The code that ends a color. -/
def reset : List Char := ['0']

/-- Each color that is begun is ended before the next one begins, and before the end. -/
inductive Closed : List (List Char) → Prop
  | nil : Closed []
  | cons {code : List Char} {rest : List (List Char)} :
      code ≠ reset → Closed rest → Closed (code :: reset :: rest)

theorem Closed.append {a b : List (List Char)} (ha : Closed a) (hb : Closed b) :
    Closed (a ++ b) := by
  induction ha with
  | nil => exact hb
  | cons hcode _ ih => exact .cons hcode ih

theorem tokens_append {text : List Char} (h : escape ∉ text) (rest : List Char) :
    tokens (text ++ rest) = text.map .shown ++ tokens rest := by
  induction text with
  | nil => rfl
  | cons c text ih =>
    have hc : c ≠ escape := fun hc => h (hc ▸ List.mem_cons_self)
    rw [List.cons_append, tokens, if_neg hc, ih fun hmem => h (List.mem_cons_of_mem _ hmem)]
    rfl

theorem tokens_escape {cs code rest : List Char} (h : code? cs = some (code, rest)) :
    tokens (escape :: cs) = .sequence code :: tokens rest := by
  rw [tokens, if_pos rfl]
  split
  · next heq =>
    obtain ⟨rfl, rfl⟩ := Prod.mk.inj (Option.some.inj (h.symm.trans heq))
    rfl
  · next heq => exact absurd (h.symm.trans heq) (by simp)

theorem tokens_sequence {code : String} (hne : code.toList ≠ [])
    (hdigits : code.toList.all Char.isDigit = true) (rest : List Char) :
    tokens ((Color.sequence code).toList ++ rest) = .sequence code.toList :: tokens rest := by
  have hm : 'm' ∉ code.toList := fun hm => absurd (List.all_eq_true.1 hdigits _ hm) (by decide)
  have htext : (Color.sequence code).toList ++ rest =
      escape :: '[' :: (code.toList ++ 'm' :: rest) := by
    simp [Color.sequence, escape]
  rw [htext]
  refine tokens_escape ?_
  simp only [code?, Text.cutAt_append hm]
  exact if_pos ⟨hne, hdigits⟩

/-! ### Decorated texts -/

/-- A number that stands for a color. -/
structure IsColor (code : String) : Prop where
  ne_nil : code.toList ≠ []
  digits : code.toList.all Char.isDigit = true
  ne_reset : code.toList ≠ reset

/-- The first text is the second one with colors put on parts of it. -/
inductive Decorates : String → String → Prop
  | plain {text : String} : escape ∉ text.toList → Decorates text text
  | paint {code text : String} :
      IsColor code → escape ∉ text.toList → Decorates (Color.paint ⟨true⟩ code text) text
  | append {a a' b b' : String} : Decorates a a' → Decorates b b' → Decorates (a ++ b) (a' ++ b')

/-- A terminal shows a decorated text without its colors, and they are closed in it. What follows
is read on its own. -/
theorem Decorates.exists_tokens {colored text : String} (h : Decorates colored text) :
    ∃ ts, (∀ rest, tokens (colored.toList ++ rest) = ts ++ tokens rest) ∧
      shown ts = text.toList ∧ Closed (codes ts) := by
  -- `rest` is arbitrary, for what is appended must not be read into a sequence that came before.
  induction h with
  | @plain text hfree =>
    refine ⟨text.toList.map .shown, tokens_append hfree, ?_, ?_⟩
    · simp [shown, List.filterMap_map]
    · have hnone : codes (text.toList.map .shown) = [] := by simp [codes]
      exact hnone ▸ .nil
  | @paint code text hcode hfree =>
    refine ⟨.sequence code.toList :: (text.toList.map .shown ++ [.sequence reset]), ?_, ?_, ?_⟩
    · intro rest
      have hpaint : (Color.paint ⟨true⟩ code text).toList ++ rest = (Color.sequence code).toList ++
          (text.toList ++ ((Color.sequence "0").toList ++ rest)) := by
        simp [Color.paint]
      rw [hpaint, tokens_sequence hcode.ne_nil hcode.digits, tokens_append hfree,
        tokens_sequence (by decide) (by decide)]
      simp [reset]
    · simp [shown, List.filterMap_map]
    · have hcodes : codes (.sequence code.toList :: (text.toList.map .shown ++ [.sequence reset])) =
          [code.toList, reset] := by
        simp [codes]
      exact hcodes ▸ .cons hcode.ne_reset .nil
  | append _ _ iha ihb =>
    obtain ⟨ts, hts, hshown, hclosed⟩ := iha
    obtain ⟨us, hus, hshown', hclosed'⟩ := ihb
    refine ⟨ts ++ us, fun rest => ?_, ?_, ?_⟩
    · rw [String.toList_append, List.append_assoc, hts, hus, List.append_assoc]
    · rw [shown, List.filterMap_append, String.toList_append, ← hshown, ← hshown']
      rfl
    · rw [codes, List.filterMap_append]
      exact hclosed.append hclosed'

theorem Decorates.tokens_eq {colored text : String} (h : Decorates colored text) :
    shown (tokens colored.toList) = text.toList ∧ Closed (codes (tokens colored.toList)) := by
  obtain ⟨ts, hts, hshown, hclosed⟩ := h.exists_tokens
  have heq : tokens colored.toList = ts := by
    have hend := hts []
    rwa [List.append_nil, tokens, List.append_nil] at hend
  exact heq ▸ ⟨hshown, hclosed⟩

theorem Decorates.join {α : Type} {colored text : α → String} {rows : List α}
    (h : ∀ row ∈ rows, Decorates (colored row) (text row)) :
    Decorates (String.join (rows.map colored)) (String.join (rows.map text)) := by
  induction rows with
  | nil => exact .plain List.not_mem_nil
  | cons row rows ih =>
    rw [List.map_cons, List.map_cons, String.join_cons, String.join_cons]
    exact .append (h row List.mem_cons_self) (ih fun r hr => h r (List.mem_cons_of_mem _ hr))

theorem Decorates.ite (p : Prop) [Decidable p] {a a' b b' : String} (ha : Decorates a a')
    (hb : Decorates b b') : Decorates (if p then a else b) (if p then a' else b') := by
  split
  · exact ha
  · exact hb

end Terminal

namespace Drawing

open CallHierarchy.Tree Terminal

/-- An entry of an item whose texts hold no escape character. -/
structure Unescaped (entry : Entry) : Prop where
  ofItem : ∃ style item, entry = Entry.ofItem style item
  name : escape ∉ entry.name.toList
  path : escape ∉ entry.path.toList
  detail : escape ∉ entry.detail.toList

variable {tree : Tree}

theorem decorates_dim (text : String) (h : escape ∉ text.toList) :
    Decorates (Color.dim ⟨true⟩ text) (Color.dim ⟨false⟩ text) :=
  .paint ⟨by decide, by decide, by decide⟩ h

theorem decorates_symbol (direction : Direction) {text : String} (h : escape ∉ text.toList) :
    Decorates (Color.symbol ⟨true⟩ direction text) (Color.symbol ⟨false⟩ direction text) := by
  cases direction with
  | incoming => exact .paint ⟨by decide, by decide, by decide⟩ h
  | outgoing => exact .paint ⟨by decide, by decide, by decide⟩ h

theorem not_mem_location {entry : Entry} (h : escape ∉ entry.path.toList) :
    escape ∉ (location entry).toList := by
  have hordinal : ∀ n, escape ∉ (ordinal n).toList := not_mem_ordinal (by decide)
  have hcolon : escape ∉ ":".toList := by decide
  simp only [location, String.toList_append, List.mem_append, not_or]
  exact ⟨⟨⟨⟨h, hcolon⟩, hordinal _⟩, hcolon⟩, hordinal _⟩

theorem decorates_symbolText (h : Unescaped tree.entry) (direction : Direction) :
    Decorates (symbolText ⟨true⟩ direction tree) (symbolText ⟨false⟩ direction tree) := by
  have hnone : Decorates "" "" := .plain (by decide)
  have hblank : Decorates " " " " := .plain (by decide)
  have hgap : Decorates "  " "  " := .plain (by decide)
  have hname := decorates_symbol direction h.name
  have hicon := decorates_dim ("(" ++ tree.entry.icon ++ ")") (by
    simp only [String.toList_append, List.mem_append, not_or]
    exact ⟨⟨by decide, not_mem_icon h.ofItem (by decide) (by decide)⟩, by decide⟩)
  have hmark : Decorates (Color.red ⟨true⟩ "[deprecated]") (Color.red ⟨false⟩ "[deprecated]") :=
    .paint ⟨by decide, by decide, by decide⟩ (by decide)
  have hdeprecated := Decorates.ite (tree.entry.isDeprecated = true) (hblank.append hmark) hnone
  have hplace := decorates_dim _ (not_mem_location h.path)
  have hdetail := Decorates.ite (tree.entry.detail.isEmpty = true) hnone
    (hgap.append (decorates_dim _ (not_mem_shownDetail h.detail (by decide))))
  have hrecursive := Decorates.ite (tree.recursive = true)
    (hblank.append (decorates_dim "(recursive)" (by decide))) hnone
  exact hname.append hblank |>.append hicon |>.append hdeprecated |>.append hgap
    |>.append hplace |>.append hdetail |>.append hrecursive

theorem not_mem_groups (row : Row) : escape ∉ (String.join row.groups).toList := by
  have hgroup : ∀ itself last, escape ∉ (group itself last).toList := by decide
  rw [String.toList_join, List.mem_flatMap]
  rintro ⟨text, htext, hmem⟩
  obtain ⟨_, _, rfl⟩ := List.mem_map.1 htext
  exact hgroup _ _ hmem

theorem decorates_draw {trees : List Tree} (h : ∀ entry ∈ entriesIn trees, Unescaped entry)
    (direction : Direction) :
    Decorates (draw ⟨true⟩ direction trees) (draw ⟨false⟩ direction trees) := by
  rw [draw_eq_join, draw_eq_join]
  refine Decorates.join fun row hrow => ?_
  have hentry : Unescaped row.tree.entry := h _ (map_entry_rowsIn trees ▸ List.mem_map_of_mem hrow)
  exact ((Decorates.plain (not_mem_groups row)).append
    (decorates_symbolText hentry direction)).append (.plain (by decide))

/-- What stands behind a name does not depend on the direction. -/
theorem exists_symbolText_eq (color : Color) (tree : Tree) :
    ∃ behind, ∀ direction,
      symbolText color direction tree = color.symbol direction tree.entry.name ++ behind :=
  ⟨_, fun direction => by simp only [symbolText, String.append_assoc]; rfl⟩

/-- The colors of a drawing of items, if none of their texts holds an escape character. What a
terminal shows of it is the drawing without colors. Each color that is begun in it is ended before
the next one begins, and before the end. The drawings in the two directions differ in the colors of
the names, and are otherwise the same. -/
theorem draw_colored {trees : List Tree} (h : ∀ entry ∈ entriesIn trees, Unescaped entry) :
    (∀ direction,
      shown (tokens (draw ⟨true⟩ direction trees).toList) =
          (draw ⟨false⟩ direction trees).toList ∧
        Closed (codes (tokens (draw ⟨true⟩ direction trees).toList))) ∧
      ∃ before behind : Row → String, ∀ direction,
        draw ⟨true⟩ direction trees = String.join ((rowsIn [] trees).map fun row =>
          before row ++ Color.symbol ⟨true⟩ direction row.tree.entry.name ++ behind row) := by
  refine ⟨fun direction => (decorates_draw h direction).tokens_eq, ?_⟩
  choose behind hbehind using exists_symbolText_eq ⟨true⟩
  refine ⟨fun row => String.join row.groups, fun row => behind row.tree ++ "\n",
    fun direction => ?_⟩
  rw [draw_eq_join]
  refine congrArg String.join (List.map_congr_left fun row _ => ?_)
  simp only [Row.line, hbehind, String.append_assoc]

/-- The entry of an item is one without escape characters if the server has put none into its
texts. -/
theorem unescaped_ofItem {style : PathStyle} {item : Item} (hname : escape ∉ item.name.toList)
    (hpath : escape ∉ (Path.ofUri style item.uri.text).toList)
    (hdetail : escape ∉ (item.detail.getD "").toList) : Unescaped (Entry.ofItem style item) :=
  ⟨⟨style, item, rfl⟩, hname, hpath, hdetail⟩

/-- The name of a deprecated symbol, the mark behind it and its place have colors of their own. -/
theorem draw_colored_deprecated :
    let item := { Item.onLine "load" 4 with tags := some [1] }
    let trees : List Tree := [⟨Entry.ofItem .posix item, [], false, false⟩]
    (∀ entry ∈ entriesIn trees, Unescaped entry) ∧
      draw ⟨true⟩ .outgoing trees = "\x1b[34mload\x1b[0m \x1b[2m(type-function)\x1b[0m " ++
        "\x1b[31m[deprecated]\x1b[0m  \x1b[2m/a:5:1\x1b[0m\n" ∧
      String.ofList (shown (tokens (draw ⟨true⟩ .outgoing trees).toList)) =
        "load (type-function) [deprecated]  /a:5:1\n" ∧
      Closed (codes (tokens (draw ⟨true⟩ .outgoing trees).toList)) := by
  intro item trees
  have hfree : ∀ entry ∈ entriesIn trees, Unescaped entry := by
    intro entry hentry
    obtain rfl := List.mem_singleton.1 hentry
    exact unescaped_ofItem (by decide) (by decide +kernel) (by decide)
  obtain ⟨hshown, hclosed⟩ := (draw_colored hfree).1 .outgoing
  refine ⟨hfree, by decide +kernel, ?_, hclosed⟩
  rw [hshown]
  decide +kernel

end Drawing

end CallHierarchy
