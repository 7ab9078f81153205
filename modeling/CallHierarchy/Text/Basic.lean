/-! Text as a list of characters: blank characters, trimming, words, lines, and the comparisons that
look at ASCII letters without regard to case. -/

namespace CallHierarchy.Text

/-- The characters with the Unicode property White_Space. -/
def isBlank (c : Char) : Bool :=
  let n := c.toNat
  (9 ≤ n && n ≤ 13) || n == 0x20 || n == 0x85 || n == 0xA0 || n == 0x1680 ||
    (0x2000 ≤ n && n ≤ 0x200A) || n == 0x2028 || n == 0x2029 || n == 0x202F || n == 0x205F ||
    n == 0x3000

/-- Whether one of the ranges, given by their first and last characters, holds the character. -/
def inRanges (ranges : List (Nat × Nat)) (c : Char) : Bool :=
  ranges.any fun (first, last) => first ≤ c.toNat && c.toNat ≤ last

def trimStart (cs : List Char) : List Char := cs.dropWhile isBlank

/-- Drops the longest tail whose characters all satisfy `p`. -/
def dropTail (p : Char → Bool) (cs : List Char) : List Char := (cs.reverse.dropWhile p).reverse

def trimEnd (cs : List Char) : List Char := dropTail isBlank cs

def trim (cs : List Char) : List Char := trimEnd (trimStart cs)

/-- Cuts at every character that satisfies `p`. The pieces are one more than the cuts, and may be
empty. -/
def pieces (p : Char → Bool) : List Char → List (List Char)
  | [] => [[]]
  | c :: cs =>
    match pieces p cs with
    | [] => [[c]]
    | piece :: rest => if p c then [] :: piece :: rest else (c :: piece) :: rest

/-- The words of a text: its longest runs of characters that are not blank. -/
def words (cs : List Char) : List (List Char) := (pieces isBlank cs).filter (!·.isEmpty)

/-- The lines of a text. A line ends at a line feed, and a carriage return right before the line
feed belongs to the end. The last line needs no end, and the text after a last end is no line. -/
def lines : List Char → List (List Char)
  | [] => []
  | '\n' :: cs => [] :: lines cs
  | '\r' :: '\n' :: cs => [] :: lines cs
  | c :: cs =>
    match lines cs with
    | [] => [[c]]
    | line :: rest => (c :: line) :: rest

/-- The part before the first `sep` and the part after it. -/
def cutAt (sep : Char) : List Char → Option (List Char × List Char)
  | [] => none
  | c :: cs => if c = sep then some ([], cs) else (cutAt sep cs).map fun (a, b) => (c :: a, b)

def lowerAscii (cs : List Char) : List Char := cs.map Char.toLower

/-- Equality of two texts when the case of ASCII letters does not count. -/
def sameAscii (a b : List Char) : Bool := lowerAscii a == lowerAscii b

/-- What follows `start`, if the text begins with it. -/
def after? (start : List Char) (cs : List Char) : Option (List Char) :=
  if start.isPrefixOf cs then some (cs.drop start.length) else none

/-- The text without the mark of the byte order that may stand before it. -/
def unmarked : List Char → List Char
  | '\uFEFF' :: cs => cs
  | cs => cs

/-- Joins texts with `sep` between each two. -/
def join (sep : List Char) : List (List Char) → List Char
  | [] => []
  | [a] => a
  | a :: rest => a ++ sep ++ join sep rest

theorem pieces_ne_nil (p : Char → Bool) (cs : List Char) : pieces p cs ≠ [] := by
  cases cs with
  | nil => simp [pieces]
  | cons c cs =>
    simp only [pieces]
    split
    · simp
    · split <;> simp

theorem cutAt_eq_some {sep : Char} {cs a b : List Char} (h : cutAt sep cs = some (a, b)) :
    cs = a ++ sep :: b ∧ sep ∉ a := by
  induction cs generalizing a b with
  | nil => simp [cutAt] at h
  | cons c cs ih =>
    simp only [cutAt] at h
    split at h
    · next hc =>
      obtain ⟨rfl, rfl⟩ := Prod.mk.inj (Option.some.inj h)
      simp [hc]
    · next hc =>
      obtain ⟨⟨a', b'⟩, h', heq⟩ := Option.map_eq_some_iff.1 h
      obtain ⟨rfl, rfl⟩ := Prod.mk.inj heq
      obtain ⟨h1, h2⟩ := ih h'
      exact ⟨by simp [h1], by simp [h2, Ne.symm hc]⟩

theorem cutAt_append {sep : Char} {a : List Char} (h : sep ∉ a) (b : List Char) :
    cutAt sep (a ++ sep :: b) = some (a, b) := by
  induction a with
  | nil => simp [cutAt]
  | cons c a ih =>
    have hc : c ≠ sep := fun hc => h (hc ▸ List.mem_cons_self)
    simp [cutAt, hc, ih fun ha => h (List.mem_cons_of_mem _ ha)]

/-- A text without a line feed is one line. -/
theorem lines_of_not_mem {cs : List Char} (hne : cs ≠ []) (h : '\n' ∉ cs) : lines cs = [cs] := by
  fun_induction lines cs with
  | case1 => exact absurd rfl hne
  | case2 cs => simp at h
  | case3 cs => simp at h
  | case4 c cs _ _ hnil ih =>
    cases cs with
    | nil => rfl
    | cons d cs => simp_all
  | case5 c cs _ _ line rest hlines ih =>
    cases cs with
    | nil => simp [lines] at hlines
    | cons d cs =>
      rw [ih (by simp) (fun hm => h (List.mem_cons_of_mem _ hm))] at hlines
      simp_all

theorem trim_of_no_blank {cs : List Char} (h : ∀ c ∈ cs, isBlank c = false) : trim cs = cs := by
  have hstart : ∀ ds : List Char, (∀ c ∈ ds, isBlank c = false) → ds.dropWhile isBlank = ds := by
    intro ds hds
    cases ds with
    | nil => rfl
    | cons d ds => simp [hds d]
  rw [trim, trimEnd, dropTail, trimStart, hstart cs h, hstart _ (by simpa using h),
    List.reverse_reverse]

end CallHierarchy.Text
