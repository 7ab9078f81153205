import CallHierarchy.Proofs.MockServer.Neighbours
import CallHierarchy.Proofs.Source.Scan

/-! The items that the mock server sends. Each stands for a function of the open documents
(`Sends.exists_function`), and since a function's name stands in its body, the selection range of
each lies within its range (`bodies_placed`). -/

namespace CallHierarchy.MockServer

open Source

open CallGraph (build)

variable {s : MockServer} {params item : Json} {direction : Direction} {documents : Documents}
  {f : Function}

/-! ### Answers -/

theorem result?_prepare_eq (s : MockServer) (params : Json) :
    s.result? PrepareParams.method params =
      some (if s.options.answersNull then .null else symbolsAt s.documents params) := rfl

/-- The answer to a question about calls has the entries of the function that the question is
about. -/
theorem result?_calls_eq (s : MockServer) (direction : Direction) (params : Json) :
    s.result? (CallsParams.method direction) params =
      some (if s.options.answersNull then .null
        else match target? (build s.documents) params with
          | some f => .array (entries (build s.documents) direction f)
          | none => .null) := by
  cases direction <;> rfl

/-- The server sends an item in its answer to a question with these parameters: in the row of the
symbols at a place, or in an entry about calls. -/
inductive Sends (s : MockServer) (params item : Json) : Prop where
  | symbol {items : List Json}
      (hresult : s.result? PrepareParams.method params = some (.array items)) (hitem : item ∈ items)
  | call {direction : Direction} {answer : List Json} {e : Json}
      (hresult : s.result? (CallsParams.method direction) params = some (.array answer))
      (he : e ∈ answer) (hitem : e.get? (Call.key direction) = some item)

theorem mem_of_atPosition? {g : CallGraph} {uri text : String} {line column : Nat}
    (h : g.atPosition? uri text line column = some f) : f ∈ g.functions := by
  simp only [CallGraph.atPosition?, Option.bind_eq_bind, Option.bind_eq_some_iff,
    Option.orElse_eq_orElse, Option.orElse_eq_or, Option.or_eq_some_iff] at h
  obtain ⟨word, -, hdefined | ⟨-, hnamed⟩⟩ := h
  · exact List.mem_of_find?_eq_some hdefined
  · exact List.mem_of_find?_eq_some hnamed

/-- What stands at a place is a function of the open documents. -/
theorem symbolsAt_cases (documents : Documents) (params : Json) :
    symbolsAt documents params = .null ∨
      ∃ f ∈ (build documents).functions, symbolsAt documents params = .array [itemJson f] := by
  unfold symbolsAt
  extract_lets found
  cases hfound : found with
  | none => exact .inl rfl
  | some f =>
    simp only [found, Option.bind_eq_bind, Option.bind_eq_some_iff] at hfound
    obtain ⟨⟨uri, line, column⟩, -, text, -, hat⟩ := hfound
    exact .inr ⟨f, mem_of_atPosition? hat, rfl⟩

/-- Every item stands for a function of the open documents. -/
theorem Sends.exists_function (h : Sends s params item) :
    ∃ f ∈ (build s.documents).functions, item = itemJson f := by
  cases h with
  | symbol hresult hitem =>
    rw [result?_prepare_eq] at hresult
    split at hresult
    · cases hresult
    · rcases symbolsAt_cases s.documents params with hnull | ⟨f, hf, harray⟩
      · rw [hnull] at hresult
        cases hresult
      · rw [harray] at hresult
        obtain rfl := Json.array.inj (Option.some.inj hresult)
        exact ⟨f, hf, List.mem_singleton.1 hitem⟩
  | @call direction answer e hresult he hitem =>
    rw [result?_calls_eq] at hresult
    split at hresult
    · cases hresult
    · split at hresult
      · obtain rfl := Json.array.inj (Option.some.inj hresult)
        obtain ⟨group, hgroup, rfl⟩ := List.mem_map.1 he
        refine ⟨group.1, mem_functions_of_group hgroup, ?_⟩
        exact Option.some.inj (hitem.symm.trans (about_entryJson direction group).item)
      · cases hresult

/-! ### Ranges -/

/-- The place `a` stands before the place `b`, or is the same. -/
def Reaches (a b : Nat × Nat) : Prop := a.1 < b.1 ∨ a.1 = b.1 ∧ a.2 ≤ b.2

/-- The item has a range, and the range of its name lies within it. -/
def Encloses (item : Json) : Prop :=
  ∃ start nameStart nameStop stop : Nat × Nat,
    item.get? "range" = some (rangeJson start.1 start.2 stop.1 stop.2) ∧
    item.get? "selectionRange" =
      some (rangeJson nameStart.1 nameStart.2 nameStop.1 nameStop.2) ∧
    Reaches start nameStart ∧ Reaches nameStart nameStop ∧ Reaches nameStop stop

theorem encloses_itemJson {lines : List (List Char)} {next : Nat} (h : f.Placed lines next) :
    Encloses (itemJson f) := by
  obtain ⟨-, -, hrange, hselection⟩ := get?_itemJson f
  refine ⟨(f.line, f.indent), (f.line, f.nameColumn), (f.line, f.nameColumn + f.nameWidth),
    (f.endLine, f.endColumn), hrange, hselection, .inr ⟨rfl, h.indent_lt.le⟩,
    .inr ⟨rfl, Nat.le_add_right _ _⟩, ?_⟩
  -- A body of one line ends with the line that holds the name.
  rcases Nat.lt_or_eq_of_le h.line_le with hlt | heq
  · exact .inl hlt
  · obtain ⟨line, hline, -, hwidth⟩ := h.named
    obtain ⟨last, hlast, hcolumn⟩ := h.endColumn
    rw [← heq, hline] at hlast
    obtain rfl := Option.some.inj hlast
    exact .inr ⟨heq, hcolumn ▸ hwidth⟩

/-- The functions of a text have bodies that follow one another, and the pass over its lines that
finds them reads nothing that is not there. The line of each definition is above the next one, and
so is the end of its body: that is the last line before the next definition, or before the end of
the text, that is neither blank nor a deprecation. The name stands at its column, behind what the
line is indented by. So in each item that a server sends, the range of the name lies within the
range of the function. -/
theorem bodies_placed :
    (∀ uri text, let lines := Text.lines text.toList
      Scan.functions uri text = .ok (functions uri text) ∧
      (functions uri text).Pairwise (fun f g => f.line < g.line ∧ f.endLine < g.line) ∧
      ∀ (i : Nat) (f : Function), (functions uri text)[i]? = some f →
        f.Placed lines (((functions uri text)[i + 1]?.map Function.line).getD lines.length)) ∧
    ∀ s params item, Sends s params item → Encloses item := by
  refine ⟨fun uri text => ⟨Scan.functions_eq uri text, ?_, fun i f hf => placed_of_getElem? hf⟩,
    fun s params item h => ?_⟩
  · exact (pairwise_line_functions uri text).and (pairwise_functions uri text)
  · obtain ⟨f, hf, rfl⟩ := h.exists_function
    obtain ⟨⟨uri, text⟩, -, hf⟩ := List.mem_flatMap.1 hf
    obtain ⟨i, hi⟩ := List.mem_iff_getElem?.1 hf
    exact encloses_itemJson (placed_of_getElem? hi)

/-- Line ends of two characters, a mark and blank lines at the end of a body, a keyword without a
name in the middle of it, and a method that is visible to others. -/
example : (functions "a" "fn é():\r\n def ()\r\n#[deprecated]\r\n\r\n  pub fn h()\n\n").map
    (fun f => (f.name, f.line, f.nameColumn, f.endLine, f.endColumn)) =
      [("é", 0, 3, 1, 7), ("h", 4, 9, 4, 12)] := by decide +kernel

end CallHierarchy.MockServer
