import CallHierarchy.Proofs.MockServer.Sent
import CallHierarchy.Proofs.Source.Lookup

/-! Places, items and functions. The mock server answers with the item of a function at the columns
of its name, and takes the item of a function for that function, also where others have the same
name (`answers_resolve`). -/

namespace CallHierarchy

namespace Text

/-- Each line takes up a byte at least. -/
theorem length_lines_le (cs : List Char) : (lines cs).length ≤ Utf8.width cs := by
  fun_induction lines cs with
  | case1 => exact Nat.le_refl 0
  | case2 cs ih =>
    have hpos := ('\n').utf8Size_pos
    rw [List.length_cons, Utf8.width_cons]
    omega
  | case3 cs ih =>
    have hpos := ('\n').utf8Size_pos
    rw [List.length_cons, Utf8.width_cons, Utf8.width_cons]
    omega
  | case4 c cs _ _ hnil ih =>
    have hpos := c.utf8Size_pos
    rw [List.length_singleton, Utf8.width_cons]
    omega
  | case5 c cs _ _ line rest hlines ih =>
    rw [hlines, List.length_cons] at ih
    rw [List.length_cons, Utf8.width_cons]
    omega

end Text

namespace MockServer

open Source

open CallGraph (build)

variable {s : MockServer} {params : Json} {documents : Documents} {f : Function} {text : String}

/-- The bytes of each document can be counted in 64 bits, as those of all texts in memory can. -/
def Counted (documents : Documents) : Prop := ∀ e ∈ documents, e.2.utf8ByteSize ≤ Decimal.max64

/-! ### Items -/

theorem Counted.line_le (h : Counted documents) (hf : f ∈ (build documents).functions) :
    f.line ≤ Decimal.max64 := by
  obtain ⟨⟨uri, text⟩, hmem, hf⟩ := List.mem_flatMap.1 hf
  obtain ⟨line, -, -, hline, -⟩ := (stands_of_mem_functions hf).defined
  have hlt := (List.getElem?_eq_some_iff.1 hline).1
  have hlines := Text.length_lines_le text.toList
  have hbytes : text.utf8ByteSize ≤ Decimal.max64 := h (uri, text) hmem
  rw [Utf8.width_toList] at hlines
  omega

/-- The item of a function is taken for the function. -/
theorem target?_build (hdocs : (documents.map Prod.fst).Nodup) (hcounted : Counted documents)
    (hf : f ∈ (build documents).functions) (hitem : params.get? "item" = some (itemJson f)) :
    target? (build documents) params = some f := by
  rw [target?_itemJson hitem (hcounted.line_le hf), CallGraph.find?_build hdocs hf]

/-! ### Places -/

theorem symbolsAt_eq {uri : String} {line column : Nat}
    (hplace : place? params = some (uri, line, column)) (htext : documents.get? uri = some text)
    (hat : (build documents).atPosition? uri text line column = some f) :
    symbolsAt documents params = .array [itemJson f] := by
  simp [symbolsAt, hplace, htext, hat]

theorem symbolsAt_name (hdocs : (documents.map Prod.fst).Nodup)
    (hf : f ∈ (build documents).functions) (hascii : ∀ c ∈ f.name.toList, c.toNat < 128)
    {column : Nat} (hplace : place? params = some (f.uri, f.line, column))
    (hlow : f.nameColumn ≤ column) (hhigh : column < f.nameColumn + f.nameWidth) :
    symbolsAt documents params = .array [itemJson f] := by
  obtain ⟨text, htext, -⟩ := (CallGraph.mem_functions_build hdocs).1 hf
  exact symbolsAt_eq hplace htext
    (CallGraph.atPosition?_build hdocs hf htext hascii hlow hhigh)

theorem exists_symbolsAt_call (hdocs : (documents.map Prod.fst).Nodup) {call : CallSite}
    (hcall : call ∈ (build documents).calls)
    (hascii : ∀ c ∈ call.callee.name.toList, c.toNat < 128) {column : Nat}
    (hplace : place? params = some (call.caller.uri, call.line, column))
    (hlow : call.column ≤ column) (hhigh : column < call.column + call.callee.nameWidth) :
    ∃ h ∈ (build documents).functions, h.name = call.callee.name ∧
      symbolsAt documents params = .array [itemJson h] := by
  obtain ⟨text, -, htext, -⟩ := ((CallGraph.mem_calls_iff hdocs).1 hcall).called
  obtain ⟨h, hh, hname, hat⟩ :=
    CallGraph.exists_atPosition?_call hdocs hcall htext hascii hlow hhigh
  exact ⟨h, hh, hname, symbolsAt_eq hplace htext hat⟩

/-- Places, items and functions go together. Where the open documents have URIs of their own:

a question about a column of an ASCII name, in the line that defines a function, is answered with
the item of that function, and one about a column of the name in a call is answered with the item of
some function of that name; the item of a function is taken for that function; and every item that
the server sends is that of a function, and is taken for it. -/
theorem answers_resolve (hdocs : (s.documents.map Prod.fst).Nodup) (hcounted : Counted s.documents)
    (hanswers : s.options.answersNull = false) :
    (∀ f ∈ (build s.documents).functions, (∀ c ∈ f.name.toList, c.toNat < 128) →
      (∀ params column, place? params = some (f.uri, f.line, column) → f.nameColumn ≤ column →
        column < f.nameColumn + f.nameWidth →
        s.result? PrepareParams.method params = some (.array [itemJson f])) ∧
      ∀ call ∈ (build s.documents).calls, call.callee = f → ∀ params column,
        place? params = some (call.caller.uri, call.line, column) → call.column ≤ column →
        column < call.column + f.nameWidth →
        ∃ h ∈ (build s.documents).functions, h.name = f.name ∧
          s.result? PrepareParams.method params = some (.array [itemJson h])) ∧
    (∀ f ∈ (build s.documents).functions, ∀ params : Json,
      params.get? "item" = some (itemJson f) → target? (build s.documents) params = some f) ∧
    ∀ params item, Sends s params item → ∃ f ∈ (build s.documents).functions, item = itemJson f ∧
      ∀ params' : Json, params'.get? "item" = some item →
        target? (build s.documents) params' = some f := by
  have hresult (params : Json) :
      s.result? PrepareParams.method params = some (symbolsAt s.documents params) := by
    rw [result?_prepare_eq, hanswers]
    rfl
  simp only [hresult]
  refine ⟨fun f hf hascii => ⟨fun params column hplace hlow hhigh => ?_, ?_⟩,
    fun f hf params hitem => target?_build hdocs hcounted hf hitem, fun params item hsends => ?_⟩
  · rw [symbolsAt_name hdocs hf hascii hplace hlow hhigh]
  · rintro call hcall rfl params column hplace hlow hhigh
    obtain ⟨h, hh, hname, hsymbols⟩ :=
      exists_symbolsAt_call hdocs hcall hascii hplace hlow hhigh
    exact ⟨h, hh, hname, by rw [hsymbols]⟩
  · obtain ⟨f, hf, rfl⟩ := hsends.exists_function
    exact ⟨f, hf, rfl, fun params' hitem => target?_build hdocs hcounted hf hitem⟩

/-- A question about a place. -/
def askAt (uri : String) (line column : Nat) : Json :=
  .object [
    ("position", .object [("character", .nat column), ("line", .nat line)]),
    ("textDocument", .object [("uri", .string uri)])]

/-- The second of two functions of one name. -/
def secondF : Function := ⟨"b", "f", false, "fn f(): g()", 0, 0, 3, 0, 11⟩

/-- It calls a function of the other document. -/
def callOfG : CallSite := ⟨secondF, ⟨"a", "g", false, "fn g()", 2, 0, 3, 3, 10⟩, 0, 8⟩

theorem answers_resolve_twoSources :
    let s : MockServer := { start .plain with documents := twoSources }
    (s.documents.map Prod.fst).Nodup ∧ Counted s.documents ∧ s.options.answersNull = false ∧
      s.result? PrepareParams.method (askAt "b" 0 3) = some (.array [itemJson secondF]) ∧
      (∃ h ∈ (build s.documents).functions, h.name = "g" ∧
        s.result? PrepareParams.method (askAt "b" 0 8) = some (.array [itemJson h])) ∧
      target? (build s.documents) (.object [("item", itemJson secondF)]) = some secondF := by
  intro s
  have hdocs : (s.documents.map Prod.fst).Nodup := by decide
  have hcounted : Counted s.documents :=
    show ∀ e ∈ twoSources, e.2.utf8ByteSize ≤ Decimal.max64 by decide
  have hf : secondF ∈ (build s.documents).functions := by decide +kernel
  have hg : callOfG.callee ∈ (build s.documents).functions := by decide +kernel
  have hcall : callOfG ∈ (build s.documents).calls := by decide +kernel
  obtain ⟨hplaces, hitems, -⟩ := answers_resolve hdocs hcounted rfl
  exact ⟨hdocs, hcounted, rfl,
    (hplaces secondF hf (by simp [secondF])).1 _ 3 rfl (by decide) (by decide),
    (hplaces _ hg (by simp [callOfG])).2 callOfG hcall rfl _ 8 rfl (by decide) (by decide),
    hitems secondF hf _ rfl⟩

end MockServer

end CallHierarchy
