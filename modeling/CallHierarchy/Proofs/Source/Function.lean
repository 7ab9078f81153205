import Mathlib.Data.List.Nodup
import Mathlib.Data.List.TakeWhile
import CallHierarchy.Source.Function

/-! Where the functions of a text stand in its lines. Their bodies follow one another, so a function
is told by the line that defines it. -/

namespace CallHierarchy

namespace Source

/-- A name in a line: what stands before it, and what stands behind it. -/
structure Named (name line before after : List Char) : Prop where
  line_eq : line = before ++ name ++ after
  /-- A blank stands before the name. -/
  before_last : before.getLast? = some ' '
  name_ne_nil : name ≠ []
  name_chars : ∀ c ∈ name, isNameChar c = true
  /-- The name goes as far as it can. -/
  after_head : ∀ c ∈ after.head?, isNameChar c = false

theorem after?_eq_some {start cs rest : List Char} (h : Text.after? start cs = some rest) :
    cs = start ++ rest := by
  unfold Text.after? at h
  split at h
  · next hp =>
    rw [← Option.some.inj h]
    exact (List.prefix_iff_eq_append.1 (List.isPrefixOf_iff_prefix.1 hp)).symm
  · cases h

theorem getLast?_keyword {keyword : List Char} (h : keyword ∈ Definition.keywords) :
    keyword.getLast? = some ' ' := by
  revert keyword
  decide

theorem width_keyword_pos {keyword : List Char} (h : keyword ∈ Definition.keywords) :
    0 < Utf8.width keyword := by
  revert keyword
  decide

/-- Blanks may stand at the front of a line, and behind them the word of visibility. -/
theorem exists_front (line : List Char) :
    ∃ blanks visible, line = blanks ++ Text.trimStart line ∧
      Text.trimStart line = visible ++
        (Text.after? Definition.visibility (Text.trimStart line)).getD (Text.trimStart line) ∧
      visible ∈ [[], Definition.visibility] := by
  obtain ⟨blanks, hblanks⟩ := List.dropWhile_suffix (l := line) Text.isBlank
  cases hvisible : Text.after? Definition.visibility (Text.trimStart line) with
  | none => exact ⟨blanks, [], hblanks.symm, rfl, by simp⟩
  | some plain => exact ⟨blanks, _, hblanks.symm, after?_eq_some hvisible, by simp⟩

/-- A line that begins a definition has its name in it. -/
theorem named_of_ofLine? {line : List Char} {d : Definition}
    (h : Definition.ofLine? line = some d) :
    ∃ before after, Named d.name line before after ∧ d.nameColumn = Utf8.width before ∧
      d.indent < d.nameColumn := by
  simp only [Definition.ofLine?, Option.bind_eq_bind, Option.bind_eq_some_iff] at h
  obtain ⟨rest, hrest, h⟩ := h
  split at h
  · cases h
  · next hname =>
    obtain ⟨keyword, hkeyword, hafter⟩ := List.exists_of_findSome?_eq_some hrest
    obtain ⟨blanks, visible, hblanks, hvisible, -⟩ := exists_front line
    rw [after?_eq_some hafter] at hvisible
    have hline : line = (blanks ++ visible ++ keyword) ++ rest := by
      simp only [List.append_assoc]
      rw [← hvisible, ← hblanks]
    have htext : Utf8.width line = Utf8.width blanks + Utf8.width (Text.trimStart line) :=
      (congrArg Utf8.width hblanks).trans (Utf8.width_append _ _)
    have hcolumn : Utf8.width line =
        Utf8.width (blanks ++ visible ++ keyword) + Utf8.width rest := by
      rw [← Utf8.width_append, ← hline]
    have hpos := width_keyword_pos hkeyword
    obtain rfl := Option.some.inj h
    refine ⟨blanks ++ visible ++ keyword, rest.dropWhile isNameChar, ⟨?_, ?_, ?_, ?_, ?_⟩, ?_, ?_⟩
    · rw [List.append_assoc, List.takeWhile_append_dropWhile]
      exact hline
    · rw [List.getLast?_append, getLast?_keyword hkeyword]
      rfl
    · simpa using hname
    · exact fun c hc => List.mem_takeWhile_imp hc
    · intro c hc
      have hdrop := List.head?_dropWhile_not isNameChar rest
      rw [Option.mem_def.1 hc] at hdrop
      exact hdrop
    · simp only
      omega
    · simp only
      rw [Utf8.width_append, Utf8.width_append] at hcolumn
      omega

/-- A function as the lines of its document have it. -/
structure Function.Stands (uri : String) (lines : List (List Char)) (f : Function) : Prop where
  uri_eq : f.uri = uri
  defined : ∃ line before after, lines[f.line]? = some line ∧
    Named f.name.toList line before after ∧ f.nameColumn = Utf8.width before
  indent_le : f.indent ≤ f.nameColumn
  line_le : f.line ≤ f.endLine
  ended : ∃ line, lines[f.endLine]? = some line ∧ f.endColumn = Utf8.width line

theorem getLast?_index_lt {α : Type} (p : α × Nat → Bool) {xs : List α} (h : xs ≠ []) :
    ((xs.zipIdx.filter p).getLast?.map Prod.snd).getD 0 < xs.length := by
  cases hlast : (xs.zipIdx.filter p).getLast? with
  | none => exact List.length_pos_iff.2 h
  | some last =>
    have hmem := (List.mem_filter.1 (List.mem_of_getLast? hlast)).1
    have hlt := List.snd_lt_of_mem_zipIdx hmem
    simpa using hlt

theorem lastOfBody_lt {lines : List (List Char)} (h : lines ≠ []) :
    lastOfBody lines < lines.length :=
  getLast?_index_lt _ h

theorem mem_definitions {lines : List (List Char)} {d : Definition} {index : Nat}
    (h : (d, index) ∈ definitions lines) :
    ∃ line, lines[index]? = some line ∧ Definition.ofLine? line = some d := by
  obtain ⟨⟨line, i⟩, hline, hd⟩ := List.mem_filterMap.1 h
  obtain ⟨d', hd', heq⟩ := Option.map_eq_some_iff.1 hd
  obtain ⟨rfl, rfl⟩ := Prod.mk.inj heq
  exact ⟨line, List.mem_zipIdx_iff_getElem?.1 hline, hd'⟩

theorem pairwise_zipIdx {α : Type} (xs : List α) : xs.zipIdx.Pairwise (·.2 < ·.2) := by
  have hrange : (xs.zipIdx.map Prod.snd).Pairwise (· < ·) := by
    rw [List.zipIdx_map_snd]
    exact List.pairwise_lt_range' 1
  exact List.pairwise_map.1 hrange

theorem pairwise_definitions (lines : List (List Char)) :
    (definitions lines).Pairwise (·.2 < ·.2) := by
  refine List.Pairwise.filterMap _ ?_ (pairwise_zipIdx lines)
  rintro ⟨line, i⟩ ⟨line', i'⟩ hlt b hb b' hb'
  obtain ⟨d, -, rfl⟩ := Option.map_eq_some_iff.1 hb
  obtain ⟨d', -, rfl⟩ := Option.map_eq_some_iff.1 hb'
  exact hlt

/-- The body of a definition ends on one of its lines. -/
theorem stands_toFunction (uri : String) {lines : List (List Char)} {d : Definition}
    {index next : Nat} (hd : (d, index) ∈ definitions lines) (hlt : index < next)
    (hnext : next ≤ lines.length) :
    (toFunction uri lines d index next).Stands uri lines ∧
      (toFunction uri lines d index next).endLine < next := by
  obtain ⟨line, hline, hof⟩ := mem_definitions hd
  obtain ⟨before, after, hnamed, hcolumn, hindent⟩ := named_of_ofLine? hof
  have hlength : ((lines.drop index).take (next - index)).length = next - index := by
    rw [List.length_take, List.length_drop]
    omega
  have hbody : (lines.drop index).take (next - index) ≠ [] :=
    List.ne_nil_of_length_pos (by omega)
  have hlast := lastOfBody_lt hbody
  rw [hlength] at hlast
  simp only [toFunction]
  generalize lastOfBody ((lines.drop index).take (next - index)) = last at hlast
  obtain ⟨final, hfinal⟩ : ∃ final, lines[index + last]? = some final :=
    ⟨_, List.getElem?_eq_getElem (by omega)⟩
  have hend : ((lines.drop index).take (next - index))[last]? = some final := by
    rw [List.getElem?_take_of_lt hlast, List.getElem?_drop, hfinal]
  refine ⟨⟨rfl, ⟨line, before, after, hline, ?_, hcolumn⟩, hindent.le, Nat.le_add_right index last,
    ⟨final, hfinal, ?_⟩⟩, ?_⟩
  · rwa [String.toList_ofList]
  · rw [hend, Option.getD_some]
  · omega

section Close

variable {uri : String} {lines : List (List Char)} {ds : List (Definition × Nat)}

theorem mem_close {f : Function} (hpair : ds.Pairwise (·.2 < ·.2))
    (hbound : ∀ e ∈ ds, e.2 < lines.length) (hf : f ∈ close uri lines ds) :
    ∃ e ∈ ds, ∃ next, e.2 < next ∧ next ≤ lines.length ∧
      f = toFunction uri lines e.1 e.2 next := by
  fun_induction close uri lines ds with
  | case1 => cases hf
  | case2 d index =>
    exact ⟨(d, index), by simp, lines.length, hbound (d, index) (by simp), Nat.le_refl _,
      List.mem_singleton.1 hf⟩
  | case3 d index d' next rest ih =>
    obtain ⟨hfirst, hpair⟩ := List.pairwise_cons.1 hpair
    have hnext := hbound (d', next) (by simp)
    rcases List.mem_cons.1 hf with rfl | hf
    · exact ⟨(d, index), by simp, next, hfirst (d', next) (by simp), Nat.le_of_lt hnext, rfl⟩
    · obtain ⟨e, he, hspec⟩ := ih hpair (fun e he => hbound e (List.mem_cons_of_mem _ he)) hf
      exact ⟨e, List.mem_cons_of_mem _ he, hspec⟩

theorem pairwise_close (hsub : ∀ e ∈ ds, e ∈ definitions lines) (hpair : ds.Pairwise (·.2 < ·.2))
    (hbound : ∀ e ∈ ds, e.2 < lines.length) :
    (close uri lines ds).Pairwise fun f g => f.endLine < g.line := by
  fun_induction close uri lines ds with
  | case1 => exact .nil
  | case2 d index => exact List.pairwise_singleton _ _
  | case3 d index d' next rest ih =>
    obtain ⟨hfirst, hpair⟩ := List.pairwise_cons.1 hpair
    have hbound' : ∀ e ∈ (d', next) :: rest, e.2 < lines.length :=
      fun e he => hbound e (List.mem_cons_of_mem _ he)
    refine List.pairwise_cons.2 ⟨fun g hg => ?_,
      ih (fun e he => hsub e (List.mem_cons_of_mem _ he)) hpair hbound'⟩
    obtain ⟨-, hend⟩ := stands_toFunction uri (hsub (d, index) (by simp))
      (hfirst (d', next) (by simp)) (Nat.le_of_lt (hbound' (d', next) (by simp)))
    obtain ⟨e, he, stop, -, -, rfl⟩ := mem_close hpair hbound' hg
    have hle : next ≤ e.2 := by
      rcases List.mem_cons.1 he with rfl | he
      · exact Nat.le_refl _
      · exact Nat.le_of_lt ((List.pairwise_cons.1 hpair).1 e he)
    exact Nat.lt_of_lt_of_le hend hle

end Close

theorem lt_length_of_mem_definitions {lines : List (List Char)} {e : Definition × Nat}
    (h : e ∈ definitions lines) : e.2 < lines.length := by
  obtain ⟨line, hline, -⟩ := mem_definitions h
  exact (List.getElem?_eq_some_iff.1 hline).1

theorem stands_of_mem_functions {uri text : String} {f : Function} (h : f ∈ functions uri text) :
    f.Stands uri (Text.lines text.toList) := by
  obtain ⟨e, he, next, hlt, hnext, rfl⟩ :=
    mem_close (pairwise_definitions _) (fun e he => lt_length_of_mem_definitions he) h
  exact (stands_toFunction uri he hlt hnext).1

/-- The bodies of the functions of a text follow one another. -/
theorem pairwise_functions (uri text : String) :
    (functions uri text).Pairwise fun f g => f.endLine < g.line :=
  pairwise_close (fun _ he => he) (pairwise_definitions _)
    fun _ he => lt_length_of_mem_definitions he

/-- A line stands in one body at most. -/
theorem eq_of_mem_bodies {uri text : String} {f g : Function} (hf : f ∈ functions uri text)
    (hg : g ∈ functions uri text) {line : Nat} (hline : f.line ≤ line ∧ line ≤ f.endLine)
    (hline' : g.line ≤ line ∧ line ≤ g.endLine) : f = g := by
  obtain ⟨i, hi, rfl⟩ := List.getElem_of_mem hf
  obtain ⟨j, hj, rfl⟩ := List.getElem_of_mem hg
  have hpair := List.pairwise_iff_getElem.1 (pairwise_functions uri text)
  rcases Nat.lt_trichotomy i j with hlt | heq | hlt
  · have := hpair i j hi hj hlt
    omega
  · simp only [heq]
  · have := hpair j i hj hi hlt
    omega

/-- Each function is defined on a line of its own. -/
theorem pairwise_line_functions (uri text : String) :
    (functions uri text).Pairwise fun f g => f.line < g.line := by
  refine (pairwise_functions uri text).imp_of_mem fun hf _ hlt => ?_
  exact Nat.lt_of_le_of_lt (stands_of_mem_functions hf).line_le hlt

theorem nodup_functions (uri text : String) : (functions uri text).Nodup := by
  refine (pairwise_line_functions uri text).imp fun {f g} hlt heq => ?_
  rw [heq] at hlt
  exact Nat.lt_irrefl _ hlt

theorem eq_of_line_eq {uri text : String} {f g : Function} (hf : f ∈ functions uri text)
    (hg : g ∈ functions uri text) (h : f.line = g.line) : f = g :=
  eq_of_mem_bodies hf hg ⟨Nat.le_refl _, (stands_of_mem_functions hf).line_le⟩
    ⟨Nat.le_of_eq h.symm, h ▸ (stands_of_mem_functions hg).line_le⟩

end Source

end CallHierarchy
