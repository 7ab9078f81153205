import CallHierarchy.Proofs.Json.Dictionary
import CallHierarchy.Proofs.Source.CallGraph

/-! The functions and calls of any number of open documents. Each document has a URI of its own, so
a function is told by its URI and the line that defines it, and a place in a document lies in the
body of one function at most (`CallGraph.eq_of_mem_bodies_build`). -/

namespace CallHierarchy

namespace Source.CallGraph

variable {documents : Documents} {f g : Function}

/-- A function of the documents is one of the document that it names. -/
theorem mem_functions_build (h : (documents.map Prod.fst).Nodup) :
    f ∈ (build documents).functions ↔
      ∃ text, documents.get? f.uri = some text ∧ f ∈ Source.functions f.uri text := by
  simp only [build, List.mem_flatMap, Prod.exists, Dictionary.get?_eq_some_iff h]
  constructor
  · rintro ⟨uri, text, hmem, hf⟩
    obtain rfl := (stands_of_mem_functions hf).uri_eq
    exact ⟨text, hmem, hf⟩
  · rintro ⟨text, hmem, hf⟩
    exact ⟨f.uri, text, hmem, hf⟩

theorem nodup_functions_build (h : (documents.map Prod.fst).Nodup) :
    (build documents).functions.Nodup := by
  refine List.pairwise_flatMap.2 ⟨fun e _ => nodup_functions e.1 e.2, ?_⟩
  refine (List.pairwise_map.1 h).imp fun hne f hf g hg heq => hne ?_
  rw [← (stands_of_mem_functions hf).uri_eq, heq, (stands_of_mem_functions hg).uri_eq]

/-- A line of a document stands in one body at most. -/
theorem eq_of_mem_bodies_build (h : (documents.map Prod.fst).Nodup)
    (hf : f ∈ (build documents).functions) (hg : g ∈ (build documents).functions)
    (huri : f.uri = g.uri) {line : Nat} (hline : f.line ≤ line ∧ line ≤ f.endLine)
    (hline' : g.line ≤ line ∧ line ≤ g.endLine) : f = g := by
  obtain ⟨text, htext, hf⟩ := (mem_functions_build h).1 hf
  obtain ⟨text', htext', hg⟩ := (mem_functions_build h).1 hg
  -- One URI has one text, and in a text the bodies do not meet.
  rw [← huri] at htext' hg
  obtain rfl : text = text' := Option.some.inj (htext.symm.trans htext')
  exact eq_of_mem_bodies hf hg hline hline'

theorem eq_of_line_eq_build (h : (documents.map Prod.fst).Nodup)
    (hf : f ∈ (build documents).functions) (hg : g ∈ (build documents).functions)
    (huri : f.uri = g.uri) (hline : f.line = g.line) : f = g := by
  have hbody {f : Function} (hf : f ∈ (build documents).functions) : f.line ≤ f.endLine := by
    obtain ⟨text, -, hf⟩ := (mem_functions_build h).1 hf
    exact (stands_of_mem_functions hf).line_le
  exact eq_of_mem_bodies_build h hf hg huri ⟨Nat.le_refl _, hbody hf⟩
    ⟨Nat.le_of_eq hline.symm, hline ▸ hbody hg⟩

/-- A call is recorded where the lines of its caller's document have it. -/
theorem mem_calls_build {s : CallSite} :
    s ∈ (build documents).calls ↔ s.caller ∈ (build documents).functions ∧
      ∃ text, documents.get? s.caller.uri = some text ∧
        s ∈ callsIn (build documents).functions s.caller (Text.lines text.toList) := by
  constructor
  · intro h
    obtain ⟨caller, hmem, h⟩ := List.mem_flatMap.1 h
    split at h
    · cases h
    · next text htext =>
      obtain rfl := (mem_callsIn_iff.1 h).1
      exact ⟨hmem, text, htext, h⟩
  · rintro ⟨hmem, text, htext, h⟩
    refine List.mem_flatMap.2 ⟨s.caller, hmem, ?_⟩
    simp only [htext]
    exact h

theorem far_mem_functions_build {s : CallSite} (h : s ∈ (build documents).calls)
    (direction : Direction) : s.far direction ∈ (build documents).functions := by
  obtain ⟨hmem, text, -, hs⟩ := mem_calls_build.1 h
  exact (mem_callsIn hmem hs).2.far_mem direction

end Source.CallGraph

end CallHierarchy
