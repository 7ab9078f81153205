import Mathlib.Data.List.TakeWhile
import CallHierarchy.Url.File
import CallHierarchy.Url.Reference

/-! URLs of files that are read as they are written. If no host is given and no segment of the path
holds a character that means something to the reader, the segments that are read are those that were
written (`parse?_ofSegments`), and the grammar of URIs asks nothing of the URL but that its path
consists of what paths may consist of (`accepts_ofSegments`). -/

namespace CallHierarchy

namespace Text

variable {p : Char → Bool} {c : Char} {a : List Char}

theorem pieces_of_none (h : ∀ c ∈ a, p c = false) : pieces p a = [a] := by
  induction a with
  | nil => rfl
  | cons c a ih =>
    rw [pieces, ih fun d hd => h d (List.mem_cons_of_mem _ hd)]
    simp [h c List.mem_cons_self]

theorem pieces_append_sep (h : ∀ c ∈ a, p c = false) (hc : p c = true) (cs : List Char) :
    pieces p (a ++ c :: cs) = a :: pieces p cs := by
  induction a with
  | nil =>
    rw [List.nil_append, pieces]
    split
    · next h => exact absurd h (pieces_ne_nil p cs)
    · next piece rest h => rw [if_pos hc, h]
  | cons d a ih =>
    rw [List.cons_append, pieces, ih fun e he => h e (List.mem_cons_of_mem _ he)]
    simp [h d List.mem_cons_self]

theorem pieces_append_flatMap {segments : List (List Char)} (hc : p c = true)
    (ha : ∀ d ∈ a, p d = false) (h : ∀ segment ∈ segments, ∀ d ∈ segment, p d = false) :
    pieces p (a ++ segments.flatMap (c :: ·)) = a :: segments := by
  induction segments generalizing a with
  | nil => rw [List.flatMap_nil, List.append_nil, pieces_of_none ha]
  | cons segment segments ih =>
    rw [List.flatMap_cons, List.cons_append, pieces_append_sep ha hc,
      ih (h segment List.mem_cons_self) fun s hs => h s (List.mem_cons_of_mem _ hs)]

theorem cutAt_eq_none {sep : Char} {cs : List Char} (h : sep ∉ cs) : cutAt sep cs = none := by
  induction cs with
  | nil => rfl
  | cons c cs ih =>
    rw [List.mem_cons, not_or] at h
    rw [cutAt, if_neg (Ne.symm h.1), ih h.2]
    rfl

end Text

namespace FileUrl

/-- A segment that is read as it is written. -/
structure IsSegment (segment : List Char) : Prop where
  visible : ∀ c ∈ segment, 0x20 < c.toNat
  not_slash : ∀ c ∈ segment, isSlash c = false
  not_end : ∀ c ∈ segment, endsPath c = false
  not_dot : isDot segment = false
  not_doubleDot : isDoubleDot segment = false

/-- The text of a URL with a path through segments. -/
def ofSegments (segments : List (List Char)) : List Char :=
  "file://".toList ++ segments.flatMap ('/' :: ·)

variable {segment : List Char} {segments : List (List Char)}

theorem solid_eq {cs : List Char} (h : ∀ c ∈ cs, 0x20 < c.toNat) : solid cs = cs := by
  refine List.filter_eq_self.2 fun c hc => ?_
  have hlt := h c hc
  have hblank : isBlank c = false := by
    simp only [isBlank, Bool.or_eq_false_iff, beq_eq_false_iff_ne]
    refine ⟨⟨?_, ?_⟩, ?_⟩ <;> (rintro rfl; exact absurd hlt (by decide))
  rw [hblank]
  rfl

theorem trim_eq {cs : List Char} (h : ∀ c ∈ cs, 0x20 < c.toNat) : trim cs = cs := by
  have hkeep : ∀ ds : List Char, (∀ c ∈ ds, 0x20 < c.toNat) →
      ds.dropWhile (fun c => decide (c.toNat ≤ 0x20)) = ds := by
    intro ds hds
    cases ds with
    | nil => rfl
    | cons d ds =>
      have hlt := hds d List.mem_cons_self
      exact List.dropWhile_cons_of_neg (by simpa using hlt)
  rw [trim, Text.dropTail, hkeep cs h, hkeep _ fun c hc => h c (List.mem_reverse.1 hc),
    List.reverse_reverse]

theorem add_segment (h : IsSegment segment) {p : Progress} (hp : p.segments ≠ []) (isLast : Bool) :
    p.add segment isLast = { p with segments := segment :: p.segments } := by
  have hempty : p.segments.isEmpty = false := by simpa using hp
  simp only [Progress.add, hempty, Bool.false_eq_true, if_false, solid_eq h.visible, h.not_dot,
    h.not_doubleDot, Progress.push, false_and]

theorem resolve_segments (h : ∀ segment ∈ segments, IsSegment segment) {p : Progress}
    (hp : p.segments ≠ []) :
    p.resolve segments = { p with segments := segments.reverse ++ p.segments } := by
  induction segments generalizing p with
  | nil => rfl
  | cons segment segments ih =>
    rw [Progress.resolve, add_segment (h segment List.mem_cons_self) hp,
      ih (fun s hs => h s (List.mem_cons_of_mem _ hs)) (List.cons_ne_nil _ _), List.reverse_cons,
      List.append_assoc]
    rfl

theorem mem_flatMap_slash {c : Char} (hc : c ∈ segments.flatMap ('/' :: ·)) :
    c = '/' ∨ ∃ segment ∈ segments, c ∈ segment := by
  obtain ⟨segment, hsegment, hmem⟩ := List.mem_flatMap.1 hc
  exact (List.mem_cons.1 hmem).imp_right fun h => ⟨segment, hsegment, h⟩

/-- A path is read as the segments that it was made of. Where there are several, the first one is
not empty. -/
theorem ofPath_flatMap (h : ∀ segment ∈ segments, IsSegment segment)
    (hfirst : segments = [[]] ∨ segments ≠ [] ∧ [] ∉ segments) :
    ofPath none (segments.flatMap ('/' :: ·)) = ⟨none, segments⟩ := by
  have htext : (segments.flatMap ('/' :: ·)).takeWhile (!endsPath ·) =
      segments.flatMap ('/' :: ·) := by
    refine List.takeWhile_eq_self_iff.2 fun c hc => ?_
    rcases mem_flatMap_slash hc with rfl | ⟨segment, hsegment, hc⟩
    · rfl
    · rw [(h segment hsegment).not_end c hc]
      rfl
  have hpieces : Text.pieces isSlash (segments.flatMap ('/' :: ·)) = [] :: segments :=
    Text.pieces_append_flatMap (a := []) rfl (by simp) fun s hs => (h s hs).not_slash
  -- The slash at the front leaves an empty segment in the first place. So no segment that follows
  -- is taken for a drive, and in the end `dropEmpty` takes the empty one off.
  have hroot : Progress.add ⟨[], false⟩ [] segments.isEmpty = ⟨[[]], false⟩ := by
    cases segments <;> rfl
  have hdone : Progress.resolve ⟨[], false⟩ ([] :: segments) =
      ⟨segments.reverse ++ [[]], false⟩ := by
    rw [Progress.resolve, hroot, resolve_segments h (List.cons_ne_nil _ _)]
  have hdrop : dropEmpty ([] :: segments) = segments := by
    rcases hfirst with rfl | ⟨hne, hempty⟩
    · rfl
    · match segments, hne, hempty with
      | [last], _, _ => rfl
      | [] :: _ :: _, _, hempty => exact absurd List.mem_cons_self hempty
      | (_ :: _) :: _ :: _, _, _ => rfl
  simp only [ofPath, htext, hpieces, hdone]
  simp [hdrop]

theorem parse?_ofSegments (h : ∀ segment ∈ segments, IsSegment segment)
    (hfirst : segments = [[]] ∨ segments ≠ [] ∧ [] ∉ segments) :
    parse? (ofSegments segments) = some ⟨none, segments⟩ := by
  have htrim : trim (ofSegments segments) = ofSegments segments := by
    refine trim_eq fun c hc => ?_
    rcases List.mem_append.1 hc with hc | hc
    · have hvisible : ("file://".toList.all fun c => 0x20 < c.toNat) = true := by decide
      exact of_decide_eq_true (List.all_eq_true.1 hvisible c hc)
    · rcases mem_flatMap_slash hc with rfl | ⟨segment, hsegment, hc⟩
      · decide
      · exact (h segment hsegment).visible c hc
  have hscheme : Text.cutAt ':' (ofSegments segments) =
      some ("file".toList, '/' :: '/' :: segments.flatMap ('/' :: ·)) :=
    Text.cutAt_append (a := "file".toList) (by decide) _
  have hauthority : ofAuthority? (segments.flatMap ('/' :: ·)) =
      some (ofPath none (segments.flatMap ('/' :: ·))) := by
    obtain ⟨segment, rest, rfl⟩ : ∃ segment rest, segments = segment :: rest := by
      rcases hfirst with rfl | ⟨hne, -⟩
      · exact ⟨_, _, rfl⟩
      · exact List.exists_cons_of_ne_nil hne
    rfl
  rw [parse?, htrim, hscheme]
  have hfile : Text.sameAscii (solid "file".toList) "file".toList = true := by decide
  simp only [hfile, if_true]
  rw [← ofPath_flatMap h hfirst, ← hauthority]
  rfl

theorem path_ofSegments (segments : List (List Char)) :
    path ⟨none, segments⟩ = segments.flatMap ('/' :: ·) := rfl

/-! ### The grammar -/

/-- Neither a query nor a fragment begins in such a URL. -/
theorem not_mem_ofSegments (h : ∀ segment ∈ segments, ∀ c ∈ segment, endsPath c = false) {c : Char}
    (hc : endsPath c = true) : c ∉ ofSegments segments := by
  intro hmem
  rcases List.mem_append.1 hmem with hmem | hmem
  · have hscheme : "file://".toList.all (!endsPath ·) = true := by decide
    exact absurd hc (by simpa using List.all_eq_true.1 hscheme c hmem)
  · rcases mem_flatMap_slash hmem with rfl | ⟨segment, hsegment, hmem⟩
    · exact Bool.false_ne_true hc
    · exact Bool.false_ne_true ((h segment hsegment c hmem).symm.trans hc)

theorem isMain_ofSegments (segments : List (List Char)) :
    Reference.isMain (ofSegments segments) =
      Reference.consistsOf Reference.isPathChar (segments.flatMap ('/' :: ·)) := by
  have hauthority : (segments.flatMap ('/' :: ·)).takeWhile (· != '/') = [] := by
    cases segments <;> rfl
  have hhierarchy : Reference.isHierarchy ('/' :: '/' :: segments.flatMap ('/' :: ·)) =
      Reference.consistsOf Reference.isPathChar (segments.flatMap ('/' :: ·)) := by
    have hnone : Reference.isAuthority [] = true := by decide
    rw [Reference.isHierarchy]
    simp only [hauthority, hnone]
    rfl
  rw [← hhierarchy]
  rfl

theorem accepts_ofSegments (h : ∀ segment ∈ segments, ∀ c ∈ segment, endsPath c = false) :
    Reference.accepts (ofSegments segments) =
      Reference.consistsOf Reference.isPathChar (segments.flatMap ('/' :: ·)) := by
  have hcut : ∀ sep, endsPath sep = true →
      Reference.cutOff sep (ofSegments segments) = (ofSegments segments, none) := by
    intro sep hsep
    rw [Reference.cutOff, Text.cutAt_eq_none (not_mem_ofSegments h hsep)]
  rw [Reference.accepts, hcut '#' rfl]
  simp only
  rw [hcut '?' rfl]
  simp only [Option.getD_none, Reference.consistsOf, Bool.and_true, isMain_ofSegments]

end FileUrl

end CallHierarchy
