import Mathlib.Data.List.DropRight
import CallHierarchy.Proofs.Source.Lookup

/-! The identifiers in calls. The name of the function that is called ends the identifier in front
of the parenthesis. It is all of the identifier, unless a letter or digit beyond ASCII stands right
before it (`CallGraph.called_identifier`): such characters belong to names, but their bytes to no
word. -/

namespace CallHierarchy

namespace Utf8

variable {a b c d : List Char}

theorem eq_nil_of_width (h : width a = 0) : a = [] := by
  cases a with
  | nil => rfl
  | cons c a =>
    have hpos := c.utf8Size_pos
    rw [width_cons] at h
    omega

/-- A text can be cut at a column in one way only. -/
theorem append_inj_of_width (h : a ++ b = c ++ d) (hwidth : width a = width c) : a = c ∧ b = d := by
  rcases List.append_eq_append_iff.1 h with ⟨e, rfl, rfl⟩ | ⟨e, rfl, rfl⟩
  · rw [width_append] at hwidth
    obtain rfl : e = [] := eq_nil_of_width (by omega)
    simp
  · rw [width_append] at hwidth
    obtain rfl : e = [] := eq_nil_of_width (by omega)
    simp

end Utf8

namespace Source

variable {line before name identifier : List Char} {column : Nat}

/-- The whole identifier in front of the parenthesis at a column of a line: it goes back as far as
there are characters of names. -/
structure InFront (line : List Char) (column : Nat) (identifier : List Char) : Prop where
  stands : ∃ before after, line = before ++ identifier ++ '(' :: after ∧
    column = Utf8.width (before ++ identifier) ∧ ∀ c ∈ before.getLast?, isNameChar c = false
  chars : ∀ c ∈ identifier, isNameChar c = true

theorem InFront.unique {identifier' : List Char} (h : InFront line column identifier)
    (h' : InFront line column identifier') : identifier = identifier' := by
  obtain ⟨before, after, hline, hcolumn, hbefore⟩ := h.stands
  obtain ⟨before', after', hline', hcolumn', hbefore'⟩ := h'.stands
  obtain ⟨hcut, -⟩ := Utf8.append_inj_of_width (hline.symm.trans hline')
    (hcolumn.symm.trans hcolumn')
  -- The longer of the two ends in a character of a name that the other leaves out.
  have hshort {xs ys : List Char} (e : List Char)
      (hlast : ∀ c ∈ (xs ++ e).getLast?, isNameChar c = false)
      (hchars : ∀ c ∈ e ++ ys, isNameChar c = true) : e = [] := by
    rcases e.eq_nil_or_concat with rfl | ⟨e', c, rfl⟩
    · rfl
    · have hc := hchars c (by simp)
      rw [hlast c (by simp)] at hc
      cases hc
  rcases List.append_eq_append_iff.1 hcut with ⟨e, rfl, rfl⟩ | ⟨e, rfl, rfl⟩
  · rw [hshort e hbefore' h.chars, List.nil_append]
  · rw [hshort e hbefore h'.chars, List.nil_append]

theorem getLast?_rdropWhile {α : Type} (p : α → Bool) (xs : List α) :
    ∀ x ∈ (xs.rdropWhile p).getLast?, p x = false := by
  intro x hx
  obtain ⟨hne, rfl⟩ := List.mem_getLast?_eq_getLast hx
  exact Bool.eq_false_iff.2 (List.rdropWhile_last_not p xs hne)

/-- A text ends in the characters of names that stand at its end. -/
theorem exists_ending (text : List Char) :
    ∃ rest front, text = rest ++ front ∧ (∀ c ∈ rest.getLast?, isNameChar c = false) ∧
      ∀ c ∈ front, isNameChar c = true :=
  ⟨text.rdropWhile isNameChar, text.rtakeWhile isNameChar,
    List.rdropWhile_append_rtakeWhile.symm, getLast?_rdropWhile isNameChar text,
    fun _ hc => List.mem_rtakeWhile_imp hc⟩

/-- The name of the function called stands in the line, and a parenthesis behind it. -/
theorem Calls.stands {text : String} (h : Calls line text column) :
    ∃ before after, line = before ++ text.toList ++ '(' :: after ∧ column = Utf8.width before := by
  have hbytes : Utf8.encode (String.ofList (text.toList ++ ['('])) <+:
      (Utf8.encode (String.ofList line)).drop column := by
    rw [String.ofList_append, String.ofList_toList]
    exact h.named
  obtain ⟨before, after, hline, hcolumn⟩ := (Utf8.stands_iff_prefix (by simp)).2 hbytes
  refine ⟨before, after, ?_, hcolumn⟩
  rw [hline]
  simp only [List.append_assoc, List.cons_append, List.nil_append]

/-- A character of a name right before a call is not ASCII. -/
theorem Calls.le_of_getLast? {text : String} {after : List Char} (h : Calls line text column)
    (hline : line = before ++ after) (hcolumn : column = Utf8.width before) {c : Char}
    (hc : c ∈ before.getLast?) (hname : isNameChar c = true) : 128 ≤ c.toNat := by
  by_contra hlt
  have hascii : c.toNat < 128 := Nat.not_le.1 hlt
  obtain ⟨start, rfl⟩ := List.getLast?_eq_some_iff.1 hc
  -- An ASCII character is a single byte, and this one would be in a word.
  have hbyte : (Utf8.encode (String.ofList line))[Utf8.width start]? = some c.toNat.toUInt8 := by
    rw [hline, List.append_assoc, Utf8.encode_ofList_append, ← Utf8.length_encode_ofList,
      List.getElem?_append_right (Nat.le_refl _), Nat.sub_self, Utf8.encode_ofList,
      List.cons_append, List.flatMap_cons, Utf8.encodeChar_of_lt hascii]
    rfl
  have hword := h.begins (Utf8.width start)
    (by rw [hcolumn, Utf8.width_append, Utf8.width_cons, Utf8.width_nil,
      Utf8.utf8Size_of_lt hascii]) _ hbyte
  rw [isWordByte_of_isNameChar hascii, hname] at hword
  cases hword

namespace CallGraph

variable {documents : Documents}

/-- The identifier in front of the parenthesis of a call is the name of the function called, or ends
in it. In the second case what stands before the name in the identifier ends in a letter or digit
beyond ASCII, so in a line of ASCII characters there is no such case. -/
theorem called_identifier (hdocs : (documents.map Prod.fst).Nodup) {s : CallSite}
    (hs : s ∈ (build documents).calls) :
    ∃ text line front, documents.get? s.caller.uri = some text ∧
      (Text.lines text.toList)[s.line]? = some line ∧
      (∀ identifier, InFront line (s.column + s.callee.nameWidth) identifier ↔
        identifier = front ++ s.callee.name.toList) ∧
      (∀ c ∈ front.getLast?, 128 ≤ c.toNat) ∧ ((∀ c ∈ line, c.toNat < 128) → front = []) := by
  have hrecorded := (mem_calls_iff hdocs).1 hs
  obtain ⟨text, line, htext, hline, -, hcalls⟩ := hrecorded.called
  obtain ⟨calleeText, -, hcallee⟩ := (mem_functions_build hdocs).1 hrecorded.callee_mem
  obtain ⟨_, _, _, -, hnamed, -⟩ := (stands_of_mem_functions hcallee).defined
  obtain ⟨before, after, hstands, hcolumn⟩ := hcalls.stands
  obtain ⟨rest, front, rfl, hrest, hfront⟩ := exists_ending before
  have hlast : ∀ c ∈ front.getLast?, 128 ≤ c.toNat := by
    intro c hc
    refine hcalls.le_of_getLast? (hstands.trans (List.append_assoc _ _ _)) hcolumn ?_
      (hfront c (List.mem_of_getLast? hc))
    rw [Option.mem_def, List.getLast?_append, hc]
    rfl
  have hidentifier : InFront line (s.column + s.callee.nameWidth)
      (front ++ s.callee.name.toList) := by
    refine ⟨⟨rest, after, ?_, ?_, hrest⟩, fun c hc => ?_⟩
    · rw [hstands]
      simp only [List.append_assoc]
    · rw [hcolumn, Function.nameWidth, ← Utf8.width_toList]
      simp only [Utf8.width_append, Nat.add_assoc]
    · rcases List.mem_append.1 hc with hc | hc
      · exact hfront c hc
      · exact hnamed.name_chars c hc
  refine ⟨text, line, front, htext, hline,
    fun identifier => ⟨fun h => h.unique hidentifier, fun h => h ▸ hidentifier⟩, hlast,
    fun hascii => ?_⟩
  by_contra hne
  have hlarge := hlast _ (List.getLast?_eq_getLast_of_ne_nil hne)
  have hsmall := hascii (front.getLast hne) (by
    rw [hstands]
    simp [List.getLast_mem hne])
  omega

/-- One name ends another one, behind a letter beyond ASCII. -/
def suffixed : Documents := [("a", "fn b():\nfn éb():\nfn f(): éb()")]

/-- The call of the longer name, as one of the shorter name. -/
def callOfB : CallSite where
  caller := ⟨"a", "f", false, "fn f(): éb()", 2, 0, 3, 2, 13⟩
  callee := ⟨"a", "b", false, "fn b()", 0, 0, 3, 0, 7⟩
  line := 2
  column := 10

theorem called_identifier_suffixed :
    (suffixed.map Prod.fst).Nodup ∧ callOfB ∈ (build suffixed).calls ∧
      ∃ text line front, suffixed.get? callOfB.caller.uri = some text ∧
        (Text.lines text.toList)[callOfB.line]? = some line ∧
        InFront line 11 (front ++ "b".toList) := by
  have hdocs : (suffixed.map Prod.fst).Nodup := by decide
  have hcall : callOfB ∈ (build suffixed).calls := by decide +kernel
  obtain ⟨text, line, front, htext, hline, hidentifier, -⟩ := called_identifier hdocs hcall
  exact ⟨hdocs, hcall, text, line, front, htext, hline, (hidentifier _).2 rfl⟩

/-- That call is recorded, though the identifier in front of its parenthesis is not the name of the
function called. -/
theorem recorded_longer_identifier :
    callOfB ∈ (build suffixed).calls ∧ ∃ text line identifier,
      suffixed.get? callOfB.caller.uri = some text ∧
      (Text.lines text.toList)[callOfB.line]? = some line ∧
      InFront line (callOfB.column + callOfB.callee.nameWidth) identifier ∧
      identifier ≠ callOfB.callee.name.toList := by
  have hlast : "fn f(): ".toList.getLast? = some ' ' := rfl
  have hidentifier : InFront "fn f(): éb()".toList 11 "éb".toList := by
    refine ⟨⟨"fn f(): ".toList, ")".toList, rfl, by decide +kernel, fun c hc => ?_⟩, ?_⟩
    · obtain rfl := Option.some.inj (hlast.symm.trans hc)
      decide
    · exact List.all_eq_true.1 (by decide +kernel)
  exact ⟨by decide +kernel, _, _, _, rfl, by decide +kernel, hidentifier, by decide⟩

end CallGraph

end Source

end CallHierarchy
