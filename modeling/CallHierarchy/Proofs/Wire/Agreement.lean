import CallHierarchy.MockServer.Peer
import CallHierarchy.Proofs.MockServer.Intake
import CallHierarchy.Proofs.Wire.Bounds

/-! The two readers of frames. The client takes the length from the first line that names it, and
the mock server from the last line that begins with the name. Where a header names the length once,
with no blank around the name, they look at the same line, and so they take off the same frames
(`readers_agree`). -/

namespace CallHierarchy.Frame

variable {buffer header rest : List UInt8} {fields line name value : List Char}

/-! ### Lines that name the length -/

/-- The line names the length. -/
def Names (line : List Char) : Prop := ∃ value, Gives line value

/-- The fields name the length once at most, and with no blank around the name. -/
structure Plain (fields : List Char) : Prop where
  once : (Text.lines fields).Pairwise fun line later => Names line → ¬Names later
  tight : ∀ line ∈ Text.lines fields, ∀ name value, line = name ++ ':' :: value → ':' ∉ name →
    Text.sameAscii (Text.trim name) lengthName = true → Text.trim name = name

theorem isSome_given?_iff : (given? line).isSome = true ↔ Names line := by
  simp only [Option.isSome_iff_exists, given?_eq_some_iff, Names]

/-- A letter in upper case becomes one in lower case, and any other character stays. -/
theorem toLower_cases (c : Char) :
    c.toLower = c ∨ (65 ≤ c.toNat ∧ c.toNat ≤ 90) ∧ 97 ≤ c.toLower.toNat := by
  unfold Char.toLower
  split
  · next h =>
    have hlow : 65 ≤ c.toNat := UInt32.le_iff_toNat_le.1 h.1
    have hhigh : c.toNat ≤ 90 := UInt32.le_iff_toNat_le.1 h.2
    have hval : c.val.toNat = c.toNat := rfl
    refine .inr ⟨⟨hlow, hhigh⟩, ?_⟩
    show 97 ≤ (c.val + ('a'.val - 'A'.val)).toNat
    rw [UInt32.toNat_add, hval]
    have hshift : ('a'.val - 'A'.val).toNat = 32 := rfl
    omega
  · exact .inl rfl

theorem eq_colon_of_toLower {c : Char} (h : c.toLower = ':') : c = ':' := by
  rcases toLower_cases c with hsame | ⟨-, hlow⟩
  · exact hsame.symm.trans h
  · rw [h] at hlow
    exact absurd hlow (by decide)

/-- What is spelled like the name of the length has neither blanks nor colons. -/
theorem spelled_of_lowerAscii (h : Text.lowerAscii name = lengthName) :
    Text.trim name = name ∧ ':' ∉ name := by
  have hmem {c : Char} (hc : c ∈ name) : c.toLower ∈ lengthName := h ▸ List.mem_map_of_mem hc
  constructor
  · refine Text.trim_of_no_blank fun c hc => ?_
    rcases toLower_cases c with hsame | ⟨⟨hlow, hhigh⟩, -⟩
    · have hplain : lengthName.all (!Text.isBlank ·) = true := by decide
      simpa [hsame] using List.all_eq_true.1 hplain _ (hmem hc)
    · simp only [Text.isBlank, Bool.or_eq_false_iff, Bool.and_eq_false_iff, decide_eq_false_iff_not,
        beq_eq_false_iff_ne]
      omega
  · intro hc
    exact absurd (hmem hc) (by decide)

/-- A line begins with the name of the length and a colon if what stands before its first colon is
spelled like the name. -/
theorem starts_iff : (lengthName ++ [':']).isPrefixOf (Text.lowerAscii line) = true ↔
    ∃ name value, line = name ++ ':' :: value ∧ Text.lowerAscii name = lengthName := by
  rw [List.isPrefixOf_iff_prefix]
  constructor
  · rintro ⟨tail, htail⟩
    rw [List.append_assoc] at htail
    -- No character but a colon becomes one, so what is cut here is cut at a colon of the line.
    obtain ⟨name, after, rfl, hname, hafter⟩ := List.map_eq_append_iff.1 htail.symm
    obtain ⟨c, value, rfl, hc, -⟩ := List.map_eq_cons_iff.1 hafter
    exact ⟨name, value, by rw [eq_colon_of_toLower hc], hname⟩
  · rintro ⟨name, value, rfl, hname⟩
    refine ⟨Text.lowerAscii value, ?_⟩
    simp only [← hname, Text.lowerAscii, List.map_append, List.map_cons, List.append_assoc]
    rfl

/-- In plain fields the lines that begin with the name of the length are those that name it. -/
theorem Plain.starts_iff_names (h : Plain fields) (hline : line ∈ Text.lines fields) :
    (lengthName ++ [':']).isPrefixOf (Text.lowerAscii line) = true ↔ Names line := by
  rw [starts_iff]
  constructor
  · rintro ⟨name, value, rfl, hname⟩
    obtain ⟨htrim, hcolon⟩ := spelled_of_lowerAscii hname
    exact ⟨value, name, rfl, hcolon, by rw [htrim]; exact beq_iff_eq.2 hname⟩
  · rintro ⟨value, name, heq, hcolon, hname⟩
    rw [h.tight line hline name value heq hcolon hname] at hname
    exact ⟨name, value, heq, beq_iff_eq.1 hname⟩

/-- One line of plain fields at most names the length. -/
theorem Plain.length_filter_le (h : Plain fields) :
    ((Text.lines fields).filter fun line => (given? line).isSome).length ≤ 1 := by
  have honce := h.once.filter fun line => (given? line).isSome
  have hnames : ∀ line ∈ (Text.lines fields).filter fun line => (given? line).isSome,
      Names line := fun line hline => isSome_given?_iff.1 (List.mem_filter.1 hline).2
  generalize (Text.lines fields).filter _ = named at honce hnames
  match named with
  | [] => exact Nat.zero_le 1
  | [_] => exact Nat.le_refl 1
  | line :: later :: _ =>
    have hnot := (List.pairwise_cons.1 honce).1 later (by simp)
    exact absurd (hnames later (by simp)) (hnot (hnames line (by simp)))

theorem cutAt_of_given? (h : given? line = some value) :
    ∃ name, Text.cutAt ':' line = some (name, value) := by
  obtain ⟨name, rfl, hcolon, -⟩ := given?_eq_some_iff.1 h
  exact ⟨name, Text.cutAt_append hcolon value⟩

/-- Whether fields are plain can be seen line by line. -/
theorem plain_iff : Plain fields ↔
    ((Text.lines fields).filter fun line => (given? line).isSome).length ≤ 1 ∧
      ∀ line ∈ Text.lines fields, ((Text.cutAt ':' line).all fun (name, _) =>
        !Text.sameAscii (Text.trim name) lengthName || Text.trim name == name) = true := by
  constructor
  · intro h
    refine ⟨h.length_filter_le, fun line hline => ?_⟩
    refine (Option.all_eq_true _ _).2 fun cut hcut => ?_
    obtain ⟨heq, hcolon⟩ := Text.cutAt_eq_some hcut
    rw [Bool.or_eq_true, Bool.not_eq_true', beq_iff_eq, ← Bool.not_eq_true, ← imp_iff_not_or]
    exact h.tight line hline cut.1 cut.2 heq hcolon
  · rintro ⟨hlength, htight⟩
    constructor
    · refine List.pairwise_iff_forall_sublist.2 fun hsub hline hlater => ?_
      have hboth := (hsub.filter fun line => (given? line).isSome).length_le
      simp only [List.filter_cons, isSome_given?_iff.2 hline, isSome_given?_iff.2 hlater, if_true,
        List.length_cons] at hboth
      omega
    · intro line hline name value heq hcolon hname
      have hcut : Text.cutAt ':' line = some (name, value) := heq ▸ Text.cutAt_append hcolon value
      have hall := htight line hline
      rw [hcut] at hall
      simpa [hname] using hall

instance (fields : List Char) : Decidable (Plain fields) := decidable_of_iff _ plain_iff.symm

/-- The server finds the length of plain fields where the client does. -/
theorem Plain.contentLength? (h : Plain fields) :
    MockServer.contentLength? fields = (contentLength fields).toOption := by
  have hfilter : (Text.lines fields).filter (fun line =>
        (lengthName ++ [':']).isPrefixOf (Text.lowerAscii line)) =
      (Text.lines fields).filter fun line => (given? line).isSome :=
    List.filter_congr fun line hline => by
      rw [Bool.eq_iff_iff, h.starts_iff_names hline, isSome_given?_iff]
  have hfirst : (Text.lines fields).findSome? given? =
      ((Text.lines fields).filter fun line => (given? line).isSome).findSome? given? := by
    rw [← List.head?_filterMap, ← List.head?_filterMap, List.filterMap_filter]
    refine congrArg (fun f => ((Text.lines fields).filterMap f).head?) (funext fun line => ?_)
    cases given? line <;> rfl
  rw [MockServer.contentLength?, hfilter, contentLength_eq, hfirst]
  -- Of at most one line, the first one is also the last one.
  have hlength := h.length_filter_le
  have hnamed : ∀ line ∈ (Text.lines fields).filter fun line => (given? line).isSome,
      (given? line).isSome = true := fun line hline => (List.mem_filter.1 hline).2
  generalize (Text.lines fields).filter _ = named at hlength hnamed
  rcases named with _ | ⟨line, _ | ⟨other, rest⟩⟩
  · rfl
  · obtain ⟨value, hvalue⟩ := Option.isSome_iff_exists.1 (hnamed line (by simp))
    obtain ⟨name, hcut⟩ := cutAt_of_given? hvalue
    simp only [List.getLast?_singleton, List.findSome?_singleton, Option.bind_eq_bind,
      Option.bind_some, hcut, hvalue]
    cases Decimal.unsigned? Decimal.max64 (Text.trim value) <;> rfl
  · simp at hlength

/-! ### Fronts -/

/-- What the server makes of what stands at the front of a buffer. It waits for more where the
client finds a fault, unless it cannot count the frame. -/
def Front.toIntake : Front → MockServer.Intake
  | .incomplete => .nothing
  | .body text rest => .body text rest
  | .fault .overflow _ => .overflow
  | .fault _ _ => .nothing

/-- A header whose fields are plain, if they are text. -/
def PlainHeader (header : List UInt8) : Prop :=
  ∀ fields, Utf8.encode fields = header → Plain fields.toList

/-- Of a plain header, the server reads what the client does. -/
theorem intake_eq_toIntake (h : ∀ header rest, Opens buffer header rest → PlainHeader header) :
    MockServer.intake buffer = (front buffer).toIntake := by
  unfold MockServer.intake front
  cases hcut : cutHeader? buffer with
  | none => rfl
  | some cut =>
    obtain ⟨header, rest⟩ := cut
    cases hfields : Utf8.decode? header with
    | none => simp only [hfields, Option.bind_none, Front.toIntake]
    | some fields =>
      have hplain := h header rest (opens_of_cutHeader? hcut) fields
        (Utf8.decode?_eq_some_iff.1 hfields)
      simp only [hfields, Option.bind_some, hplain.contentLength?]
      cases hlength : contentLength fields.toList with
      | error cause => cases announces_iff.1 hlength <;> rfl
      | ok length =>
        simp only [Except.toOption]
        split
        · rfl
        · split
          · rfl
          · cases Utf8.decode? (rest.take length) <;> rfl

/-- The client finds that it cannot count a frame where a header announces too long a body. -/
theorem overlong_of_front (h : front buffer = .fault .overflow rest) :
    Checked.Overlong (fun header n => Declares header (.ok n)) buffer := by
  refine Checked.front_eq_overflow_iff.1 ?_
  rw [Checked.front_eq, h, Checked.ofFront]

theorem Front.toIntake_eq_nothing_iff {f : Front} (h : ∀ rest, f ≠ .fault .overflow rest) :
    f.toIntake = .nothing ↔ f = .incomplete ∨ ∃ cause rest, f = .fault cause rest := by
  cases f with
  | incomplete => simp [toIntake]
  | body text rest => simp [toIntake]
  | fault cause rest =>
    cases cause with
    | overflow => exact absurd rfl (h rest)
    | _ => simp [toIntake]

theorem Front.toIntake_eq_body_iff {f : Front} {text : String} :
    f.toIntake = .body text rest ↔ f = .body text rest := by
  cases f with
  | incomplete => simp [toIntake]
  | body text rest => simp [toIntake]
  | fault cause rest => cases cause <;> simp [toIntake]

/-- The bytes that the server writes for a body. -/
def written (body : String) : List UInt8 :=
  match (MockServer.Act.write body).toPeer with
  | .write bytes => bytes
  | _ => []

/-- The two readers agree on every buffer whose header, if it has one, names the length once at
most, with no blank around the name, and announces no more than 64 bits can count. The server takes
a frame off just where the client does, with the same body and the same bytes off the front of the
buffer. It finds nothing just where the client waits or finds a fault. So each side reads what the
other one writes. -/
theorem readers_agree :
    (∀ buffer, (∀ header rest, Opens buffer header rest → PlainHeader header) →
      ¬Checked.Overlong (fun header n => Declares header (.ok n)) buffer →
      (∀ body rest,
        MockServer.intake buffer = .body body rest ↔ front buffer = .body body rest) ∧
      (∀ body rest, front buffer = .body body rest → ∃ frame, buffer = frame ++ rest) ∧
      (MockServer.intake buffer = .nothing ↔
        front buffer = .incomplete ∨ ∃ cause rest, front buffer = .fault cause rest)) ∧
    (∀ v more, (Message.frame v).length ≤ Decimal.max64 →
      MockServer.intake (Message.frame v ++ more) = .body v.compact more) ∧
    ∀ body more, (written body).length ≤ Decimal.max64 →
      front (written body ++ more) = .body body more := by
  refine ⟨fun buffer hplain hcounted => ?_, fun v more h => ?_, fun body more h => ?_⟩
  · have hintake := intake_eq_toIntake hplain
    refine ⟨fun body rest => ?_, fun body rest h => ?_, ?_⟩
    · rw [hintake, Front.toIntake_eq_body_iff]
    · obtain ⟨frame, hframe, -⟩ := exists_frame h
      exact ⟨frame, hframe⟩
    · rw [hintake]
      exact Front.toIntake_eq_nothing_iff fun rest h => hcounted (overlong_of_front h)
  · exact MockServer.intake_encode h more
  · exact front_encode h more

/-- A frame with another field before the length, and with the name in lower case. -/
def spelled : List UInt8 := Utf8.encode "Content-Type: json\r\ncontent-length: 2\r\n\r\n[]"

theorem plainHeader_spelled (hopens : Opens spelled header rest) : PlainHeader header := by
  have hcut : cutHeader? spelled =
      some (Utf8.encode "Content-Type: json\r\ncontent-length: 2", Utf8.encode "[]") := by
    decide +kernel
  obtain ⟨rfl, rfl⟩ := Prod.mk.inj (Option.some.inj ((cutHeader?_of_opens hopens).symm.trans hcut))
  have hplain : Plain "Content-Type: json\r\ncontent-length: 2".toList := by decide +kernel
  intro fields hfields
  have htext := Utf8.decode?_eq_some_iff.2 hfields
  rw [Utf8.decode?_encode] at htext
  rwa [← Option.some.inj htext]

theorem not_overlong_spelled :
    ¬Checked.Overlong (fun header n => Declares header (.ok n)) spelled := by
  rw [← Checked.front_eq_overflow_iff]
  decide +kernel

theorem readers_agree_spelled :
    (∀ header rest, Opens spelled header rest → PlainHeader header) ∧
      ¬Checked.Overlong (fun header n => Declares header (.ok n)) spelled ∧
      front spelled = .body "[]" [] ∧ MockServer.intake spelled = .body "[]" [] ∧
      (Message.frame .null).length ≤ Decimal.max64 ∧
      MockServer.intake (Message.frame .null ++ spelled) = .body Json.null.compact spelled ∧
      (written "[]").length ≤ Decimal.max64 ∧
      front (written "[]" ++ spelled) = .body "[]" spelled := by
  have hplain : ∀ header rest, Opens spelled header rest → PlainHeader header :=
    fun _ _ => plainHeader_spelled
  have hfront : front spelled = .body "[]" [] := by decide +kernel
  have hframe : (Message.frame .null).length ≤ Decimal.max64 := by decide +kernel
  have hwritten : (written "[]").length ≤ Decimal.max64 := by decide +kernel
  obtain ⟨hbuffers, hframes, hbodies⟩ := readers_agree
  obtain ⟨hbody, -, -⟩ := hbuffers spelled hplain not_overlong_spelled
  exact ⟨hplain, not_overlong_spelled, hfront, (hbody _ _).2 hfront, hframe, hframes _ _ hframe,
    hwritten, hbodies _ _ hwritten⟩

/-- Of two lengths the client takes the first and the server the last. -/
example :
    let buffer := Utf8.encode "Content-Length: 1\r\nContent-Length: 2\r\n\r\n[]"
    front buffer = .body "[" (Utf8.encode "]") ∧ MockServer.intake buffer = .body "[]" [] := by
  decide +kernel

end CallHierarchy.Frame
