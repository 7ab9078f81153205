import CallHierarchy.Item.Params
import CallHierarchy.MockServer.Basic
import CallHierarchy.Proofs.Json.Canonical
import CallHierarchy.Proofs.Source.CallGraph

/-! The items and calls in the answers of the mock server, as a client reads them. -/

namespace CallHierarchy

namespace Json

theorem asWord32?_nat {n : Nat} (h : n < 2 ^ 32) : (nat n).asWord32? = some (UInt32.ofNat n) := by
  have hle : n ≤ 0xFFFFFFFF := by omega
  simp [asWord32?, nat, int, asNat?, hle]

theorem asNat?_nat {n limit : Nat} (h : n ≤ limit) : (nat n).asNat? limit = some n := if_pos h

theorem word32_ofNat {n : Nat} (h : n < 2 ^ 32) : word32 (UInt32.ofNat n) = nat n := by
  rw [word32, UInt32.toNat_ofNat', Nat.mod_eq_of_lt h]

end Json

namespace Source

/-- The positions of a function are numbers of 32 bits. -/
structure Function.Fits (f : Function) : Prop where
  indent_lt : f.indent < 2 ^ 32
  name_lt : f.nameColumn + f.nameWidth < 2 ^ 32
  line_lt : f.line < 2 ^ 32
  endLine_lt : f.endLine < 2 ^ 32
  endColumn_lt : f.endColumn < 2 ^ 32

/-- The positions of a call are numbers of 32 bits. -/
structure CallSite.Fits (s : CallSite) : Prop where
  line_lt : s.line < 2 ^ 32
  column_lt : s.column + s.callee.nameWidth < 2 ^ 32

end Source

namespace MockServer

open Source

/-- The range between two places of a text. -/
def rangeOf (line column stopLine stopColumn : Nat) : Range :=
  ⟨⟨UInt32.ofNat line, UInt32.ofNat column⟩, ⟨UInt32.ofNat stopLine, UInt32.ofNat stopColumn⟩⟩

/-- The item that stands for a function in the answers of the server. -/
def itemOf (uri : Uri) (f : Function) : Item where
  name := f.name
  kind := Int32.ofNat f.kind
  tags := if f.deprecated then some [1] else none
  detail := some f.detail
  uri := uri
  range := rangeOf f.line f.indent f.endLine f.endColumn
  selectionRange := rangeOf f.line f.nameColumn f.line (f.nameColumn + f.nameWidth)
  data := none

/-- The calls that stand for a group in the answers of the server. -/
def callOf (uri : Uri) (group : Function × List CallSite) : Call where
  item := itemOf uri group.1
  ranges := group.2.map fun s => rangeOf s.line s.column s.line (s.column + s.callee.nameWidth)

section Ranges

variable {line column stopLine stopColumn : Nat} (hline : line < 2 ^ 32) (hcolumn : column < 2 ^ 32)
  (hstopLine : stopLine < 2 ^ 32) (hstopColumn : stopColumn < 2 ^ 32)

include hline hcolumn hstopLine hstopColumn

theorem ofJson?_rangeJson : Range.ofJson? (rangeJson line column stopLine stopColumn) =
    some (rangeOf line column stopLine stopColumn) := by
  simp [Range.ofJson?, rangeJson, Json.fields?, Dictionary.get?, Position.ofJson?, rangeOf,
    Json.asWord32?_nat hline, Json.asWord32?_nat hcolumn, Json.asWord32?_nat hstopLine,
    Json.asWord32?_nat hstopColumn]

theorem toJson_rangeOf : (rangeOf line column stopLine stopColumn).toJson =
    rangeJson line column stopLine stopColumn := by
  simp only [Range.toJson, rangeOf, rangeJson, Position.toJson, Json.word32_ofNat hline,
    Json.word32_ofNat hcolumn, Json.word32_ofNat hstopLine, Json.word32_ofNat hstopColumn]

theorem canonical_rangeJson : (rangeJson line column stopLine stopColumn).Canonical 2 := by
  have hplace {line column : Nat} (hline : line < 2 ^ 32) (hcolumn : column < 2 ^ 32) :
      (Json.object [("character", .nat column), ("line", .nat line)]).Canonical 1 :=
    .object (show ["character", "line"].Pairwise (· < ·) by decide) <| by
      simpa using ⟨.nat (by omega), .nat (by omega)⟩
  exact .object (show ["end", "start"].Pairwise (· < ·) by decide) <| by
    simpa using ⟨hplace hstopLine hstopColumn, hplace hline hcolumn⟩

end Ranges

variable {uri : Uri} {f : Function}

theorem kind_lt (f : Function) : f.kind < 2 ^ 31 := by
  unfold Function.kind
  split <;> decide

/-- The fields of an item that tell which function it stands for. -/
theorem get?_itemJson (f : Function) :
    (itemJson f).get? "name" = some (.string f.name) ∧
      (itemJson f).get? "uri" = some (.string f.uri) ∧
      (itemJson f).get? "range" =
        some (rangeJson f.line f.indent f.endLine f.endColumn) ∧
      (itemJson f).get? "selectionRange" =
        some (rangeJson f.line f.nameColumn f.line (f.nameColumn + f.nameWidth)) := by
  -- Only the item of a deprecated function has tags, so its fields are found in two ways.
  unfold itemJson
  cases f.deprecated <;> exact ⟨rfl, rfl, rfl, rfl⟩

/-- A question about the item of a function is about the name, the document and the line of the
function. -/
theorem target?_itemJson {g : CallGraph} {params : Json}
    (hitem : params.get? "item" = some (itemJson f)) (hline : f.line ≤ Decimal.max64) :
    target? g params = g.find? f.uri f.name f.line := by
  obtain ⟨hname, huri, -, hselection⟩ := get?_itemJson f
  have hstart : within "selectionRange" "start" (itemJson f) =
      some (.object [("character", .nat f.nameColumn), ("line", .nat f.line)]) := by
    rw [within, hselection]
    rfl
  have hlineField : (Json.object [("character", .nat f.nameColumn),
      ("line", .nat f.line)]).get? "line" = some (.nat f.line) := rfl
  simp only [target?, hitem, huri, hname, hstart, hlineField, Json.asNat?_nat hline,
    Json.asString?, Option.bind_eq_bind, Option.bind_some]

theorem ofJson?_itemJson (huri : f.uri = uri.text) (hf : f.Fits) :
    Item.ofJson? (itemJson f) = some (itemOf uri f) := by
  have hrange := ofJson?_rangeJson hf.line_lt hf.indent_lt hf.endLine_lt hf.endColumn_lt
  have hselection := ofJson?_rangeJson hf.line_lt
    (Nat.lt_of_le_of_lt (Nat.le_add_right _ _) hf.name_lt) hf.line_lt hf.name_lt
  have hkind : (Json.nat f.kind).asInt32? = some (Int32.ofNat f.kind) := by
    unfold Function.kind
    split <;> rfl
  have huri' : Uri.ofJson? (.string f.uri) = some uri := by
    simp [Uri.ofJson?, Json.asString?, huri, Uri.ofString?, uri.isReference]
  -- The fields of an object are found by name, whether the tags are among them or not.
  have hfields : (itemJson f).fields? Item.fieldNames 0 = some [some (.string f.name),
      some (.nat f.kind), if f.deprecated then some (.array [.nat 1]) else none,
      some (.string f.detail), some (.string f.uri),
      some (rangeJson f.line f.indent f.endLine f.endColumn),
      some (rangeJson f.line f.nameColumn f.line (f.nameColumn + f.nameWidth)), none] := by
    unfold itemJson
    cases f.deprecated <;> rfl
  have htags : Json.optional (Json.list? Json.asInt32?)
      (if f.deprecated then some (.array [.nat 1]) else none) =
        some (if f.deprecated then some [1] else none) := by
    cases f.deprecated <;> rfl
  have hdetail : Json.optional Json.asString? (some (.string f.detail)) = some (some f.detail) :=
    rfl
  simp only [Item.ofJson?, hfields, Option.bind_eq_bind, Option.bind_some, Json.asString?, hkind,
    htags, hdetail, huri', hrange, hselection, Json.present_none, itemOf]

theorem toJson_itemOf (huri : f.uri = uri.text) (hf : f.Fits) :
    (itemOf uri f).toJson = itemJson f := by
  have hrange := toJson_rangeOf hf.line_lt hf.indent_lt hf.endLine_lt hf.endColumn_lt
  have hselection := toJson_rangeOf hf.line_lt
    (Nat.lt_of_le_of_lt (Nat.le_add_right _ _) hf.name_lt) hf.line_lt hf.name_lt
  have hkind : Json.int32 (Int32.ofNat f.kind) = .nat f.kind := by
    unfold Function.kind
    split <;> rfl
  have hone : Json.int32 1 = .nat 1 := rfl
  cases hdeprecated : f.deprecated <;>
    simp [Item.toJson, itemOf, itemJson, Uri.toJson, huri, hrange, hselection, hkind, hone,
      hdeprecated, Json.ofFields]

theorem toJson_callsParams (huri : f.uri = uri.text) (hf : f.Fits) :
    CallsParams.toJson ⟨itemOf uri f, none, none⟩ = .object [("item", itemJson f)] := by
  rw [← toJson_itemOf huri hf]
  rfl

theorem canonical_itemJson (hf : f.Fits) : (itemJson f).Canonical 3 := by
  have hrange := canonical_rangeJson hf.line_lt hf.indent_lt hf.endLine_lt hf.endColumn_lt
  have hselection := canonical_rangeJson hf.line_lt
    (Nat.lt_of_le_of_lt (Nat.le_add_right _ _) hf.name_lt) hf.line_lt hf.name_lt
  have htags : ∀ v ∈ (if f.deprecated then some (.array [.nat 1]) else none : Option Json),
      v.Canonical 2 := by
    intro v hv
    split at hv
    · obtain rfl := Option.some.inj hv
      exact .array fun w hw => List.mem_singleton.1 hw ▸ .nat (by decide)
    · cases hv
  refine .ofFields (show ["detail", "kind", "name", "range", "selectionRange", "tags",
    "uri"].Pairwise (· < ·) by decide) ?_
  simp only [List.forall_mem_cons, Option.mem_some_iff, forall_eq']
  exact ⟨.string _, .nat (Nat.lt_trans (kind_lt f) (by decide)), .string _, hrange, hselection,
    htags, .string _, nofun⟩

/-! ### Calls -/

/-- The groups are about functions of a document, and their positions are numbers of 32 bits. -/
structure Fit (uri : Uri) (groups : List (Function × List CallSite)) : Prop where
  uri_eq : ∀ e ∈ groups, e.1.uri = uri.text
  functions : ∀ e ∈ groups, e.1.Fits
  calls : ∀ e ∈ groups, ∀ s ∈ e.2, s.Fits

variable {groups : List (Function × List CallSite)} {direction : Direction}

theorem mapM_map_eq_some {α β γ : Type} {xs : List α} {f : α → β} {read : β → Option γ} {g : α → γ}
    (h : ∀ x ∈ xs, read (f x) = some (g x)) : (xs.map f).mapM read = some (xs.map g) := by
  induction xs with
  | nil => rfl
  | cons x xs ih =>
    rw [List.map_cons, List.mapM_cons, h x (by simp),
      ih fun y hy => h y (List.mem_cons_of_mem _ hy)]
    rfl

theorem ofJson?_siteJson {s : CallSite} (h : s.Fits) : Range.ofJson? (siteJson s) =
    some (rangeOf s.line s.column s.line (s.column + s.callee.nameWidth)) :=
  ofJson?_rangeJson h.line_lt (Nat.lt_of_le_of_lt (Nat.le_add_right _ _) h.column_lt) h.line_lt
    h.column_lt

theorem canonical_siteJson {s : CallSite} (h : s.Fits) : (siteJson s).Canonical 2 :=
  canonical_rangeJson h.line_lt (Nat.lt_of_le_of_lt (Nat.le_add_right _ _) h.column_lt) h.line_lt
    h.column_lt

/-- A client reads the calls that the server answers with. -/
theorem nullable?_groupsJson (h : Fit uri groups) :
    Json.nullable? (Json.list? (Call.ofJson? (Call.key direction)))
      (groupsJson (Call.key direction) groups) = some (some (groups.map (callOf uri))) := by
  have hcall : ∀ e ∈ groups, Call.ofJson? (Call.key direction)
      (.object (Dictionary.ofList [(Call.key direction, itemJson e.1),
        ("fromRanges", .array (e.2.map siteJson))])) = some (callOf uri e) := by
    intro e he
    have hitem := ofJson?_itemJson (h.uri_eq e he) (h.functions e he)
    have hranges : Json.list? Range.ofJson? (.array (e.2.map siteJson)) =
        some (callOf uri e).ranges :=
      mapM_map_eq_some fun s hs => ofJson?_siteJson (h.calls e he s hs)
    have hne : Call.key direction ≠ "fromRanges" := by cases direction <;> decide
    simp [Call.ofJson?, Json.fields?, Dictionary.get?_ofList, Dictionary.get?, hitem, hranges,
      Ne.symm hne, callOf]
  exact congrArg (Option.map some) (mapM_map_eq_some hcall)

theorem canonical_group {item ranges : Json} (hitem : item.Canonical 3)
    (hranges : ranges.Canonical 3) :
    (Json.object (Dictionary.ofList
      [(Call.key direction, item), ("fromRanges", ranges)])).Canonical 4 := by
  cases direction with
  | incoming =>
    exact .object (show ["from", "fromRanges"].Pairwise (· < ·) by decide)
      (show ∀ m ∈ [("from", item), ("fromRanges", ranges)], m.2.Canonical 3 by
        simpa using ⟨hitem, hranges⟩)
  | outgoing =>
    exact .object (show ["fromRanges", "to"].Pairwise (· < ·) by decide)
      (show ∀ m ∈ [("fromRanges", ranges), ("to", item)], m.2.Canonical 3 by
        simpa using ⟨hranges, hitem⟩)

theorem canonical_groupsJson (h : Fit uri groups) :
    (groupsJson (Call.key direction) groups).Canonical 5 := by
  refine .array fun v hv => ?_
  obtain ⟨⟨f, sites⟩, he, rfl⟩ := List.mem_map.1 hv
  refine canonical_group (canonical_itemJson (h.functions _ he)) (.array fun v hv => ?_)
  obtain ⟨s, hs, rfl⟩ := List.mem_map.1 hv
  exact canonical_siteJson (h.calls _ he s hs)

end MockServer

end CallHierarchy
