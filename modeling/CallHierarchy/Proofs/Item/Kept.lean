import CallHierarchy.Entry

/-! What is kept of an item between a server's reply and the requests that name it. The JSON of an
item as it is sent, and as it is shown, is the object that the server sent, cut down to the keys
that are known, and it reads back as the same item (`Item.Given`). -/

namespace CallHierarchy

/-! ### Readers -/

namespace Json

variable {α : Type} {read : Json → Option α} {write : α → Json}

/-- The reader takes what is written, and nothing else. -/
def Exact (read : Json → Option α) (write : α → Json) : Prop := ∀ v a, read v = some a ↔ v = write a

theorem Exact.read_write (h : Exact read write) (a : α) : read (write a) = some a := (h _ a).2 rfl

theorem exact_string : Exact asString? .string := by
  intro v s
  cases v <;> simp [asString?]

theorem asInt?_eq_some_iff {v : Json} {low high k : Int} :
    v.asInt? low high = some k ↔ v = int k ∧ low ≤ k ∧ k ≤ high := by
  constructor
  · intro h
    unfold asInt? at h
    split at h
    · obtain ⟨hbounds, heq⟩ := Option.ite_none_right_eq_some.1 h
      cases heq
      exact ⟨rfl, hbounds⟩
    · cases h
  · rintro ⟨rfl, hbounds⟩
    exact if_pos hbounds

theorem exact_int32 : Exact asInt32? int32 := by
  intro v n
  rw [asInt32?, Option.map_eq_some_iff]
  simp only [asInt?_eq_some_iff]
  constructor
  · rintro ⟨k, ⟨rfl, hlow, hhigh⟩, rfl⟩
    rw [int32, Int32.toInt_ofInt_of_le hlow (by omega)]
  · rintro rfl
    have hhigh := n.toInt_lt
    exact ⟨n.toInt, ⟨rfl, n.le_toInt, by omega⟩, Int32.ofInt_toInt n⟩

theorem exact_word32 : Exact asWord32? word32 := by
  intro v n
  constructor
  · intro h
    obtain ⟨k, hk, rfl⟩ := Option.map_eq_some_iff.1 h
    unfold asNat? at hk
    split at hk
    · obtain ⟨hle, heq⟩ := Option.ite_none_right_eq_some.1 hk
      cases heq
      rw [word32, UInt32.toNat_ofNat', Nat.mod_eq_of_lt (by omega)]
      rfl
    · cases hk
  · rintro rfl
    have hlt := n.toNat_lt
    have hle : n.toNat ≤ 0xFFFFFFFF := by omega
    simp [asWord32?, word32, nat, int, asNat?, hle]

theorem exact_uri : Exact Uri.ofJson? Uri.toJson := by
  intro v uri
  constructor
  · intro h
    obtain ⟨s, hs, hread⟩ := Option.bind_eq_some_iff.1 h
    obtain rfl := (exact_string v s).1 hs
    rw [Uri.ofString?] at hread
    split at hread
    · cases hread
      rfl
    · cases hread
  · rintro rfl
    simp [Uri.ofJson?, Uri.toJson, asString?, Uri.ofString?, uri.isReference]

theorem Exact.mapM (h : Exact read write) (vs : List Json) (as : List α) :
    vs.mapM read = some as ↔ vs = as.map write := by
  induction vs generalizing as with
  | nil => cases as <;> simp
  | cons v vs ih =>
    rw [List.mapM_cons]
    constructor
    · intro hread
      obtain ⟨a, ha, hread⟩ := Option.bind_eq_some_iff.1 hread
      obtain ⟨as, has, hread⟩ := Option.bind_eq_some_iff.1 hread
      cases hread
      rw [(h v a).1 ha, (ih as).1 has, List.map_cons]
    · intro heq
      cases as with
      | nil => cases heq
      | cons a as =>
        obtain ⟨rfl, rfl⟩ := List.cons.inj heq
        simp [h.read_write, (ih as).2 rfl]

theorem Exact.list (h : Exact read write) : Exact (list? read) fun as => .array (as.map write) := by
  intro v as
  cases v with
  | array vs => simp [list?, h.mapM]
  | null | bool | number | string | object => simp [list?]

/-- A field that may be left out is read exactly if its values are. -/
theorem Exact.optional (h : Exact read write) {field : Option Json} {x : Option α} :
    optional read field = some x ↔ present field = x.map write := by
  rw [Json.optional]
  cases present field with
  | none => cases x <;> simp
  | some v => cases x <;> simp [h v]

/-! ### Known keys -/

def IsObject (v : Json) : Prop := ∃ members, v = .object members

/-- What an object has at some keys, each value cut down in its own way. A value of `null` counts as
absent. -/
def keep (keys : List String) (cut : String → Json → Json) (v : Json) : Json :=
  .ofFields (keys.map fun key => (key, (present (v.get? key)).map (cut key)))

variable {keys : List String} {cut : String → Json → Json} {key : String} {v w : Json}

theorem isObject_keep (keys : List String) (cut : String → Json → Json) (v : Json) :
    (keep keys cut v).IsObject :=
  ⟨_, rfl⟩

theorem get?_ofFields (value : String → Option Json) (h : key ∈ keys) :
    (ofFields (keys.map fun k => (k, value k))).get? key = value key := by
  rw [ofFields, List.filterMap_map, get?]
  -- A key that comes once more has the same value again.
  have hrow : Dictionary.get? key (keys.filterMap fun k => (value k).map (k, ·)) =
      if key ∈ keys then value key else none := by
    clear h
    induction keys with
    | nil => rfl
    | cons k keys ih =>
      rw [List.filterMap_cons]
      by_cases hk : k = key
      · subst hk
        cases hvalue : value k with
        | none => simp [ih, hvalue]
        | some w => simp [Dictionary.get?]
      · cases hvalue : value k with
        | none => simp [ih, Ne.symm hk]
        | some w => simp [Dictionary.get?, ih, hk, Ne.symm hk]
  exact hrow.trans (if_pos h)

theorem get?_keep (h : key ∈ keys) :
    (keep keys cut v).get? key = (present (v.get? key)).map (cut key) := by
  exact get?_ofFields (fun key => (present (v.get? key)).map (cut key)) h

theorem present_of_ne_null (h : v ≠ null) : present (some v) = some v := by
  cases v <;> simp_all [present]

theorem ne_null_of_present {field : Option Json} (h : present field = some v) : v ≠ null := by
  rintro rfl
  unfold present at h
  split at h
  · cases h
  · next hne => exact hne h

theorem present_present (field : Option Json) : present (present field) = present field := by
  cases h : present field with
  | none => rfl
  | some v => exact present_of_ne_null (ne_null_of_present h)

theorem IsObject.ne_null (h : v.IsObject) : v ≠ null := by
  obtain ⟨members, rfl⟩ := h
  nofun

theorem word32_ne_null (n : UInt32) : word32 n ≠ null := nofun

theorem int32_ne_null (n : Int32) : int32 n ≠ null := nofun

theorem uri_ne_null (uri : Uri) : uri.toJson ≠ null := nofun

theorem get?_keep_of_some (hkey : key ∈ keys) (h : v.get? key = some w) (hw : w ≠ null) :
    (keep keys cut v).get? key = some (cut key w) := by
  rw [get?_keep hkey, h, present_of_ne_null hw, Option.map_some]

end Json

/-! ### Orders of the known keys -/

/-- The keys that are known of an item, its ranges and their ends, in an order. -/
structure KeyOrder where
  position : List String
  range : List String
  item : List String
  position_perm : position.Perm ["line", "character"]
  range_perm : range.Perm ["start", "end"]
  item_perm : item.Perm Item.fieldNames

/-- The order in requests. -/
def KeyOrder.sent : KeyOrder where
  position := ["character", "line"]
  range := ["end", "start"]
  item := ["data", "detail", "kind", "name", "range", "selectionRange", "tags", "uri"]
  position_perm := by decide
  range_perm := by decide
  item_perm := by decide

/-- The order in which an item is shown. -/
def KeyOrder.shown : KeyOrder where
  position := ["line", "character"]
  range := ["start", "end"]
  item := Item.fieldNames
  position_perm := .refl _
  range_perm := .refl _
  item_perm := .refl _

variable {v : Json} {order : KeyOrder}

/-! ### Positions -/

namespace Position

/-- A value cut down to what is known of a position. -/
def keep (order : KeyOrder) : Json → Json := Json.keep order.position fun _ => id

/-- The object gives the position. -/
structure Given (v : Json) (p : Position) : Prop where
  object : v.IsObject
  line : v.get? "line" = some (.word32 p.line)
  character : v.get? "character" = some (.word32 p.character)

variable {p : Position}

theorem given_of_read (hv : v.IsObject) (h : ofJson? v = some p) : Given v p := by
  obtain ⟨members, rfl⟩ := hv
  unfold ofJson? at h
  obtain ⟨fields, hfields, h⟩ := Option.bind_eq_some_iff.1 h
  split at h
  · obtain ⟨line, hline, h⟩ := Option.bind_eq_some_iff.1 h
    obtain ⟨character, hcharacter, h⟩ := Option.bind_eq_some_iff.1 h
    cases h
    simp only [Json.fields?, List.map_cons, Option.some.injEq, List.cons.injEq] at hfields
    exact {
      object := ⟨members, rfl⟩
      line := hfields.1.trans (congrArg some ((Json.exact_word32 _ _).1 hline))
      character := hfields.2.1.trans (congrArg some ((Json.exact_word32 _ _).1 hcharacter)) }
  · cases h

namespace Given

theorem read (h : Given v p) : ofJson? v = some p := by
  obtain ⟨⟨members, rfl⟩, hline, hcharacter⟩ := h
  rw [Json.get?] at hline hcharacter
  simp [ofJson?, Json.fields?, hline, hcharacter, Json.exact_word32.read_write]

theorem keep (h : Given v p) (order : KeyOrder) : Given (Position.keep order v) p where
  object := Json.isObject_keep ..
  line := Json.get?_keep_of_some (by simp [order.position_perm.mem_iff]) h.line
    (Json.word32_ne_null _)
  character := Json.get?_keep_of_some (by simp [order.position_perm.mem_iff]) h.character
    (Json.word32_ne_null _)

theorem toJson_eq (h : Given v p) : p.toJson = Position.keep .sent v := by
  simp [toJson, Position.keep, Json.keep, KeyOrder.sent, h.line, h.character, Json.ofFields,
    Json.present_of_ne_null, Json.word32_ne_null]

theorem shown_eq (h : Given v p) :
    Item.shownFields.shownPosition p = Position.keep .shown v := by
  simp [Item.shownFields.shownPosition, Position.keep, Json.keep, KeyOrder.shown, h.line,
    h.character, Json.ofFields, Json.present_of_ne_null, Json.word32_ne_null]

end Given

end Position

/-! ### Ranges -/

namespace Range

def keep (order : KeyOrder) : Json → Json :=
  Json.keep order.range fun _ => Position.keep order

structure Given (v : Json) (r : Range) : Prop where
  object : v.IsObject
  start : ∃ w, v.get? "start" = some w ∧ Position.Given w r.start
  stop : ∃ w, v.get? "end" = some w ∧ Position.Given w r.stop

structure OfObjects (v : Json) : Prop where
  object : v.IsObject
  ends : ∀ key ∈ ["start", "end"], ∀ w ∈ v.get? key, w.IsObject

variable {r : Range}

theorem given_of_read (hv : OfObjects v) (h : ofJson? v = some r) : Given v r := by
  obtain ⟨⟨members, rfl⟩, hends⟩ := hv
  unfold ofJson? at h
  obtain ⟨fields, hfields, h⟩ := Option.bind_eq_some_iff.1 h
  split at h
  · obtain ⟨start, hstart, h⟩ := Option.bind_eq_some_iff.1 h
    obtain ⟨stop, hstop, h⟩ := Option.bind_eq_some_iff.1 h
    cases h
    simp only [Json.fields?, List.map_cons, Option.some.injEq, List.cons.injEq] at hfields
    refine ⟨⟨members, rfl⟩, ⟨_, hfields.1, ?_⟩, ⟨_, hfields.2.1, ?_⟩⟩
    · exact Position.given_of_read (hends "start" (by simp) _ hfields.1) hstart
    · exact Position.given_of_read (hends "end" (by simp) _ hfields.2.1) hstop
  · cases h

namespace Given

theorem read (h : Given v r) : ofJson? v = some r := by
  obtain ⟨⟨members, rfl⟩, ⟨start, hget, hstart⟩, ⟨stop, hget', hstop⟩⟩ := h
  rw [Json.get?] at hget hget'
  simp [ofJson?, Json.fields?, hget, hget', hstart.read, hstop.read]

theorem keep (h : Given v r) (order : KeyOrder) : Given (Range.keep order v) r where
  object := Json.isObject_keep ..
  start := by
    obtain ⟨w, hget, hw⟩ := h.start
    exact ⟨_, Json.get?_keep_of_some (by simp [order.range_perm.mem_iff]) hget hw.object.ne_null,
      hw.keep order⟩
  stop := by
    obtain ⟨w, hget, hw⟩ := h.stop
    exact ⟨_, Json.get?_keep_of_some (by simp [order.range_perm.mem_iff]) hget hw.object.ne_null,
      hw.keep order⟩

theorem toJson_eq (h : Given v r) : r.toJson = Range.keep .sent v := by
  obtain ⟨start, hget, hstart⟩ := h.start
  obtain ⟨stop, hget', hstop⟩ := h.stop
  simp [toJson, Range.keep, Json.keep, KeyOrder.sent, hget, hget', Json.ofFields,
    Json.present_of_ne_null, hstart.object.ne_null, hstop.object.ne_null, hstart.toJson_eq,
    hstop.toJson_eq]

theorem shown_eq (h : Given v r) : Item.shownFields.shownRange r = Range.keep .shown v := by
  obtain ⟨start, hget, hstart⟩ := h.start
  obtain ⟨stop, hget', hstop⟩ := h.stop
  simp [Item.shownFields.shownRange, Range.keep, Json.keep, KeyOrder.shown, hget, hget',
    Json.ofFields, Json.present_of_ne_null, hstart.object.ne_null, hstop.object.ne_null,
    hstart.shown_eq, hstop.shown_eq]

end Given

end Range

/-! ### Items -/

namespace Item

def keep (order : KeyOrder) : Json → Json :=
  Json.keep order.item fun key =>
    if key ∈ ["range", "selectionRange"] then Range.keep order else id

/-- The object gives the item, and its ranges are objects as well. -/
structure Given (v : Json) (item : Item) : Prop where
  object : v.IsObject
  name : v.get? "name" = some (.string item.name)
  kind : v.get? "kind" = some (.int32 item.kind)
  tags : Json.present (v.get? "tags") = item.tags.map fun tags => .array (tags.map .int32)
  detail : Json.present (v.get? "detail") = item.detail.map .string
  uri : v.get? "uri" = some item.uri.toJson
  range : ∃ w, v.get? "range" = some w ∧ Range.Given w item.range
  selectionRange : ∃ w, v.get? "selectionRange" = some w ∧ Range.Given w item.selectionRange
  data : Json.present (v.get? "data") = item.data

/-- The value is an object, and so are the ranges that it has, and their ends. -/
structure OfObjects (v : Json) : Prop where
  object : v.IsObject
  ranges : ∀ key ∈ ["range", "selectionRange"], ∀ w ∈ v.get? key, Range.OfObjects w

variable {item : Item}

theorem given_of_read (hv : OfObjects v) (h : ofJson? v = some item) : Given v item := by
  obtain ⟨⟨members, rfl⟩, hranges⟩ := hv
  unfold ofJson? at h
  obtain ⟨fields, hfields, h⟩ := Option.bind_eq_some_iff.1 h
  split at h
  · obtain ⟨name, hname, h⟩ := Option.bind_eq_some_iff.1 h
    obtain ⟨kind, hkind, h⟩ := Option.bind_eq_some_iff.1 h
    obtain ⟨tags, htags, h⟩ := Option.bind_eq_some_iff.1 h
    obtain ⟨detail, hdetail, h⟩ := Option.bind_eq_some_iff.1 h
    obtain ⟨uri, huri, h⟩ := Option.bind_eq_some_iff.1 h
    obtain ⟨range, hrange, h⟩ := Option.bind_eq_some_iff.1 h
    obtain ⟨selection, hselection, h⟩ := Option.bind_eq_some_iff.1 h
    cases h
    simp only [Json.fields?, fieldNames, List.map_cons, Option.some.injEq,
      List.cons.injEq] at hfields
    obtain ⟨hgetName, hgetKind, hgetTags, hgetDetail, hgetUri, hgetRange, hgetSelection, hgetData,
      -⟩ := hfields
    subst hgetTags hgetDetail hgetData
    exact {
      object := ⟨members, rfl⟩
      name := hgetName.trans (congrArg some ((Json.exact_string _ _).1 hname))
      kind := hgetKind.trans (congrArg some ((Json.exact_int32 _ _).1 hkind))
      tags := Json.exact_int32.list.optional.1 htags
      detail := Json.exact_string.optional.1 hdetail
      uri := hgetUri.trans (congrArg some ((Json.exact_uri _ _).1 huri))
      range := ⟨_, hgetRange, Range.given_of_read (hranges "range" (by simp) _ hgetRange) hrange⟩
      selectionRange := ⟨_, hgetSelection,
        Range.given_of_read (hranges "selectionRange" (by simp) _ hgetSelection) hselection⟩
      data := rfl }
  · cases h

/-- What is kept under a key that is not that of a range. -/
theorem get?_keep {key : String} (hkey : key ∈ fieldNames)
    (hrange : key ∉ ["range", "selectionRange"]) (order : KeyOrder) (v : Json) :
    (Item.keep order v).get? key = Json.present (v.get? key) := by
  rw [Item.keep, Json.get?_keep (order.item_perm.mem_iff.2 hkey)]
  simp only [if_neg hrange, Option.map_id]
  rfl

theorem get?_keep_range {key : String} {w : Json} (hkey : key ∈ fieldNames)
    (hrange : key ∈ ["range", "selectionRange"]) (h : v.get? key = some w) (hw : w.IsObject)
    (order : KeyOrder) : (Item.keep order v).get? key = some (Range.keep order w) := by
  rw [Item.keep, Json.get?_keep_of_some (order.item_perm.mem_iff.2 hkey) h hw.ne_null,
    if_pos hrange]

namespace Given

theorem read (h : Given v item) : ofJson? v = some item := by
  have htags := Json.exact_int32.list.optional.2 h.tags
  have hdetail := Json.exact_string.optional.2 h.detail
  obtain ⟨range, hgetRange, hrange⟩ := h.range
  obtain ⟨selection, hgetSelection, hselection⟩ := h.selectionRange
  obtain ⟨⟨members, rfl⟩, hname, hkind, -, -, huri, -, -, hdata⟩ := h
  rw [Json.get?] at hname hkind huri hgetRange hgetSelection htags hdetail hdata
  simp [ofJson?, Json.fields?, fieldNames, hname, hkind, huri, hgetRange, hgetSelection, htags,
    hdetail, hdata, hrange.read, hselection.read, Json.exact_string.read_write,
    Json.exact_int32.read_write, Json.exact_uri.read_write]

theorem keep (h : Given v item) (order : KeyOrder) : Given (Item.keep order v) item := by
  obtain ⟨range, hgetRange, hrange⟩ := h.range
  obtain ⟨selection, hgetSelection, hselection⟩ := h.selectionRange
  exact {
    object := Json.isObject_keep ..
    name := by rw [get?_keep (by decide) (by decide), h.name]; rfl
    kind := by rw [get?_keep (by decide) (by decide), h.kind]; rfl
    tags := by rw [get?_keep (by decide) (by decide), Json.present_present, h.tags]
    detail := by rw [get?_keep (by decide) (by decide), Json.present_present, h.detail]
    uri := by rw [get?_keep (by decide) (by decide), h.uri]; rfl
    range := ⟨_, get?_keep_range (by decide) (by decide) hgetRange hrange.object order,
      hrange.keep order⟩
    selectionRange := ⟨_, get?_keep_range (by decide) (by decide) hgetSelection hselection.object
      order, hselection.keep order⟩
    data := by rw [get?_keep (by decide) (by decide), Json.present_present, h.data] }

theorem toJson_eq (h : Given v item) : item.toJson = Item.keep .sent v := by
  obtain ⟨range, hgetRange, hrange⟩ := h.range
  obtain ⟨selection, hgetSelection, hselection⟩ := h.selectionRange
  simp [toJson, Item.keep, Json.keep, KeyOrder.sent, h.name, h.kind, h.tags, h.detail, h.uri,
    h.data, hgetRange, hgetSelection, Json.present_of_ne_null, hrange.object.ne_null,
    hselection.object.ne_null, hrange.toJson_eq, hselection.toJson_eq, Json.int32_ne_null,
    Json.uri_ne_null]

theorem shown_eq (h : Given v item) : .ofFields item.shownFields = Item.keep .shown v := by
  obtain ⟨range, hgetRange, hrange⟩ := h.range
  obtain ⟨selection, hgetSelection, hselection⟩ := h.selectionRange
  simp [shownFields, Item.keep, Json.keep, KeyOrder.shown, fieldNames, h.name, h.kind, h.tags,
    h.detail, h.uri, h.data, hgetRange, hgetSelection, Json.present_of_ne_null,
    hrange.object.ne_null, hselection.object.ne_null, hrange.shown_eq, hselection.shown_eq,
    Json.int32_ne_null, Json.uri_ne_null]

end Given

end Item

end CallHierarchy
