import CallHierarchy.Proofs.Item.Kept
import CallHierarchy.Proofs.Tree.Tour

/-! The way of an item through a client: out of a reply, into the entry of a node, and back to the
server in the questions about that entry. What the server gets back is the object that it sent, cut
down to what is known of an item (`node_returns`). -/

namespace CallHierarchy.Tour

open Client (Transport readAnswer readCalls)

variable {σ : Type} {t : Transport (StateM σ)} {node : Node} {index : Nat} {entry : Entry}
  {v : Json}

/-- The entry at an index of a node stands for an object that the server sent. It shows the object
as its raw data, and a question about it is one request that carries the object. Either time the
object is cut down to the known keys, and it reads back as the item that was read at first. -/
structure Returns (t : Transport (StateM σ)) (node : Node) (index : Nat) (entry : Entry)
    (v : Json) : Prop where
  entry_eq : node.entries[index]? = some entry
  item_eq : Item.ofJson? v = some entry.item
  shown : entry.toJson.get? "rawData" = some (Item.keep .shown v)
  again : ∀ order, Item.ofJson? (Item.keep order v) = some entry.item
  /-- The entry can be asked about in either direction. -/
  below : ∀ style direction s,
    let (answer, after) := (t.request (CallsParams.method direction)
      (.object [("item", Item.keep .sent v)])).run.run s
    (Node.below t.connection style direction entry.item).run.run s =
      ((Question.calls direction entry.item (readCalls direction answer)).made style direction,
        after)
  itemAt : node.itemAt t.connection index =
    Node.below t.connection node.style node.direction entry.item

theorem returns_of_given (hentry : node.entries[index]? = some entry)
    (h : Item.Given v entry.item) : Returns t node index entry v where
  entry_eq := hentry
  item_eq := h.read
  shown := congrArg some h.shown_eq
  again order := (h.keep order).read
  below style direction s := by
    have hparams : CallsParams.toJson ⟨entry.item, none, none⟩ =
        .object [("item", Item.keep .sent v)] := by
      rw [← h.toJson_eq]
      rfl
    have hcalls := calls_run t direction entry.item s
    rw [hparams] at hcalls
    rw [below_run, hcalls]
    rfl
  itemAt := Node.itemAt_of_getElem? t.connection hentry

/-- The entries of a level stand for the objects that its items were read from. -/
theorem returns_ofItems {style : PathStyle} {direction : Direction} {items : List Item}
    {item : Item} (hitem : items[index]? = some item) (hread : Item.ofJson? v = some item)
    (hv : Item.OfObjects v) :
    ∃ entry, Returns t (Node.ofItems style direction items) index entry v := by
  refine ⟨Entry.ofItem style item, returns_of_given ?_ (Item.given_of_read hv hread)⟩
  rw [Node.ofItems, List.getElem?_map, hitem, Option.map_some]

theorem getElem?_of_forall₂ {α β : Type} {R : α → β → Prop} {as : List α} {bs : List β}
    (h : List.Forall₂ R as bs) {i : Nat} {a : α} (ha : as[i]? = some a) :
    ∃ b, bs[i]? = some b ∧ R a b := by
  induction h generalizing i with
  | nil => simp at ha
  | cons hab _ ih =>
    cases i with
    | zero =>
      cases ha
      exact ⟨_, rfl, hab⟩
    | succ i => exact ih ha

theorem readAnswer_array {α : Type} {read : Json → Option α} {vs : List Json} {xs : List α}
    (hread : vs.mapM read = some xs) (method : String) :
    readAnswer (Json.nullable? (Json.list? read)) method (.ok (.array vs)) = .ok (some xs) := by
  have hlist : Json.nullable? (Json.list? read) (.array vs) = some (some xs) :=
    congrArg (Option.map some) hread
  rw [readAnswer, hlist]

/-- A reply with symbols that the client accepts makes the root of a tree. -/
theorem root_run_of_reply {style : PathStyle} {direction : Direction} {document : Uri}
    {position : Position} {s s' : σ} {vs : List Json} {items : List Item}
    (hreply : (t.request PrepareParams.method
      (PrepareParams.toJson ⟨document, position, none⟩)).run.run s = (.ok (.array vs), s'))
    (hread : vs.mapM Item.ofJson? = some items) :
    (Node.root t.connection style document position direction).run.run s =
      (.ok (Node.ofItems style direction items), s') := by
  have hask : (t.connection.prepare document position).run =
      readAnswer (Json.nullable? (Json.list? Item.ofJson?)) PrepareParams.method <$>
        (t.request PrepareParams.method (PrepareParams.toJson ⟨document, position, none⟩)).run :=
    t.run_ask _ _ _
  have hprepare : (t.connection.prepare document position).run.run s = (.ok (some items), s') := by
    rw [hask, StateT.run_map, hreply]
    exact congrArg (·, s') (readAnswer_array hread _)
  rw [root_run, hprepare]
  rfl

/-- A reply with calls that the client accepts makes the level below the item that it was asked
about. -/
theorem below_run_of_reply {style : PathStyle} {direction : Direction} {item : Item} {s s' : σ}
    {vs : List Json} {calls : List Call}
    (hreply : (t.request (CallsParams.method direction)
      (CallsParams.toJson ⟨item, none, none⟩)).run.run s = (.ok (.array vs), s'))
    (hread : vs.mapM (Call.ofJson? (Call.key direction)) = some calls) :
    (Node.below t.connection style direction item).run.run s =
      (.ok (Node.ofItems style direction (calls.map Call.item)), s') := by
  have hcalls := calls_run t direction item s
  rw [hreply] at hcalls
  rw [below_run, hcalls, readCalls, readAnswer_array hread]
  rfl

/-- Whatever a server answers, what it gets back of an item is what it sent. Where a client accepts
a reply with symbols or calls, it makes a node with an entry for each, in order. An entry whose item
was an object, down to the ends of its ranges, stands for that object: it shows the object and
carries it in the questions about it, cut down to the known keys and otherwise as it was. -/
theorem node_returns (t : Transport (StateM σ)) (style : PathStyle) (direction : Direction)
    (s s' : σ) (vs : List Json) :
    (∀ document position items,
      (t.request PrepareParams.method
        (PrepareParams.toJson ⟨document, position, none⟩)).run.run s = (.ok (.array vs), s') →
      vs.mapM Item.ofJson? = some items →
      ∃ node, (Node.root t.connection style document position direction).run.run s =
          (.ok node, s') ∧ node.direction = direction ∧ node.entries.length = vs.length ∧
        ∀ i v, vs[i]? = some v → Item.OfObjects v → ∃ entry, Returns t node i entry v) ∧
    ∀ item calls,
      (t.request (CallsParams.method direction)
        (CallsParams.toJson ⟨item, none, none⟩)).run.run s = (.ok (.array vs), s') →
      vs.mapM (Call.ofJson? (Call.key direction)) = some calls →
      ∃ node, (Node.below t.connection style direction item).run.run s = (.ok node, s') ∧
        node.direction = direction ∧ node.entries.length = vs.length ∧
        ∀ i call v ranges, vs[i]? = some call →
          call.fields? [Call.key direction, "fromRanges"] 0 = some [some v, some ranges] →
          Item.OfObjects v → ∃ entry, Returns t node i entry v := by
  constructor
  · intro document position items hreply hread
    have hrelated := forall₂_of_mapM_eq_some hread
    refine ⟨_, root_run_of_reply hreply hread, rfl, ?_, fun i v hget hv => ?_⟩
    · rw [Node.ofItems, List.length_map, hrelated.length_eq]
    · obtain ⟨item, hitem, hitemRead⟩ := getElem?_of_forall₂ hrelated hget
      exact returns_ofItems hitem hitemRead hv
  · intro item calls hreply hread
    have hrelated := forall₂_of_mapM_eq_some hread
    refine ⟨_, below_run_of_reply hreply hread, rfl, ?_, fun i call v ranges hget hfields hv => ?_⟩
    · rw [Node.ofItems, List.length_map, List.length_map, hrelated.length_eq]
    · obtain ⟨called, hcalled, hcallRead⟩ := getElem?_of_forall₂ hrelated hget
      obtain ⟨v', ranges', hfields', hitemRead⟩ := call_ofJson?_eq_some hcallRead
      obtain ⟨rfl, -⟩ : v' = v ∧ ranges' = ranges := by simpa using hfields'.symm.trans hfields
      have hitem : (calls.map Call.item)[i]? = some called.item := by
        rw [List.getElem?_map, hcalled, Option.map_some]
      exact returns_ofItems hitem hitemRead hv

/-- A symbol with data of the server's own, which says nothing about tags, and has a key that is not
known. -/
def oddItem : Json :=
  let range : Json := .object [
    ("end", .object [("character", .nat 3), ("line", .nat 0)]),
    ("start", .object [("character", .nat 0), ("line", .nat 0), ("offset", .nat 7)])]
  .object [("data", .object [("b", .array [.null, .nat 1]), ("z", .null)]), ("kind", .nat 99),
    ("name", .string "f"), ("range", range), ("selectionRange", range), ("tags", .null),
    ("uri", .string "file:///A/../%c3%a9"), ("weight", .nat 3)]

/-- A server that answers each request with that symbol. -/
def oddTransport : Transport (StateM Nat) where
  request _ _ := ExceptT.mk fun asked => (.ok (.array [oddItem]), asked + 1)
  notify _ _ := ExceptT.mk fun asked => (.ok (), asked)

theorem ofObjects_oddItem : Item.OfObjects oddItem := by
  have hrange : ∀ key ∈ ["range", "selectionRange"], ∀ w ∈ oddItem.get? key,
      oddItem.get? "range" = some w := by
    simp [oddItem, Json.get?, Dictionary.get?]
  refine ⟨⟨_, rfl⟩, fun key hkey w hw => ?_⟩
  cases hrange key hkey w hw
  refine ⟨⟨_, rfl⟩, fun key hkey w hw => ?_⟩
  rcases List.mem_pair.1 hkey with rfl | rfl
  · cases hw
    exact ⟨_, rfl⟩
  · cases hw
    exact ⟨_, rfl⟩

/-- The name of the document goes back as it is written, and so do the data. The key that is not
known stays behind. -/
theorem node_returns_odd :
    ∃ document position node entry, (Node.root oddTransport.connection .posix document position
        .outgoing).run.run 0 = (.ok node, 1) ∧
      Returns oddTransport node 0 entry oddItem ∧
      (Item.keep .sent oddItem).get? "uri" = some (.string "file:///A/../%c3%a9") ∧
      (Item.keep .sent oddItem).get? "data" = oddItem.get? "data" ∧
      (Item.keep .sent oddItem).get? "weight" = none := by
  have hread : (([oddItem].mapM Item.ofJson?).isSome) = true := by decide +kernel
  obtain ⟨items, hitems⟩ := Option.isSome_iff_exists.1 hread
  obtain ⟨node, hrun, -, -, hreturns⟩ :=
    (node_returns oddTransport .posix .outgoing 0 1 [oddItem]).1 ⟨"", by decide⟩ ⟨0, 0⟩ items rfl
      hitems
  obtain ⟨entry, hentry⟩ := hreturns 0 oddItem rfl ofObjects_oddItem
  exact ⟨_, _, node, entry, hrun, hentry, rfl, rfl, rfl⟩

end CallHierarchy.Tour
