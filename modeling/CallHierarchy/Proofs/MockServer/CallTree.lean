import CallHierarchy.Proofs.MockServer.Session
import CallHierarchy.Proofs.Tree.Cycle

/-! Call trees of documents. A client that opens a document with the mock server without faults, and
asks at a name that the document defines, collects the unfolding of the document's call graph from
the function of that name (`collect_callGraph`). -/

namespace CallHierarchy

namespace MockServer

open Client Source CallHierarchy.Tree

/-- The entry that shows a function. -/
def entryOf (style : PathStyle) (uri : Uri) (f : Function) : Entry := .ofItem style (itemOf uri f)

/-- What the server says about the calls of a symbol, with one document open. -/
def replies (uri : Uri) (text : String) : Replies Failure := fun direction item =>
  let g := CallGraph.build [(uri.text, text)]
  let found := g.find? item.uri.text item.name item.selectionRange.start.line.toNat
  .ok (found.map fun f => (g.groups direction f).map (callOf uri))

/-- A place in a call tree displays functions of a call graph: those above it, from the root down,
and its own. A function is marked where it stands above itself already. Otherwise, unless it is too
far down, the functions one call away from it stand below it. -/
structure Displays (g : CallGraph) (entry : Function → Entry) (direction : Direction) (depth : Nat)
    (p : Place) (above : List Function) (f : Function) : Prop where
  above_eq : p.above = above.map entry
  entry_eq : p.tree.entry = entry f
  above_mem : ∀ a ∈ above, a ∈ g.functions
  mem : f ∈ g.functions
  recursive_iff : p.tree.recursive = true ↔ f ∈ above
  expanded_iff : p.tree.expanded = true ↔ above.length < depth ∧ f ∉ above
  children : ∃ hs, p.tree.children.map Tree.entry = hs.map entry ∧
    if p.tree.expanded then g.Lists direction f hs else hs = []

variable {d : Document} {link : Link MockServer} {timeout : Nat} {f h : Function}
  {style : PathStyle} {direction : Direction}

/-! ### Symbols -/

theorem Fitting.toNat_line (hd : Fitting d) (hf : f ∈ functions d.uri.text d.text) :
    (UInt32.ofNat f.line).toNat = f.line :=
  UInt32.toNat_ofNat_of_lt (hd.function hf).line_lt

/-- Functions of a document are told apart by their symbols. -/
theorem Fitting.eq_of_symbol (hd : Fitting d) (hf : f ∈ functions d.uri.text d.text)
    (hh : h ∈ functions d.uri.text d.text)
    (heq : (entryOf style d.uri f).symbol = (entryOf style d.uri h).symbol) : f = h := by
  -- A line defines one function at most, so the line of the name is enough.
  have hline : UInt32.ofNat f.line = UInt32.ofNat h.line :=
    congrArg (fun symbol => symbol.2.2.start.line) heq
  have hnat := congrArg UInt32.toNat hline
  rw [hd.toNat_line hf, hd.toNat_line hh] at hnat
  exact eq_of_line_eq hf hh hnat

/-- The entries of the functions of a document are as many as the functions. -/
theorem Fitting.nodup_entries (hd : Fitting d) (style : PathStyle) :
    ((functions d.uri.text d.text).map (entryOf style d.uri)).Nodup :=
  (nodup_functions d.uri.text d.text).map_on fun _ hf _ hh heq =>
    hd.eq_of_symbol hf hh (congrArg Entry.symbol heq)

theorem Fitting.recurs_iff (hd : Fitting d) (hf : f ∈ functions d.uri.text d.text)
    {above : List Function} (habove : ∀ a ∈ above, a ∈ functions d.uri.text d.text) :
    recurs (above.map (entryOf style d.uri)) (entryOf style d.uri f) = true ↔ f ∈ above := by
  rw [recurs_iff_mem_symbols, List.map_map]
  constructor
  · intro hmem
    obtain ⟨a, ha, heq⟩ := List.mem_map.1 hmem
    rwa [hd.eq_of_symbol hf (habove a ha) heq.symm]
  · exact List.mem_map_of_mem

/-! ### Replies -/

theorem Fitting.replies_itemOf (hd : Fitting d) (hf : f ∈ functions d.uri.text d.text) :
    replies d.uri d.text direction (itemOf d.uri f) =
      .ok (some (((CallGraph.build [(d.uri.text, d.text)]).groups direction f).map
        (callOf d.uri))) := by
  have hfound : (CallGraph.build [(d.uri.text, d.text)]).find? d.uri.text f.name
      (UInt32.ofNat f.line).toNat = some f := by
    rw [hd.toNat_line hf]
    exact CallGraph.find?_function hf
  simp only [replies, itemOf, rangeOf, hfound, Option.map_some]

/-- Whatever functions of the document it is asked about, the connection replies so. -/
theorem Fitting.steady (hd : Fitting d) (htimeout : 0 < timeout) {items : List Item}
    (hitems : ∀ item ∈ items, ∃ f ∈ functions d.uri.text d.text, item = itemOf d.uri f) :
    (Link.transport peer timeout).connection.Steady (replies d.uri d.text) direction (Ready d)
      items := by
  refine ⟨fun item hitem link hready => ?_, fun item hitem link hready => ?_⟩
  · obtain ⟨f, hf, rfl⟩ := hitems item hitem
    obtain ⟨link', hrun, -⟩ := hready.calls_run hd htimeout hf direction
    rw [hrun, hd.replies_itemOf hf]
  · obtain ⟨f, hf, rfl⟩ := hitems item hitem
    obtain ⟨link', hrun, hready'⟩ := hready.calls_run hd htimeout hf direction
    rwa [hrun]

/-! ### Trees -/

/-- The root of the tree of a function. -/
def rootOf (style : PathStyle) (direction : Direction) (uri : Uri) (f : Function) : Node :=
  .ofItems style direction [itemOf uri f]

/-- The unfolding of the replies from a function. -/
def unfolding (d : Document) (style : PathStyle) (direction : Direction) (f : Function)
    (depth : Nat) : List Tree :=
  let root := rootOf style direction d.uri f
  root.entries.map (unfold ((replies d.uri d.text).next root) depth [])

/-- Below the entry of a function stand those of the functions one call away. -/
theorem Fitting.next_entryOf (hd : Fitting d) (hh : h ∈ functions d.uri.text d.text) :
    (replies d.uri d.text).next (rootOf style direction d.uri f) (entryOf style d.uri h) =
      (((CallGraph.build [(d.uri.text, d.text)]).groups direction h).map Prod.fst).map
        (entryOf style d.uri) := by
  have hitem : (entryOf style d.uri h).item = itemOf d.uri h := rfl
  have hdirection : (rootOf style direction d.uri f).direction = direction := rfl
  have hstyle : (rootOf style direction d.uri f).style = style := rfl
  rw [Replies.next, Replies.items, hitem, hdirection, hd.replies_itemOf hh, hstyle]
  simp [callOf, entryOf]

/-- An entry shows a function of the document, and so do those above it. -/
structure Stacked (d : Document) (style : PathStyle) (path : List Entry) (e : Entry)
    (above : List Function) (f : Function) : Prop where
  path_eq : path = above.map (entryOf style d.uri)
  entry_eq : e = entryOf style d.uri f
  above_mem : ∀ a ∈ above, a ∈ functions d.uri.text d.text
  mem : f ∈ functions d.uri.text d.text

theorem Stacked.below (hd : Fitting d) {path : List Entry} {e e' : Entry} {above : List Function}
    (hstacked : Stacked d style path e above h)
    (he' : e' ∈ (replies d.uri d.text).next (rootOf style direction d.uri f) e) :
    ∃ h', Stacked d style (path ++ [e]) e' (above ++ [h]) h' := by
  obtain ⟨rfl, rfl, habove, hh⟩ := hstacked
  rw [hd.next_entryOf hh] at he'
  obtain ⟨h', hh', rfl⟩ := List.mem_map.1 he'
  obtain ⟨group, hgroup, rfl⟩ := List.mem_map.1 hh'
  refine ⟨group.1, by simp, rfl, fun a ha => ?_, CallGraph.mem_functions_of_mem_groups hgroup⟩
  rcases List.mem_append.1 ha with ha | ha
  · exact habove a ha
  · rwa [List.mem_singleton.1 ha]

theorem Stacked.displays (hd : Fitting d) {p : Place} {above : List Function}
    (hstacked : Stacked d style p.above p.tree.entry above h) {depth : Nat}
    (hp : p ∈ placesIn [] (unfolding d style direction f depth)) :
    Displays (CallGraph.build [(d.uri.text, d.text)]) (entryOf style d.uri) direction depth p above
      h := by
  obtain ⟨hpath, hentry, habove, hh⟩ := hstacked
  have hunfolds : Unfolds ((replies d.uri d.text).next (rootOf style direction d.uri f)) depth []
      (rootOf style direction d.uri f).entries (unfolding d style direction f depth) :=
    unfolds_unfold_root
  have hrecursive : p.tree.recursive = true ↔ h ∈ above := by
    rw [hunfolds.recursive_iff p hp, ← recurs_iff, hpath, hentry]
    exact hd.recurs_iff hh habove
  have hexpanded : p.tree.expanded = true ↔ above.length < depth ∧ h ∉ above := by
    rw [hunfolds.expanded_iff p hp, ← hrecursive, hpath, List.length_map, Bool.not_eq_true]
  refine ⟨hpath, hentry, ?_, ?_, hrecursive, hexpanded, ?_⟩
  · rwa [CallGraph.functions_build]
  · rwa [CallGraph.functions_build]
  · rw [hunfolds.children p hp, hentry, hd.next_entryOf hh]
    split
    · exact ⟨_, rfl, CallGraph.lists_groups direction h⟩
    · exact ⟨[], rfl, rfl⟩

/-- Each place in the unfolding of the replies shows functions of the document. -/
theorem Fitting.exists_stacked (hd : Fitting d) (hf : f ∈ functions d.uri.text d.text) {depth : Nat}
    {p : Place} (hp : p ∈ placesIn [] (unfolding d style direction f depth)) :
    ∃ above h, Stacked d style p.above p.tree.entry above h := by
  obtain ⟨-, -, hstacked⟩ := exists_unfold_of_mem
    (motive := fun _ path e => ∃ above h, Stacked d style path e above h)
    (fun e he => ⟨[], f, rfl, List.mem_singleton.1 he, by simp, hf⟩)
    (fun _ path e ⟨above, h, hstacked⟩ _ e' he' => ⟨above ++ [h], hstacked.below hd he'⟩) hp
  exact hstacked

/-- The walk from a function comes to the unfolding of the replies. -/
theorem Ready.collect_run (hready : Ready d link) (hd : Fitting d) (htimeout : 0 < timeout)
    (hf : f ∈ functions d.uri.text d.text) (style : PathStyle) (direction : Direction)
    (depth : Nat) :
    ∃ link', (collect (Link.transport peer timeout).connection (rootOf style direction d.uri f)
        depth).run.run link = (.ok (unfolding d style direction f depth), link') ∧
      Ready d link' := by
  have hitems : ∀ item ∈ followed [] (unfolding d style direction f depth),
      ∃ h ∈ functions d.uri.text d.text, item = itemOf d.uri h := by
    intro item hitem
    obtain ⟨p, hp, rfl⟩ := List.mem_map.1 hitem
    obtain ⟨above, h, hstacked⟩ := hd.exists_stacked hf (List.mem_filter.1 hp).1
    exact ⟨h, hstacked.mem, congrArg Entry.item hstacked.entry_eq⟩
  have hsteady : (Link.transport peer timeout).connection.Steady (replies d.uri d.text) direction
      (Ready d) (followed [] (unfolding d style direction f depth)) := hd.steady htimeout hitems
  have hreplies : ∀ item ∈ followed [] (unfolding d style direction f depth),
      ∃ calls, replies d.uri d.text direction item = .ok calls := by
    intro item hitem
    obtain ⟨h, hh, rfl⟩ := hitems item hitem
    exact ⟨_, hd.replies_itemOf hh⟩
  have hrun : (collect (Link.transport peer timeout).connection (rootOf style direction d.uri f)
      depth).run.run link = (Link.transport peer timeout).connection.inquire (replies d.uri d.text)
        direction (followed [] (unfolding d style direction f depth))
        (unfolding d style direction f depth) link := collectBelow_run hsteady hready
  rw [Connection.inquire_of_none (Inquiry.failure_of_ok hreplies)] at hrun
  exact ⟨_, hrun, hsteady.after hready⟩

/-- The question about a place in a name comes to the root of the function's tree. -/
theorem Ready.root_run (hready : Ready d link) (hd : Fitting d) (htimeout : 0 < timeout)
    (hf : f ∈ functions d.uri.text d.text) (hascii : ∀ c ∈ f.name.toList, c.toNat < 128)
    {position : Position} (hline : position.line.toNat = f.line)
    (hlow : f.nameColumn ≤ position.character.toNat)
    (hhigh : position.character.toNat < f.nameColumn + f.nameWidth) (style : PathStyle)
    (direction : Direction) :
    ∃ link', (Node.root (Link.transport peer timeout).connection style d.uri position
        direction).run.run link = (.ok (rootOf style direction d.uri f), link') ∧
      Ready d link' := by
  obtain ⟨link', hprepare, hready'⟩ := hready.prepare_run hd htimeout hf
    (hline ▸ CallGraph.atPosition?_function hf hascii hlow hhigh)
  exact ⟨link', run_bind_of_ok (run_adapt hprepare _), hready'⟩

/-- A client opens a document in a session that has none, and asks at a column of the ASCII name of
a function, in the line that defines it. The root has the entry of the function alone. From it the
client collects the unfolding of the call graph, down to any depth. Every place shows functions of
the document, which are told apart by their entries. A function is marked exactly where it stands
above itself. Below a function that is followed stand the functions one call away: each once, and in
the order of the lines of their first calls, or of their definitions where that is one line. -/
theorem collect_callGraph (hquiet : link.Quiet) (hserves : link.server.Serves []) (hd : Fitting d)
    (htimeout : 0 < timeout) :
    let t := Link.transport peer timeout
    let g := CallGraph.build [(d.uri.text, d.text)]
    ∃ opened, (t.openDocument d).run.run link = (.ok (), opened) ∧
      ∀ f ∈ g.functions, (∀ c ∈ f.name.toList, c.toNat < 128) → ∀ position : Position,
        position.line.toNat = f.line → f.nameColumn ≤ position.character.toNat →
        position.character.toNat < f.nameColumn + f.nameWidth → ∀ style direction,
      let entry := entryOf style d.uri
      ∃ root asked,
        (Node.root t.connection style d.uri position direction).run.run opened =
          (.ok root, asked) ∧
        root.direction = direction ∧ root.entries = [entry f] ∧
        (g.functions.map entry).Nodup ∧
        ∀ depth, ∃ trees collected,
          (collect t.connection root depth).run.run asked = (.ok trees, collected) ∧
          trees.map Tree.entry = [entry f] ∧
          ∀ p ∈ placesIn [] trees, ∃ above h, Displays g entry direction depth p above h := by
  intro t g
  obtain ⟨opened, hopen, hready⟩ := openDocument_run timeout hquiet hserves hd
  refine ⟨opened, hopen, fun f hf hascii position hline hlow hhigh style direction => ?_⟩
  rw [CallGraph.functions_build] at hf
  obtain ⟨asked, hroot, hasked⟩ :=
    hready.root_run hd htimeout hf hascii hline hlow hhigh style direction
  refine ⟨_, asked, hroot, rfl, rfl, ?_, fun depth => ?_⟩
  · rw [CallGraph.functions_build]
    exact hd.nodup_entries style
  · obtain ⟨collected, hcollect, -⟩ := hasked.collect_run hd htimeout hf style direction depth
    refine ⟨_, collected, hcollect, map_entry_unfold, fun p hp => ?_⟩
    obtain ⟨above, h, hstacked⟩ := hd.exists_stacked hf hp
    exact ⟨above, h, hstacked.displays hd hp⟩

/-! ### A document -/

/-- In this document a line calls two functions against the order of their definitions. -/
def sample : Document where
  uri := ⟨"file:///a.rs", by decide⟩
  language := "rust"
  version := 1
  text := "fn a() \x7b\x7d\nfn b() \x7b\x7d\nfn main() \x7b\n    b(); a();\n\x7d\n"

/-- The main function of the document. -/
def sampleMain : Function := ⟨"file:///a.rs", "main", false, "fn main()", 2, 0, 3, 4, 1⟩

theorem sampleMain_mem : sampleMain ∈ functions sample.uri.text sample.text := by decide +kernel

theorem ascii_sampleMain : ∀ c ∈ sampleMain.name.toList, c.toNat < 128 := by simp [sampleMain]

theorem fitting_sample : Fitting sample where
  lines_le := by decide +kernel
  width_lt := by decide +kernel
  opening_lt := by
    rw [Json.utf8ByteSize_compact]
    decide +kernel
  item_lt := by
    simp only [Json.utf8ByteSize_compact]
    decide +kernel
  calls_lt f hf direction := by
    rw [Json.utf8ByteSize_compact]
    revert f
    cases direction <;> decide +kernel

/-- The client asks in the name of the main function. -/
theorem collect_callGraph_sample :
    let link := Link.start (start .plain)
    let t := Link.transport peer 30000
    let g := CallGraph.build [(sample.uri.text, sample.text)]
    let entry := entryOf .posix sample.uri
    (link.Quiet ∧ link.server.Serves [] ∧ Fitting sample) ∧
      ∃ opened root asked, (t.openDocument sample).run.run link = (.ok (), opened) ∧
        (Node.root t.connection .posix sample.uri ⟨2, 5⟩ .outgoing).run.run opened =
          (.ok root, asked) ∧
        root.entries = [entry sampleMain] ∧
        ∀ depth, ∃ trees collected,
          (collect t.connection root depth).run.run asked = (.ok trees, collected) ∧
          ∀ p ∈ placesIn [] trees, ∃ above h, Displays g entry .outgoing depth p above h := by
  intro link t g entry
  have hquiet : link.Quiet := Link.quiet_start _
  refine ⟨⟨hquiet, serves_start, fitting_sample⟩, ?_⟩
  obtain ⟨opened, hopen, hfunctions⟩ :=
    collect_callGraph hquiet serves_start fitting_sample (show 0 < 30000 by decide)
  have hmain : sampleMain ∈ g.functions := by
    rw [CallGraph.functions_build]
    exact sampleMain_mem
  obtain ⟨root, asked, hroot, -, hentries, -, hcollect⟩ :=
    hfunctions sampleMain hmain ascii_sampleMain ⟨2, 5⟩ rfl (by decide) (by decide) .posix .outgoing
  refine ⟨opened, root, asked, hopen, hroot, hentries, fun depth => ?_⟩
  obtain ⟨trees, collected, hrun, -, hplaces⟩ := hcollect depth
  exact ⟨trees, collected, hrun, hplaces⟩

/-- The order of the children is not that of the columns in a line: the main function calls `b`
before `a`, but `a` is defined first. -/
theorem collect_sample_order :
    let t := Link.transport peer 30000
    let g := CallGraph.build [(sample.uri.text, sample.text)]
    ∃ opened root asked tree collected,
      (t.openDocument sample).run.run (Link.start (start .plain)) = (.ok (), opened) ∧
      (Node.root t.connection .posix sample.uri ⟨2, 3⟩ .outgoing).run.run opened =
        (.ok root, asked) ∧
      (collect t.connection root 1).run.run asked = (.ok [tree], collected) ∧
      tree.entry.name = "main" ∧ tree.expanded = true ∧
      tree.children.map (·.entry.name) = ["a", "b"] ∧
      (g.calls.map fun s => (s.caller.name, s.callee.name, s.line, s.column)) =
        [("main", "a", 3, 9), ("main", "b", 3, 4)] ∧
      ¬ (tree.children.map (·.entry.name)).Pairwise fun name later =>
        ∃ s ∈ g.calls, s.callee.name = name ∧ ∀ t ∈ g.calls, t.callee.name = later →
          s.line < t.line ∨ s.line = t.line ∧ s.column < t.column := by
  intro t g
  have htimeout : 0 < 30000 := by decide
  have hquiet : (Link.start (start .plain)).Quiet := Link.quiet_start _
  have hline : (⟨2, 3⟩ : Position).line.toNat = sampleMain.line := rfl
  obtain ⟨opened, hopen, hready⟩ := openDocument_run 30000 hquiet serves_start fitting_sample
  obtain ⟨asked, hroot, hasked⟩ := hready.root_run fitting_sample htimeout sampleMain_mem
    ascii_sampleMain hline (by decide) (by decide) .posix .outgoing
  obtain ⟨collected, hcollect, -⟩ := hasked.collect_run fitting_sample htimeout sampleMain_mem
    .posix .outgoing 1
  let next := (replies sample.uri sample.text).next (rootOf .posix .outgoing sample.uri sampleMain)
  let main := entryOf .posix sample.uri sampleMain
  have hnext : next main =
      ((g.groups .outgoing sampleMain).map Prod.fst).map (entryOf .posix sample.uri) :=
    fitting_sample.next_entryOf sampleMain_mem
  have hnames : ((g.groups .outgoing sampleMain).map Prod.fst).map Function.name = ["a", "b"] := by
    decide +kernel
  have hchildren : (unfold next 1 [] main).children = (next main).map (unfold next 0 [main]) := rfl
  have horder : (unfold next 1 [] main).children.map (·.entry.name) = ["a", "b"] := by
    rw [← hnames, hchildren, hnext, List.map_map, List.map_map]
    rfl
  refine ⟨opened, _, asked, unfold next 1 [] main, collected, hopen, hroot, hcollect, rfl, rfl,
    horder, by decide +kernel, ?_⟩
  rw [horder]
  decide +kernel

end MockServer

end CallHierarchy
