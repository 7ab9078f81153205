import CallHierarchy.Proofs.Settings.Files
import CallHierarchy.Proofs.Settings.Layers
import CallHierarchy.Proofs.Toml.Ordered

/-! Where settings come from. Every file is found and read apart from the others, and only what all
of them and the environment come to has to be well-typed (`load_settles`). -/

namespace CallHierarchy.Settings

variable {read : String → Option (List UInt8)} {isThere : String → Bool}
  {explicit : Option String} {environment : List (String × String)}
  {files : List (Dictionary Value)}

/-! ### Layers that are read -/

theorem Format.ordered_of_read? {format : Format} {bytes : List UInt8} {entries : Dictionary Value}
    (h : format.read? bytes = some entries) : (Value.table entries).Ordered := by
  obtain ⟨text, -, h⟩ := Option.bind_eq_some_iff.1 h
  cases format with
  | toml => exact Toml.ordered_of_parse? h
  | json =>
    rw [Format.parse?] at h
    split at h
    · next hparse =>
      obtain rfl := Option.some.inj h
      obtain ⟨v, hv, hvalue⟩ := Option.map_eq_some_iff.1 hparse
      exact hvalue ▸ Json.ordered_of_parse? hv
    · cases h

theorem ordered_of_layerFor? {path : String} {layer : Dictionary Value}
    (h : layerFor? read path = some layer) : (Value.table layer).Ordered := by
  obtain ⟨file, -, h⟩ := Option.bind_eq_some_iff.1 h
  obtain ⟨format, -, h⟩ := Option.bind_eq_some_iff.1 h
  exact Format.ordered_of_read? h

theorem isSound_ofEnvironment (h : ∀ e ∈ ofEnvironment environment, e.1 ∈ scalarKeys) :
    IsSound (ofEnvironment environment) := by
  refine isSound_of_scalars (Dictionary.pairwise_ofList _) fun e he => ⟨h e he, ?_⟩
  obtain ⟨⟨name, v⟩, -, hvariable⟩ := List.mem_filterMap.1 (Dictionary.mem_ofList he)
  obtain ⟨key, -, rfl⟩ := Option.map_eq_some_iff.1 hvariable
  exact .inr ⟨v, rfl⟩

/-! ### Loading -/

theorem mapM_elim_of_map_eq {e : Error} {paths : List String}
    {layer? : String → Option (Dictionary Value)} (h : paths.map layer? = files.map some) :
    paths.mapM (fun path => (layer? path).elim (.error e) Except.ok) = .ok files := by
  induction paths generalizing files with
  | nil =>
    obtain rfl := List.map_eq_nil_iff.1 h.symm
    rfl
  | cons path paths ih =>
    obtain ⟨layer, rest, rfl, hlayer, hrest⟩ := List.map_eq_cons_iff.1 h.symm
    rw [List.mapM_cons, ← hlayer, ih hrest.symm]
    rfl

theorem mapM_elim_of_eq_none {e : Error} {paths : List String}
    {layer? : String → Option (Dictionary Value)} {path : String} (hpath : path ∈ paths)
    (h : layer? path = none) :
    paths.mapM (fun path => (layer? path).elim (.error e) Except.ok) = .error e := by
  induction paths with
  | nil => cases hpath
  | cons first paths ih =>
    rw [List.mapM_cons]
    rcases List.mem_cons.1 hpath with rfl | hpath
    · rw [h]
      rfl
    · cases layer? first with
      | none => rfl
      | some layer =>
        rw [ih hpath]
        rfl

theorem load_of_map_eq (h : (filePaths isThere explicit environment).map (layerFor? read) =
    files.map some) : Id.run (load (fun path => pure (read path))
      (fun path => pure (isThere path)) explicit environment) = ofLayers files environment := by
  rw [load_eq, mapM_elim_of_map_eq h]
  rfl

theorem load_of_eq_none {path : String} (hpath : path ∈ filePaths isThere explicit environment)
    (h : layerFor? read path = none) : Id.run (load (fun path => pure (read path))
      (fun path => pure (isThere path)) explicit environment) = .error .unreadable := by
  rw [load_eq, mapM_elim_of_eq_none hpath h]
  rfl

/-- Layers that are read lack settings only if something is wrong with a value. -/
theorem ofLayers_eq_error_iff {e : Error} : ofLayers files environment = .error e ↔
    e = .illTyped ∧ ¬∃ s, ofLayers files environment = .ok s := by
  unfold ofLayers
  dsimp only
  split
  · simp
  · simp [eq_comm]

theorem exists_files (h : ∀ path ∈ filePaths isThere explicit environment,
    (layerFor? read path).isSome) : ∃ files : List (Dictionary Value),
      (filePaths isThere explicit environment).map (layerFor? read) = files.map some := by
  have hsome : ∀ layer ∈ (filePaths isThere explicit environment).map (layerFor? read),
      layer.isSome := List.forall_mem_map.2 h
  exact ⟨_, (List.filter_eq_self.2 hsome).symm.trans
    List.map_filterMap_some_eq_filter_map_isSome.symm⟩

/-- The user's file, in which the direction is wrong, and a file that a caller names. -/
def twoFiles : String → Option (List UInt8)
  | "/u/calltree/config.toml" =>
    let text := "direction='?'\n[server]\ngo.command='g'\nrust=\x7bcommand='r',args=['1']\x7d"
    some text.toUTF8.toList
  | "/c.toml" => some "server.rust.args=['2','3']".toUTF8.toList
  | _ => none

end CallHierarchy.Settings
