import CallHierarchy.Settings.Basic

/-! The files of settings. Where they stay as they are, what is read does not depend on the monad in
which it is read, and each file is found and read apart from the others (`load_eq`). -/

namespace CallHierarchy.Settings

/-- The paths of the files of settings: the user's, if something is there, and the one that the
caller names. -/
def filePaths (isThere : String → Bool) (explicit : Option String)
    (environment : List (String × String)) : List String :=
  (userFile? environment).toList.filter isThere ++ explicit.toList

/-- The file for a path of settings: the first one of those it may mean that can be read. -/
def fileFor? (read : String → Option (List UInt8)) (path : String) :
    Option (String × List UInt8) :=
  (candidates path).findSome? fun path => (read path).map (path, ·)

/-- The layer in a file. -/
def layerIn? (file : String × List UInt8) : Option (Dictionary Value) :=
  (Format.ofPath? file.1).bind (·.read? file.2)

/-- The layer for a path of settings. -/
def layerFor? (read : String → Option (List UInt8)) (path : String) : Option (Dictionary Value) :=
  (fileFor? read path).bind layerIn?

variable {read : String → Option (List UInt8)} {isThere : String → Bool}
  {explicit : Option String} {environment : List (String × String)}
  {m : Type → Type} [Monad m] [LawfulMonad m]

theorem layerFor?_eq_none_iff {path : String} : layerFor? read path = none ↔
    fileFor? read path = none ∨ ∃ file, fileFor? read path = some file ∧ layerIn? file = none := by
  rw [layerFor?]
  cases fileFor? read path <;> simp

theorem firstLayer_pure (paths : List String) :
    firstLayer (fun path => (pure (read path) : m _)) paths =
      pure (((paths.findSome? fun path => (read path).map (path, ·)).bind layerIn?).elim
        (.error .unreadable) .ok) := by
  induction paths with
  | nil => rfl
  | cons path rest ih =>
    cases hread : read path with
    | none => simpa [firstLayer, layerAt, hread] using ih
    | some bytes =>
      cases hlayer : (Format.ofPath? path).bind (·.read? bytes) <;>
        simp [firstLayer, layerAt, layerIn?, hread, hlayer]

theorem load_eq :
    load (fun path => (pure (read path) : m _)) (fun path => pure (isThere path)) explicit
        environment =
      pure ((filePaths isThere explicit environment).mapM (fun path =>
        (layerFor? read path).elim (.error .unreadable) .ok) >>= (ofLayers · environment)) := by
  have hfilter : (userFile? environment).toList.filterM (fun path => (pure (isThere path) : m _)) =
      pure ((userFile? environment).toList.filter isThere) := by
    cases userFile? environment with
    | none => simp [List.filterM, List.filterAuxM]
    | some path => cases h : isThere path <;> simp [List.filterM, List.filterAuxM, h]
  have hlayers (path : String) : firstLayer (fun path => (pure (read path) : m _))
      (candidates path) = pure ((layerFor? read path).elim (.error .unreadable) .ok) :=
    firstLayer_pure (candidates path)
  simp only [load, hfilter, hlayers, pure_bind, List.mapM_pure, List.mapM_map, Function.id_comp,
    filePaths]
  split
  · next hlayer => rw [hlayer]; rfl
  · next hlayer => rw [hlayer]; rfl

end CallHierarchy.Settings
