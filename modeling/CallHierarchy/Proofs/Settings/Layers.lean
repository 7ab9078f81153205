import CallHierarchy.Proofs.Json.Ordered
import CallHierarchy.Proofs.Settings.Overlay
import CallHierarchy.Settings.Basic
import Mathlib.Data.List.Sort

/-! Settings made from layers. What the layers hold together at a path is what their own values
there come to (`at?_merged`), and the settings are read off that (`ofLayers_eq_ok_iff`). A value in
one layer that a later one replaces plays no part, whatever its type. -/

namespace CallHierarchy

open Value

namespace Settings

/-- The keys of the settings that are single values. -/
def scalarKeys : List String := ["max_depth", "request_timeout", "direction"]

/-- A layer that sets nothing but the settings, and whose servers are tables. -/
structure IsPlain (layer : Dictionary Value) : Prop where
  keys : ∀ e ∈ layer, e.1 ∈ "server" :: scalarKeys
  servers : ∀ v ∈ layer.get? "server", ∃ languages ∈ v.table?, ∀ e ∈ languages, e.2.table?.isSome

instance (layer : Dictionary Value) : Decidable (IsPlain layer) :=
  decidable_of_iff
    ((∀ e ∈ layer, e.1 ∈ "server" :: scalarKeys) ∧
      ∀ v ∈ layer.get? "server", ∃ languages ∈ v.table?, ∀ e ∈ languages, e.2.table?.isSome)
    ⟨fun h => ⟨h.1, h.2⟩, fun h => ⟨h.keys, h.servers⟩⟩

/-- All layers, from the defaults, which lie lowest, to the highest one. -/
def sources (layers : List (Dictionary Value)) : List Value := (defaults :: layers).map .table

/-- What the values come to that layers have at the end of a path. -/
def settledAt? (path : List String) (layers : List Value) : Option Value :=
  settle (layers.filterMap (at? path))

/-- The settings that layers come to. Each setting is read off what the layers have for it alone,
and so is each field of the server of a language. -/
structure Settled (layers : List Value) (s : Settings) : Prop where
  maxDepth : (settledAt? ["max_depth"] layers).bind asNat? = some s.maxDepth
  requestTimeout : (settledAt? ["request_timeout"] layers).bind asNat? = some s.requestTimeout
  direction : (settledAt? ["direction"] layers).bind directionOf? = some s.direction
  /-- The languages are in order, so each stands once. -/
  ordered : (s.servers.map Prod.fst).Pairwise (· < ·)
  languages : ∀ language, (s.servers.get? language).isSome ↔
    ∃ layer ∈ layers, (layer.at? ["server", language]).isSome
  program : ∀ language command, s.servers.get? language = some command →
    (settledAt? ["server", language, "command"] layers).bind asText? = some command.program
  arguments : ∀ language command, s.servers.get? language = some command →
    ((settledAt? ["server", language, "args"] layers).getD (.array [])).asTexts? =
      some command.arguments

/-! ### Laying tables over each other -/

variable {below layer : Dictionary Value} {layers : List (Dictionary Value)}

theorem ofKey_of_mem {key : String} (h : key ∈ "server" :: scalarKeys) :
    KeyPath.ofKey key = ⟨key, []⟩ := by
  simp only [scalarKeys, List.mem_cons, List.not_mem_nil, or_false] at h
  rcases h with rfl | rfl | rfl | rfl <;> decide +kernel

theorem layOver_eq (h : ∀ e ∈ layer, e.1 ∈ "server" :: scalarKeys) :
    layOver below layer = overlayAll below layer := by
  induction layer generalizing below with
  | nil => rfl
  | cons e layer ih =>
    obtain ⟨he, hlayer⟩ := List.forall_mem_cons.1 h
    have hstep : layOver below (e :: layer) =
        layOver ((KeyPath.ofKey e.1).lay e.2 below) layer := rfl
    rw [hstep, ofKey_of_mem he, ih hlayer]
    rfl

theorem foldl_layOver (h : ∀ layer ∈ layers, IsPlain layer) :
    some (Value.table (layers.foldl layOver below)) =
      laid (some (.table below)) (layers.map .table) := by
  induction layers generalizing below with
  | nil => rfl
  | cons layer layers ih =>
    obtain ⟨hlayer, hlayers⟩ := List.forall_mem_cons.1 h
    rw [List.foldl_cons, ih hlayers, layOver_eq hlayer.keys]
    rfl

/-! ### What stands at a path -/

/-- A plain layer in which each key of a table stands once. -/
structure IsSound (layer : Dictionary Value) : Prop extends IsPlain layer where
  ordered : (Value.table layer).Ordered

/-- Where a setting or a field of a server is found. -/
inductive IsSetting : List String → Prop
  | top (key : String) : IsSetting [key]
  | server (language : String) : IsSetting ["server", language]
  | field (language field : String) : IsSetting ["server", language, field]

theorem isTable_of_ordered {entries : Dictionary Value} (h : (Value.table entries).Ordered) :
    (Value.table entries).IsTable := ⟨entries, rfl, h.nodup⟩

/-- Whether a value is of a kind that variables and defaults have. -/
def IsScalar (v : Value) : Prop := (∃ n, v = .int n) ∨ ∃ s, v = .text s

theorem isSound_of_scalars (hordered : (layer.map Prod.fst).Pairwise (· < ·))
    (h : ∀ e ∈ layer, e.1 ∈ scalarKeys ∧ IsScalar e.2) : IsSound layer where
  keys e he := List.mem_cons_of_mem _ (h e he).1
  servers v hv := by
    have hkey := List.mem_map.1 (Dictionary.get?_isSome_iff.1 (Option.isSome_of_mem hv))
    obtain ⟨e, he, hserver⟩ := hkey
    have hmem := (h e he).1
    rw [hserver] at hmem
    exact absurd hmem (by decide +kernel)
  ordered := by
    refine .table hordered fun e he => ?_
    rcases (h e he).2 with ⟨n, hn⟩ | ⟨s, hs⟩
    · exact hn ▸ .int n
    · exact hs ▸ .text s

theorem scalars_defaults : ∀ e ∈ defaults, e.1 ∈ scalarKeys ∧ IsScalar e.2 := by
  intro e he
  have hmem := Dictionary.mem_ofList he
  simp only [List.mem_cons, List.not_mem_nil, or_false] at hmem
  rcases hmem with rfl | rfl | rfl
  · exact ⟨by decide +kernel, .inl ⟨_, rfl⟩⟩
  · exact ⟨by decide +kernel, .inl ⟨_, rfl⟩⟩
  · exact ⟨by decide +kernel, .inr ⟨_, rfl⟩⟩

theorem isSound_defaults : IsSound defaults :=
  isSound_of_scalars (Dictionary.pairwise_ofList _) scalars_defaults

theorem IsSound.leadsOn (h : IsSound layer) (language field : String) :
    LeadsOn ["server", language, field] (.table layer) := by
  refine ⟨isTable_of_ordered h.ordered, fun v hv => ?_⟩
  have hserver := h.ordered.get? hv
  obtain ⟨languages, htable, htables⟩ := h.servers v hv
  obtain rfl := table?_eq_some_iff.1 htable
  refine ⟨isTable_of_ordered hserver, fun w hw => ?_⟩
  have hlanguage := hserver.get? hw
  obtain ⟨fields, htable⟩ := Option.isSome_iff_exists.1 (htables _ (hserver.mem_of_get? hw))
  obtain rfl := table?_eq_some_iff.1 htable
  exact ⟨isTable_of_ordered hlanguage, fun _ _ => trivial⟩

theorem IsSound.leadsOn_setting (h : IsSound layer) {path : List String} (hpath : IsSetting path) :
    LeadsOn path (.table layer) := by
  cases hpath with
  | top key => exact ⟨isTable_of_ordered h.ordered, fun _ _ => trivial⟩
  | server language => exact LeadsOn.of_append (h.leadsOn language "")
  | field language field => exact h.leadsOn language field

/-- No default is a table that could be joined with others. -/
theorem not_table_of_at?_defaults {path : List String} (hpath : IsSetting path) {v : Value}
    (h : (Value.table defaults).at? path = some v) (entries : Dictionary Value) :
    v ≠ .table entries := by
  rintro rfl
  cases hpath with
  | top key =>
    rw [at?_singleton] at h
    rcases (scalars_defaults _ (isSound_defaults.ordered.mem_of_get? h)).2 with ⟨_, hn⟩ | ⟨_, hs⟩
    · cases hn
    · cases hs
  | server language => cases h
  | field language field => cases h

theorem isSound_of_mem_sources (h : ∀ layer ∈ layers, IsSound layer) {v : Value}
    (hv : v ∈ sources layers) : ∃ layer, IsSound layer ∧ v = .table layer := by
  obtain ⟨layer, hlayer, rfl⟩ := List.mem_map.1 hv
  exact ⟨layer, List.forall_mem_cons.2 ⟨isSound_defaults, h⟩ layer hlayer, rfl⟩

theorem at?_merged (h : ∀ layer ∈ layers, IsSound layer) {path : List String}
    (hpath : IsSetting path) : (Value.table (layers.foldl layOver defaults)).at? path =
      settledAt? path (sources layers) := by
  have hon : ∀ v ∈ layers.map Value.table, LeadsOn path v := by
    intro v hv
    obtain ⟨layer, hlayer, rfl⟩ := isSound_of_mem_sources h (List.mem_cons_of_mem _ hv)
    exact hlayer.leadsOn_setting hpath
  have hlaid := bind_at?_laid hon (some (.table defaults))
  rw [← foldl_layOver fun layer hlayer => (h layer hlayer).toIsPlain, Option.bind_some,
    Option.bind_some] at hlaid
  rw [hlaid, settledAt?, sources, List.map_cons, List.filterMap_cons]
  -- A default is not a table, so it counts as the first of the values given.
  cases hdefault : (Value.table defaults).at? path with
  | none => exact laid_eq_settle _
  | some v => exact laid_some (not_table_of_at?_defaults hpath hdefault) _

/-- Short of a setting, the layers come to a table, whose keys are in order. -/
theorem exists_table_of_settledAt? (h : ∀ layer ∈ layers, IsSound layer) {path : List String}
    {key : String} (hpath : IsSetting (path ++ [key])) {v : Value}
    (hv : settledAt? path (sources layers) = some v) :
    ∃ joined, v = .table joined ∧ (joined.map Prod.fst).Pairwise (· < ·) := by
  refine exists_table_of_settle (fun w hw => ?_) hv
  obtain ⟨_, hmem, hat⟩ := List.mem_filterMap.1 hw
  obtain ⟨layer, hlayer, rfl⟩ := isSound_of_mem_sources h hmem
  obtain ⟨entries, rfl, -⟩ := (hlayer.leadsOn_setting hpath).isTable_of_at? hat
  exact ⟨entries, rfl⟩

theorem isSome_settledAt?_iff {path : List String} {layers : List Value} :
    (settledAt? path layers).isSome ↔ ∃ layer ∈ layers, (layer.at? path).isSome := by
  rw [Option.isSome_iff_ne_none, settledAt?, Ne, settle_eq_none_iff, List.filterMap_eq_nil_iff]
  simp [Option.isSome_iff_ne_none]

/-- The servers of all layers together. -/
theorem exists_languages (h : ∀ layer ∈ layers, IsSound layer) : ∃ languages : Dictionary Value,
    ((layers.foldl layOver defaults).get? "server").getD (.table []) = .table languages ∧
    (languages.map Prod.fst).Pairwise (· < ·) ∧
    ∀ language, languages.get? language = settledAt? ["server", language] (sources layers) := by
  have hlanguage (language : String) : settledAt? ["server", language] (sources layers) =
      ((layers.foldl layOver defaults).get? "server").bind (Value.get? language) := by
    rw [← at?_merged h (.server language), at?, get?]
    exact Option.bind_congr fun v _ => at?_singleton language v
  cases hserver : (layers.foldl layOver defaults).get? "server" with
  | none => exact ⟨[], rfl, List.Pairwise.nil, fun language => by rw [hlanguage, hserver]; rfl⟩
  | some v =>
    have hsettled := at?_merged h (.top "server")
    rw [at?_singleton, get?, hserver] at hsettled
    obtain ⟨languages, rfl, hordered⟩ := exists_table_of_settledAt? h (.server "") hsettled.symm
    exact ⟨languages, rfl, hordered, fun language => by rw [hlanguage, hserver]; rfl⟩

/-! ### Reading the settings -/

end Settings

theorem ServerCommand.ofValue?_table {fields : Dictionary Value} {command : ServerCommand} :
    ofValue? (.table fields) = some command ↔
      (fields.get? "command").bind Value.asText? = some command.program ∧
      ((fields.get? "args").getD (.array [])).asTexts? = some command.arguments := by
  have hread : ofValue? (.table fields) =
      ((fields.get? "command").bind Value.asText?).bind fun program =>
        ((fields.get? "args").getD (.array [])).asTexts?.map (⟨program, ·⟩) := by
    rw [Option.bind_assoc, ofValue?]
    cases fields.get? "args" with
    | none => rfl
    | some args => cases hargs : args.asTexts? <;> simp [hargs]
  obtain ⟨program, arguments⟩ := command
  rw [hread, Option.bind_eq_some_iff]
  simp only [Option.map_eq_some_iff, mk.injEq]
  constructor
  · rintro ⟨_, hprogram, _, harguments, rfl, rfl⟩
    exact ⟨hprogram, harguments⟩
  · rintro ⟨hprogram, harguments⟩
    exact ⟨program, hprogram, arguments, harguments, rfl, rfl⟩

namespace Settings

theorem ofTable?_eq_some_iff {entries : Dictionary Value} {s : Settings} :
    ofTable? entries = some s ↔
      (entries.get? "max_depth").bind asNat? = some s.maxDepth ∧
      (entries.get? "request_timeout").bind asNat? = some s.requestTimeout ∧
      (entries.get? "direction").bind directionOf? = some s.direction ∧
      serversOf? ((entries.get? "server").getD (.table [])) = some s.servers := by
  have hread : ofTable? entries =
      ((entries.get? "max_depth").bind asNat?).bind fun maxDepth =>
        ((entries.get? "request_timeout").bind asNat?).bind fun requestTimeout =>
          ((entries.get? "direction").bind directionOf?).bind fun direction =>
            (serversOf? ((entries.get? "server").getD (.table []))).bind fun servers =>
              some ⟨maxDepth, requestTimeout, direction, servers⟩ := by
    simp only [ofTable?, Option.bind_eq_bind, Option.bind_assoc]
  obtain ⟨maxDepth, requestTimeout, direction, servers⟩ := s
  simp only [hread, Option.bind_eq_some_iff, Option.some.injEq, mk.injEq]
  constructor
  · rintro ⟨_, hmaxDepth, _, hrequestTimeout, _, hdirection, _, hservers, rfl, rfl, rfl, rfl⟩
    exact ⟨hmaxDepth, hrequestTimeout, hdirection, hservers⟩
  · rintro ⟨hmaxDepth, hrequestTimeout, hdirection, hservers⟩
    exact ⟨_, hmaxDepth, _, hrequestTimeout, _, hdirection, _, hservers, rfl, rfl, rfl, rfl⟩

theorem serversOf?_table {languages : Dictionary Value} {servers : Dictionary ServerCommand}
    (h : (languages.map Prod.fst).Pairwise (· < ·)) :
    serversOf? (.table languages) = some servers ↔
      (servers.map Prod.fst).Pairwise (· < ·) ∧
      (∀ language, (servers.get? language).isSome ↔ (languages.get? language).isSome) ∧
      ∀ language command, servers.get? language = some command →
        (languages.get? language).bind ServerCommand.ofValue? = some command := by
  rw [serversOf?, Dictionary.mapM_eq_some_iff (Dictionary.nodup_of_pairwise h)]
  constructor
  · rintro ⟨hkeys, hvalues⟩
    refine ⟨hkeys ▸ h, fun language => ?_, hvalues⟩
    rw [Dictionary.get?_isSome_iff, Dictionary.get?_isSome_iff, hkeys]
  · rintro ⟨hordered, hlanguages, hvalues⟩
    refine ⟨hordered.eq_of_mem_iff h fun language => ?_, hvalues⟩
    rw [← Dictionary.get?_isSome_iff, ← Dictionary.get?_isSome_iff, hlanguages]

/-- The command for a language is read off what the layers have for its fields. -/
theorem bind_ofValue?_eq_some_iff (h : ∀ layer ∈ layers, IsSound layer) {language : String}
    {command : ServerCommand} :
    (settledAt? ["server", language] (sources layers)).bind ServerCommand.ofValue? = some command ↔
      (settledAt? ["server", language, "command"] (sources layers)).bind asText? =
        some command.program ∧
      ((settledAt? ["server", language, "args"] (sources layers)).getD (.array [])).asTexts? =
        some command.arguments := by
  have hfield (field : String) : settledAt? ["server", language, field] (sources layers) =
      (settledAt? ["server", language] (sources layers)).bind (Value.get? field) := by
    rw [← at?_merged h (.field language field), ← at?_merged h (.server language), at?, at?,
      Option.bind_assoc]
    refine Option.bind_congr fun v _ => ?_
    rw [at?_singleton, at?]
    exact Option.bind_congr fun v _ => at?_singleton field v
  rw [hfield, hfield]
  cases hlanguage : settledAt? ["server", language] (sources layers) with
  | none => simp
  | some v =>
    obtain ⟨fields, rfl, -⟩ := exists_table_of_settledAt? h (.field language "") hlanguage
    exact ServerCommand.ofValue?_table

theorem serversOf?_merged (h : ∀ layer ∈ layers, IsSound layer)
    {servers : Dictionary ServerCommand} :
    serversOf? (((layers.foldl layOver defaults).get? "server").getD (.table [])) = some servers ↔
      (servers.map Prod.fst).Pairwise (· < ·) ∧
      (∀ language, (servers.get? language).isSome ↔
        ∃ layer ∈ sources layers, (layer.at? ["server", language]).isSome) ∧
      ∀ language command, servers.get? language = some command →
        (settledAt? ["server", language, "command"] (sources layers)).bind asText? =
          some command.program ∧
        ((settledAt? ["server", language, "args"] (sources layers)).getD (.array [])).asTexts? =
          some command.arguments := by
  obtain ⟨languages, hserver, hordered, hlanguage⟩ := exists_languages h
  simp only [hserver, serversOf?_table hordered, hlanguage, isSome_settledAt?_iff,
    bind_ofValue?_eq_some_iff h]

theorem ofTable?_merged (h : ∀ layer ∈ layers, IsSound layer) {s : Settings} :
    ofTable? (layers.foldl layOver defaults) = some s ↔ Settled (sources layers) s := by
  have htop (key : String) : (layers.foldl layOver defaults).get? key =
      settledAt? [key] (sources layers) := by
    rw [← at?_merged h (.top key), at?_singleton]
    rfl
  rw [ofTable?_eq_some_iff, serversOf?_merged h, htop, htop, htop]
  constructor
  · rintro ⟨hmaxDepth, hrequestTimeout, hdirection, hordered, hlanguages, hcommands⟩
    exact ⟨hmaxDepth, hrequestTimeout, hdirection, hordered, hlanguages,
      fun language command hcommand => (hcommands language command hcommand).1,
      fun language command hcommand => (hcommands language command hcommand).2⟩
  · intro hs
    exact ⟨hs.maxDepth, hs.requestTimeout, hs.direction, hs.ordered, hs.languages,
      fun language command hcommand =>
        ⟨hs.program language command hcommand, hs.arguments language command hcommand⟩⟩

/-- The settings of files and the environment, if there are any. -/
theorem ofLayers_eq_ok_iff {files : List (Dictionary Value)}
    {environment : List (String × String)} {s : Settings}
    (h : ∀ layer ∈ files ++ [ofEnvironment environment], IsSound layer) :
    ofLayers files environment = .ok s ↔
      Settled (sources (files ++ [ofEnvironment environment])) s := by
  rw [← ofTable?_merged h]
  unfold ofLayers
  dsimp only
  split
  · next hsome => rw [hsome, Except.ok.injEq, Option.some.injEq]
  · next hnone => simp only [hnone, reduceCtorEq]

end Settings

end CallHierarchy
