import JavaDeps.Config.Loading
import JavaDeps.Proofs.Config.FieldReading

/-!
# What the command line overrides

The settings of the command line lie over those of the file and the environment. **Where they are
set they win, and everything else stays as it was loaded without them** (`load_overrides`).

There is one exception. A file or a variable can give a section as a list, which stands for its
fields by position. A table does not merge with a list but takes its place, so the first setting
that the command line names in such a section throws the others of that section back to their
defaults (`Overrides.makeWay`, `not_forall_load_overrides`).
-/

namespace JavaDeps.Config

open Toml (Value Entries entriesBelow overlay overlayEntries overlayOption)

/-! ### Settings as entries -/

namespace Overrides

variable (o : Overrides)

/-- The configuration with the settings of the command line in their places. What the command line
leaves out stays as it is. -/
def applyTo (c : Config) : Config where
  parser :=
    { c.parser with
      command := o.command.getD c.parser.command
      poolSize := o.poolSize.getD c.parser.poolSize
      logLevel := o.workerLogLevel.or c.parser.logLevel }
  resolver := { c.resolver with lockFile := o.lockFile.or c.resolver.lockFile }
  settings := { c.settings with logLevel := o.logLevel.or c.settings.logLevel }

/-- The entries for the parser section. -/
def parserEntries : Entries :=
  entry "command" (o.command.map fun argv ↦ .list (argv.map .text))
    ++ entry "pool_size" (o.poolSize.map fun n : Nat ↦ .integer n)
    ++ entry "log_level" (o.workerLogLevel.map .text)

/-- The entries for the resolver section. -/
def resolverEntries : Entries := entry "lock_file" (o.lockFile.map fun p ↦ .text p.text)

/-- The entries for the settings section. -/
def settingsEntries : Entries := entry "log_level" (o.logLevel.map .text)

theorem layer_eq :
    o.layer = .table (sectionEntry "parser" o.parserEntries ++
      sectionEntry "resolver" o.resolverEntries ++ sectionEntry "settings" o.settingsEntries) := by
  obtain ⟨-, poolSize, -, -, -⟩ := o
  cases poolSize <;> rfl

theorem entry_eq_nil_iff {key : String} {v : Option Value} : entry key v = [] ↔ v = none := by
  cases v <;> simp [entry]

theorem nodup_parserEntries : (o.parserEntries.map Prod.fst).Nodup := by
  rw [parserEntries]
  cases o.command <;> cases o.poolSize <;> cases o.workerLogLevel <;> simp [entry]

theorem nodup_resolverEntries : (o.resolverEntries.map Prod.fst).Nodup := by
  rw [resolverEntries]
  cases o.lockFile <;> simp [entry]

theorem nodup_settingsEntries : (o.settingsEntries.map Prod.fst).Nodup := by
  rw [settingsEntries]
  cases o.logLevel <;> simp [entry]

end Overrides

/-! ### One setting over a section -/

theorem overlayEntries_append (lower front back : Entries) :
    overlayEntries lower (front ++ back) = overlayEntries (overlayEntries lower front) back := by
  induction front generalizing lower with
  | nil => rw [List.nil_append, overlayEntries]
  | cons entry front ih => rw [List.cons_append, overlayEntries, ih, overlayEntries]

section

variable {α σ τ : Type} {fields : List (Field σ)} {key : String} {read : Value → Reading α}
  {assign : α → σ → σ} {entries : Entries} {s t : σ}

/-- **One entry over a table changes the field for its key alone.** -/
theorem readSection_overlay_singleton {a : α} {v : Value} (hfield : HasField fields key read assign)
    (hread : read (overlayOption (entries.lookup key) v) = .ok a)
    (h : readSection fields (.table entries) s = .ok t) :
    readSection fields (.table (overlayEntries entries [(key, v)])) s = .ok (assign a t) := by
  have hsingle : ([(key, v)].map Prod.fst).Nodup := List.nodup_singleton key
  have hlookup := Toml.lookup_overlayEntries hsingle entries
  refine readSection_override hfield ?_ hread (fun k hk ↦ ?_) h
  · rw [hlookup, Toml.lookup_cons_eq, if_pos rfl]
  · rw [hlookup, Toml.lookup_cons_eq, if_neg hk]
    rfl

/-- A setting that is given over a table is read, and one that is not given changes nothing. -/
theorem readSection_overlay_entry (hfield : HasField fields key read assign) (o : Option α)
    (write : α → Value) (hread : ∀ a, read (write a) = .ok a)
    (hwrite : ∀ a entries, write a ≠ .table entries)
    (h : readSection fields (.table entries) s = .ok t) :
    readSection fields (.table (overlayEntries entries (Overrides.entry key (o.map write)))) s =
      .ok (o.elim t (assign · t)) := by
  cases o with
  | none => rwa [Option.map_none, Overrides.entry, Option.toList_none, List.map_nil, overlayEntries]
  | some a =>
    refine readSection_overlay_singleton hfield ?_ h
    rw [Toml.overlayOption_of_entries (hwrite a), hread]

end

/-- Items that are written each in a way that is read back are read back together. -/
theorem readItems_map {α β : Type} {read : Value → Reading α} (write : β → Value) (f : β → α)
    (h : ∀ b, read (write b) = .ok (f b)) (position : Nat) (items : List β) :
    readItems read position (items.map write) = .ok (items.map f) := by
  induction items generalizing position with
  | nil => rfl
  | cons b items ih =>
    rw [List.map_cons, readItems, h, ih]
    rfl

theorem readList_texts (texts : List String) :
    readList readText (.list (texts.map .text)) = .ok texts := by
  have hitems := readItems_map .text id (fun s ↦ (rfl : readText (.text s) = .ok s)) 0 texts
  rw [readList, hitems, List.map_id]

/-! ### The settings that can be overridden -/

/-- The command is a field of the section of the parser, which is read as a list of texts. -/
theorem hasField_command : HasField parserFields "command" (readList readText)
    fun v s ↦ { s with command := v } where
  mem := List.mem_cons_self ..
  keys := by decide
  spares := by simp [parserFields, Field.of_spares]
  assign_assign := by simp

/-- The number of slots is a field of the section of the parser, which is read as a natural
number. -/
theorem hasField_poolSize : HasField parserFields "pool_size" readNat
    fun v s ↦ { s with poolSize := v } where
  mem := .tail _ (.head _)
  keys := by decide
  spares := by simp [parserFields, Field.of_spares]
  assign_assign := by simp

theorem hasField_workerLogLevel : HasField parserFields "log_level" readText
    fun v s ↦ { s with logLevel := some v } where
  mem := List.mem_of_getLast? rfl
  keys := by decide
  spares := by simp [parserFields, Field.of_spares]
  assign_assign := by simp

/-- The lock file is a field of the section of the resolver, which is read as a path. -/
theorem hasField_lockFile : HasField resolverFields "lock_file" readPath
    fun v s ↦ { s with lockFile := some v } where
  mem := List.mem_cons_self ..
  keys := by decide
  spares := by simp [resolverFields, Field.section, Field.of_spares]
  assign_assign := by simp

theorem hasField_logLevel : HasField generalFields "log_level" readText
    fun v s ↦ { s with logLevel := some v } where
  mem := List.mem_cons_self ..
  keys := by decide
  spares := by simp [generalFields, Field.of_spares]
  assign_assign := by simp

section

variable {entries : Entries} (o : Overrides)

/-- **A section that can be read is read with the overrides laid over it**: each of them is taken,
and what it leaves out stays as it was. -/
theorem readSection_parserEntries {s p : ParserConfig}
    (h : readSection parserFields (.table entries) s = .ok p) :
    readSection parserFields (.table (overlayEntries entries o.parserEntries)) s =
      .ok { p with
        command := o.command.getD p.command
        poolSize := o.poolSize.getD p.poolSize
        logLevel := o.workerLogLevel.or p.logLevel } := by
  have hcommand := readSection_overlay_entry hasField_command o.command
    (fun argv ↦ .list (argv.map .text)) readList_texts (by simp) h
  have hsize := readSection_overlay_entry hasField_poolSize o.poolSize
    (fun n ↦ .integer n) (fun _ ↦ rfl) (by simp) hcommand
  have hlevel := readSection_overlay_entry hasField_workerLogLevel o.workerLogLevel
    .text (fun _ ↦ rfl) (by simp) hsize
  rw [Overrides.parserEntries, overlayEntries_append, overlayEntries_append, hlevel]
  cases o.command <;> cases o.poolSize <;> cases o.workerLogLevel <;> rfl

/-- The section of the resolver reads as before, but for the lock file that is laid over it. -/
theorem readSection_resolverEntries {s p : ResolverConfig}
    (h : readSection resolverFields (.table entries) s = .ok p) :
    readSection resolverFields (.table (overlayEntries entries o.resolverEntries)) s =
      .ok { p with lockFile := o.lockFile.or p.lockFile } := by
  have hlock := readSection_overlay_entry hasField_lockFile o.lockFile
    (fun path ↦ .text path.text) (fun _ ↦ rfl) (by simp) h
  rw [Overrides.resolverEntries, hlock]
  cases o.lockFile <;> rfl

/-- The general settings read as before, but for the level that is laid over them. -/
theorem readSection_settingsEntries {s p : GeneralConfig}
    (h : readSection generalFields (.table entries) s = .ok p) :
    readSection generalFields (.table (overlayEntries entries o.settingsEntries)) s =
      .ok { p with logLevel := o.logLevel.or p.logLevel } := by
  have hlevel := readSection_overlay_entry hasField_logLevel o.logLevel
    .text (fun _ ↦ rfl) (by simp) h
  rw [Overrides.settingsEntries, hlevel]
  cases o.logLevel <;> rfl

end

/-! ### Sections over sections -/

/-- The section of the parser sets the parser, and nothing else of a configuration. -/
theorem hasLens_parserSection (cores : Nat) :
    HasLens (sections cores) "parser" (readSection parserFields · (.standard cores))
    (fun v s ↦ { s with parser := v }) (·.parser) where
  mem := List.mem_cons_self ..
  keys := by simp [sections, Field.section]
  spares := by simp [sections, Field.section, Field.of_spares]
  assign_assign := by simp
  hides := by simp [sections, Field.section, Field.of_hides]
  view_assign := by simp
  assign_view := by simp

theorem hasLens_resolverSection (cores : Nat) :
    HasLens (sections cores) "resolver" (readSection resolverFields · {})
    (fun v s ↦ { s with resolver := v }) (·.resolver) where
  mem := .tail _ (.head _)
  keys := by simp [sections, Field.section]
  spares := by simp [sections, Field.section, Field.of_spares]
  assign_assign := by simp
  hides := by simp [sections, Field.section, Field.of_hides]
  view_assign := by simp
  assign_view := by simp

theorem hasLens_settingsSection (cores : Nat) :
    HasLens (sections cores) "settings" (readSection generalFields · {})
    (fun v s ↦ { s with settings := v }) (·.settings) where
  mem := List.mem_of_getLast? rfl
  keys := by simp [sections, Field.section]
  spares := by simp [sections, Field.section, Field.of_spares]
  assign_assign := by simp
  hides := by simp [sections, Field.section, Field.of_hides]
  view_assign := by simp
  assign_view := by simp

/-- Whether a section is given by position, so that no table merges with it. -/
def isPositional (below : Entries) (key : String) : Bool :=
  match below.lookup key with
  | some (.list _) => true
  | _ => false

/-- Whether what is given for a section is lost to what lies over it. -/
def givesWay (below : Entries) (key : String) (upper : Entries) : Bool :=
  isPositional below key && !upper.isEmpty

/-- Whether a section gives way does not depend on what is laid over the other ones. -/
theorem givesWay_overlayEntries_sectionEntry {key k : String} (h : k ≠ key) (below upper : Entries)
    (above : Entries) :
    givesWay (overlayEntries below (Overrides.sectionEntry key upper)) k above =
      givesWay below k above := by
  rw [Overrides.sectionEntry]
  split
  · rw [overlayEntries]
  · have hkeys : ([(key, Value.table upper)].map Prod.fst).Nodup := List.nodup_singleton key
    have hlookup := Toml.lookup_overlayEntries hkeys below k
    rw [Toml.lookup_cons_eq, if_neg h] at hlookup
    rw [givesWay, isPositional, hlookup]
    rfl

section

variable {σ τ : Type} {inner : List (Field σ)} {outer : List (Field τ)} {key : String} {start : σ}
  {assign : σ → τ → τ} {view : τ → σ} {below upper : Entries}

/-- What a table for a section is merged with reads as the section itself, or as a section of which
nothing is said. -/
theorem readSection_entriesBelow {s t : τ}
    (hsection : HasLens outer key (readSection inner · start) assign view) (hs : view s = start)
    (h : readSection outer (.table below) s = .ok t) :
    readSection inner (.table (entriesBelow (below.lookup key))) start =
      .ok (if isPositional below key then start else view t) := by
  have hfield := readSection_field hsection h
  rw [isPositional]
  cases hlower : below.lookup key with
  | none =>
    rw [hlower] at hfield
    show readSection inner (.table []) start = .ok (view t)
    rw [hfield, hs, readSection_nil]
  | some lower =>
    rw [hlower] at hfield
    cases lower with
    | table entries => exact hfield
    | list items => exact readSection_nil inner start
    | _ => cases hfield

/-- **Entries over a section change what they say of it**, and nothing outside. -/
theorem readSection_sectionEntry {s t : τ} {change : σ → σ}
    (hsection : HasLens outer key (readSection inner · start) assign view) (hs : view s = start)
    (hupper : (upper.map Prod.fst).Nodup) (hnil : upper = [] → ∀ p, change p = p)
    (hread : ∀ {entries p}, readSection inner (.table entries) start = .ok p →
      readSection inner (.table (overlayEntries entries upper)) start = .ok (change p))
    (h : readSection outer (.table below) s = .ok t) :
    readSection outer (.table (overlayEntries below (Overrides.sectionEntry key upper))) s =
      .ok (assign (change (if givesWay below key upper then start else view t)) t) := by
  rw [Overrides.sectionEntry, givesWay]
  cases hempty : upper.isEmpty with
  | true =>
    rw [if_pos rfl, overlayEntries, Bool.not_true, Bool.and_false, if_neg Bool.false_ne_true,
      hnil (List.isEmpty_iff.1 hempty), hsection.assign_view, h]
  | false =>
    rw [if_neg Bool.false_ne_true, Bool.not_false, Bool.and_true]
    refine readSection_overlay_singleton hsection.toHasField ?_ h
    rw [Toml.overlayOption_table hupper]
    exact hread (readSection_entriesBelow hsection hs h)

end

/-! ### Loading -/

/-- The configuration with the defaults in those sections that are lost to the command line. -/
def Overrides.makeWay (o : Overrides) (cores : Nat) (below : Entries) (c : Config) : Config where
  parser := if givesWay below "parser" o.parserEntries then .standard cores else c.parser
  resolver := if givesWay below "resolver" o.resolverEntries then {} else c.resolver
  settings := if givesWay below "settings" o.settingsEntries then {} else c.settings

/-- Where no section is given by position, none gives way. -/
theorem Overrides.makeWay_eq_self {o : Overrides} {cores : Nat} {below : Entries} {c : Config}
    (h : ∀ key, isPositional below key = false) : o.makeWay cores below c = c := by
  have hstays : ∀ key upper, givesWay below key upper = false := fun key upper ↦ by
    rw [givesWay, h, Bool.false_and]
  rw [makeWay, hstays, hstays, hstays]
  rfl

/-- **What the command line lays over a configuration that can be read** is applied to it, once the
sections that are given by position have made way. -/
theorem read_overlay_layer {cores : Nat} {below : Entries} {c : Config} (o : Overrides)
    (h : read cores (.table below) = .ok c) :
    read cores (overlay (.table below) o.layer) = .ok (o.applyTo (o.makeWay cores below c)) := by
  have hparser := readSection_sectionEntry (hasLens_parserSection cores) rfl o.nodup_parserEntries
    (fun hnil p ↦ ?_) (readSection_parserEntries o) h
  have hresolver := readSection_sectionEntry (hasLens_resolverSection cores) rfl
    o.nodup_resolverEntries (fun hnil p ↦ ?_) (readSection_resolverEntries o) hparser
  have hsettings := readSection_sectionEntry (hasLens_settingsSection cores) rfl
    o.nodup_settingsEntries (fun hnil p ↦ ?_) (readSection_settingsEntries o) hresolver
  · rw [o.layer_eq, read, overlay, overlayEntries_append, overlayEntries_append, hsettings,
      givesWay_overlayEntries_sectionEntry (by decide),
      givesWay_overlayEntries_sectionEntry (by decide),
      givesWay_overlayEntries_sectionEntry (by decide)]
    rfl
  · rw [Overrides.settingsEntries, Overrides.entry_eq_nil_iff, Option.map_eq_none_iff] at hnil
    rw [hnil, Option.none_or]
  · rw [Overrides.resolverEntries, Overrides.entry_eq_nil_iff, Option.map_eq_none_iff] at hnil
    rw [hnil, Option.none_or]
  · simp only [Overrides.parserEntries, List.append_eq_nil_iff, Overrides.entry_eq_nil_iff,
      Option.map_eq_none_iff] at hnil
    obtain ⟨⟨hcommand, hsize⟩, hlevel⟩ := hnil
    rw [hcommand, hsize, hlevel, Option.getD_none, Option.getD_none, Option.none_or]

/-- Layers over a table come to a table if they are tables themselves. -/
theorem exists_foldl_overlay_eq {layers : List Value}
    (h : ∀ layer ∈ layers, ∃ upper, layer = .table upper) (below : Entries) :
    ∃ entries, layers.foldl overlay (.table below) = .table entries := by
  induction layers generalizing below with
  | nil => exact ⟨below, rfl⟩
  | cons layer layers ih =>
    obtain ⟨⟨upper, rfl⟩, hrest⟩ := List.forall_mem_cons.1 h
    rw [List.foldl_cons, overlay]
    exact ih hrest _

/-- A variable sets one value in a table. -/
theorem exists_eq_table_of_variableLayer? {name text : String} {layer : Value}
    (h : variableLayer? name text = some layer) : ∃ upper, layer = .table upper := by
  obtain ⟨keys, hkeys, rfl⟩ := Option.map_eq_some_iff.1 h
  have hne : keys ≠ [] := by
    simp only [variableKeys?, Option.ite_none_right_eq_some, Option.ite_none_left_eq_some,
      Option.some.injEq] at hkeys
    obtain ⟨-, -, rfl⟩ := hkeys
    rw [Ne, List.map_eq_nil_iff]
    exact List.splitOn_ne_nil _ _
  obtain ⟨key, keys, rfl⟩ := List.exists_cons_of_ne_nil hne
  exact ⟨_, rfl⟩

theorem exists_variablesLayer_eq (environment : List (String × String)) :
    ∃ upper, variablesLayer environment = .table upper := by
  refine exists_foldl_overlay_eq (fun layer hlayer ↦ ?_) []
  obtain ⟨⟨name, text⟩, -, hlayer⟩ := List.mem_filterMap.1 hlayer
  exact exists_eq_table_of_variableLayer? hlayer

theorem exists_eq_table_of_mem_fileLayer {fs : Files} {file : Option Path} {layers : List Value}
    (h : fileLayer fs file = .ok layers) : ∀ layer ∈ layers, ∃ upper, layer = .table upper := by
  rcases file with - | path
  · obtain rfl := Except.ok.inj h
    simp
  · cases hread : fs.readText path with
    | error e => simp [fileLayer, hread] at h
    | ok text =>
      cases hparse : Toml.parse? text with
      | none => simp [fileLayer, hread, documentLayer, hparse, Except.map] at h
      | some entries =>
        simp only [fileLayer, hread, documentLayer, hparse, Except.map, Except.ok.injEq] at h
        simp [← h]

/-- What the file and the environment say together, before the command line has its say: one table
with the variables laid over the file. -/
def layersBelow (fs : Files) (environment : List (String × String)) (root : Path)
    (asked : Option Path) : Except Failure Value := do
  let file ← fileLayer fs (← chosenFile fs root asked)
  return (file ++ [variablesLayer environment]).foldl overlay (.table [])

section

variable {cores : Nat} {fs : Files} {environment : List (String × String)} {root : Path}
  {asked : Option Path}

/-- What lies below the command line is a table, so that sections are looked up in it. -/
theorem exists_layersBelow_eq {below : Value}
    (h : layersBelow fs environment root asked = .ok below) :
    ∃ entries, below = .table entries := by
  rw [layersBelow] at h
  cases hfile : chosenFile fs root asked with
  | error e =>
    rw [hfile] at h
    cases h
  | ok file =>
    rw [hfile] at h
    change (fileLayer fs file).bind _ = _ at h
    cases hlayers : fileLayer fs file with
    | error e =>
      rw [hlayers] at h
      cases h
    | ok layers =>
      rw [hlayers] at h
      obtain rfl := Except.ok.inj h
      refine exists_foldl_overlay_eq (fun layer hlayer ↦ ?_) []
      rcases List.mem_append.1 hlayer with hlayer | hlayer
      · exact exists_eq_table_of_mem_fileLayer hlayers layer hlayer
      · obtain rfl := List.mem_singleton.1 hlayer
        exact exists_variablesLayer_eq environment

/-- The settings of the command line lie over all the others. -/
theorem load_eq (o : Overrides) :
    load cores fs environment root asked o =
      (layersBelow fs environment root asked).bind fun below ↦
        (read cores (overlay below o.layer)).mapError fun m ↦ .load (.misfit m) := by
  rw [load, layersBelow]
  cases chosenFile fs root asked with
  | error e => rfl
  | ok file =>
    show (fileLayer fs file).bind _ = ((fileLayer fs file).bind _).bind _
    cases fileLayer fs file with
    | error e => rfl
    | ok layers =>
      show ofLayers _ _ = _
      rw [ofLayers, ← List.singleton_append, ← List.append_assoc, List.foldl_append]
      rfl

/-- **The settings of the command line win where they are set, and leave all else as it was loaded
without them**, but for sections that are given by position below: of these, nothing is left as soon
as one setting in them is set. -/
theorem load_overrides {c : Config} (h : load cores fs environment root asked {} = .ok c)
    (o : Overrides) :
    ∃ below, layersBelow fs environment root asked = .ok (.table below) ∧
      load cores fs environment root asked o = .ok (o.applyTo (o.makeWay cores below c)) ∧
      ((∀ key, isPositional below key = false) →
        load cores fs environment root asked o = .ok (o.applyTo c)) := by
  rw [load_eq] at h
  cases hbelow : layersBelow fs environment root asked with
  | error e =>
    rw [hbelow] at h
    cases h
  | ok below =>
    obtain ⟨below, rfl⟩ := exists_layersBelow_eq hbelow
    rw [hbelow] at h
    have hread : read cores (.table below) = .ok c := by
      cases hc : read cores (.table below) with
      | error m =>
        change (read cores (.table below)).mapError _ = _ at h
        rw [hc] at h
        cases h
      | ok c' =>
        change (read cores (.table below)).mapError _ = _ at h
        rw [hc] at h
        rw [Except.ok.inj h]
    have hload : load cores fs environment root asked o =
        .ok (o.applyTo (o.makeWay cores below c)) := by
      rw [load_eq, hbelow]
      show (read cores (overlay (.table below) o.layer)).mapError _ = _
      rw [read_overlay_layer o hread]
      rfl
    refine ⟨below, rfl, hload, fun htables ↦ ?_⟩
    rw [hload, Overrides.makeWay_eq_self htables]

end

/-- A number of workers from the command line wins over one from a variable, and the program of that
same section stays. -/
theorem load_overrides_of_variable :
    load 1 {} [("JVDEPS_PARSER__COMMAND", "[java]"), ("JVDEPS_PARSER__POOL_SIZE", "2")] ⟨"."⟩ none
        {} = .ok { parser := { command := ["java"], poolSize := 2 } } ∧
      ∃ below, layersBelow {}
            [("JVDEPS_PARSER__COMMAND", "[java]"), ("JVDEPS_PARSER__POOL_SIZE", "2")] ⟨"."⟩ none =
          .ok (.table below) ∧
        load 1 {} [("JVDEPS_PARSER__COMMAND", "[java]"), ("JVDEPS_PARSER__POOL_SIZE", "2")] ⟨"."⟩
            none { poolSize := some 3 } =
          .ok (({ poolSize := some 3 } : Overrides).applyTo
            (({ poolSize := some 3 } : Overrides).makeWay 1 below
              { parser := { command := ["java"], poolSize := 2 } })) := by
  have hload : load 1 {} [("JVDEPS_PARSER__COMMAND", "[java]"), ("JVDEPS_PARSER__POOL_SIZE", "2")]
      ⟨"."⟩ none {} = .ok { parser := { command := ["java"], poolSize := 2 } } := by
    decide +kernel
  obtain ⟨below, hbelow, hover, -⟩ := load_overrides hload { poolSize := some 3 }
  exact ⟨hload, below, hbelow, hover⟩

/-- **The settings of the command line need not leave all else as it was loaded without them.** If a
variable gives the parser section by position, its program is lost to a number of workers. -/
theorem not_forall_load_overrides :
    ¬∀ (cores : Nat) (fs : Files) (environment : List (String × String)) (root : Path)
        (asked : Option Path) (c : Config) (o : Overrides),
      load cores fs environment root asked {} = .ok c →
        load cores fs environment root asked o = .ok (o.applyTo c) := by
  intro h
  have hload : load 1 {} [("JVDEPS_PARSER", "[[java]]")] ⟨"."⟩ none {} =
      .ok { parser := { command := ["java"], poolSize := 1 } } := by
    decide +kernel
  have hlost : load 1 {} [("JVDEPS_PARSER", "[[java]]")] ⟨"."⟩ none { poolSize := some 3 } =
      .ok { parser := { poolSize := 3 } } := by
    decide +kernel
  have hover := h 1 {} [("JVDEPS_PARSER", "[[java]]")] ⟨"."⟩ none _ { poolSize := some 3 } hload
  rw [hlost] at hover
  exact absurd (Except.ok.inj hover) (by decide +kernel)

end JavaDeps.Config
