import JavaDeps.Config.Loading
import JavaDeps.Proofs.Config.Overriding
import JavaDeps.Proofs.Toml.WrittenDocument

/-!
# Written configurations

The document that says all of a configuration, with the sections and the entries in the order in
which they are declared, and no entry for what is not set. **Reading it gives the configuration
back** (`ofText_text`), as long as its numbers have 63 bits: the defaults, which lie below every
document, come back only where they were.
-/

namespace JavaDeps.Config

open Toml (Value Entries Nodes Written overlay)
open Toml.Progress (Reads nodesOf reads_newSection reads_innerSection reads_blank)

variable (c : Config)

/-! ### The document -/

/-- The entries of a written table, as a reader sees them. -/
def valuesOf (entries : List (String × Written)) : Entries := entries.map fun e ↦ (e.1, e.2.value)

/-- What the document of a configuration holds: three tables, one for each section, with the table
of the second section's subsection in its place. -/
def documentEntries : Entries :=
  [("parser", .table (valuesOf c.parser.written)),
    ("resolver", .table (valuesOf c.resolver.written ++
      [("runtime", .table (valuesOf c.resolver.runtime.written))])),
    ("settings", .table (valuesOf c.settings.written))]

/-- The numbers that a reader accepts: those of a document have 63 bits and a sign. -/
structure HasReadableNumbers : Prop where
  poolSize : c.parser.poolSize < 2 ^ 63
  requestTimeout : c.parser.requestTimeout.millis < 2 ^ 63
  shutdownTimeout : c.parser.shutdownTimeout.millis < 2 ^ 63

/-- The text of a configuration is that of its sections, with blank lines in between. -/
theorem toList_text : c.text.toList =
    (Toml.Section.render ⟨"parser", c.parser.written⟩).toList ++ ['\n'] ++
      (Toml.Section.render ⟨"resolver", c.resolver.written⟩).toList ++ ['\n'] ++
      (Toml.Section.render ⟨"resolver.runtime", c.resolver.runtime.written⟩).toList ++ ['\n'] ++
      (Toml.Section.render ⟨"settings", c.settings.written⟩).toList := by
  simp [text, Toml.writeSections, written]

/-- The section of the parser can be written, if its numbers can be read. -/
theorem isWritable_parserSection (h : c.HasReadableNumbers) :
    Toml.Section.IsWritable ⟨"parser", c.parser.written⟩ := by
  rw [ParserConfig.written]
  constructor
  case isBareKey => cases c.parser.logLevel <;> simp [optional] <;> decide
  case isReadable =>
    have hnumbers := And.intro h.poolSize (And.intro h.requestTimeout h.shutdownTimeout)
    cases c.parser.logLevel <;> simpa [optional, Written.IsReadable] using hnumbers
  case nodup_keys => cases c.parser.logLevel <;> simp [optional]

/-- The section of the resolver can be written. -/
theorem isWritable_resolverSection : Toml.Section.IsWritable ⟨"resolver", c.resolver.written⟩ := by
  rw [ResolverConfig.written]
  constructor
  case isBareKey => cases c.resolver.lockFile <;> simp [optional] <;> decide
  case isReadable =>
    cases c.resolver.lockFile <;> simp [optional, Written.IsReadable, writtenPaths]
  case nodup_keys => cases c.resolver.lockFile <;> simp [optional]

theorem isWritable_runtimeSection :
    Toml.Section.IsWritable ⟨"resolver.runtime", c.resolver.runtime.written⟩ where
  isBareKey := by simp [RuntimeConfig.written]; decide
  isReadable := by simp [RuntimeConfig.written, Written.IsReadable]
  nodup_keys := by simp [RuntimeConfig.written]

theorem isWritable_settingsSection : Toml.Section.IsWritable ⟨"settings", c.settings.written⟩ := by
  rw [GeneralConfig.written]
  constructor
  case isBareKey => cases c.settings.logLevel <;> simp [optional] <;> decide
  case isReadable => cases c.settings.logLevel <;> simp [optional, Written.IsReadable]
  case nodup_keys => cases c.settings.logLevel <;> simp [optional]

theorem isHeader_runtime : Toml.IsHeader ["resolver", "runtime"] "resolver.runtime" where
  eq_intercalate := by decide
  isBareKey := by decide
  ne_nil := List.cons_ne_nil _ _
  length_lt := (by decide : 2 < Toml.maxDepth)

/-- A table with a header, as a part of a document. -/
def tableNode (name : String) (nodes : Nodes) : String × Toml.Node := (name, .table .header nodes)

/-- The parts of the document up to the first section. -/
def parserNodes : Nodes := [tableNode "parser" (nodesOf c.parser.written)]

/-- The parts of the document up to the second section, which holds a table of its own. -/
def resolverNodes (entries : Nodes) : Nodes := c.parserNodes ++ [tableNode "resolver" entries]

/-- All entries of the second section. -/
def resolverEntries : Nodes :=
  nodesOf c.resolver.written ++ [tableNode "runtime" (nodesOf c.resolver.runtime.written)]

/-- The parts of the document. -/
def documentNodes : Nodes :=
  c.resolverNodes c.resolverEntries ++ [tableNode "settings" (nodesOf c.settings.written)]

theorem finishNodes_documentNodes : Toml.finishNodes (documentNodes c) = documentEntries c := by
  simp [documentNodes, resolverNodes, resolverEntries, parserNodes, tableNode, Toml.finishNodes,
    Toml.Node.finish, Toml.finishNodes_append, Toml.finishNodes_nodesOf, documentEntries, valuesOf]

/-- **The lines of the document are read section by section.** -/
theorem reads_text (h : c.HasReadableNumbers) :
    Reads {} c.text.toList ⟨documentNodes c, ["settings"]⟩ := by
  have hruntime : "runtime" ∉ (nodesOf c.resolver.written).map Prod.fst := by
    rw [Toml.Progress.map_fst_nodesOf, ResolverConfig.written]
    cases c.resolver.lockFile <;> simp [optional]
  have hparser : Reads {} _ ⟨c.parserNodes, ["parser"]⟩ :=
    reads_newSection (c.isWritable_parserSection h) (by decide) (by simp)
  have hresolver : Reads ⟨c.parserNodes, ["parser"]⟩ _
      ⟨c.resolverNodes (nodesOf c.resolver.written), ["resolver"]⟩ :=
    reads_newSection c.isWritable_resolverSection (by decide) (by simp [parserNodes, tableNode])
  have hinner : Reads ⟨c.resolverNodes (nodesOf c.resolver.written), ["resolver"]⟩ _
      ⟨c.resolverNodes c.resolverEntries, ["resolver", "runtime"]⟩ :=
    reads_innerSection c.isWritable_runtimeSection isHeader_runtime
      (by simp [parserNodes, tableNode]) hruntime
  have hsettings : Reads ⟨c.resolverNodes c.resolverEntries, ["resolver", "runtime"]⟩ _
      ⟨documentNodes c, ["settings"]⟩ :=
    reads_newSection c.isWritable_settingsSection (by decide)
      (by simp [resolverNodes, parserNodes, tableNode])
  rw [toList_text]
  exact (((((hparser.append (reads_blank _)).append hresolver).append (reads_blank _)).append
    hinner).append (reads_blank _)).append hsettings

/-- **The document of a configuration is read back as what it says.** -/
theorem parse?_text (h : c.HasReadableNumbers) : Toml.parse? c.text = some (documentEntries c) := by
  have hmark : c.text.toList.head? ≠ some '\ufeff' := by
    rw [toList_text]
    simp [Toml.Section.render]
  rw [Toml.Progress.parse?_of_reads (c.reads_text h) hmark, finishNodes_documentNodes]

/-! ### Reading it -/

theorem readNat_natCast (n : Nat) : readNat (.integer n) = .ok n := rfl

/-- A list of paths is read back from their texts. -/
theorem readList_paths (paths : List Path) :
    readList readPath (.list ((paths.map (·.text)).map .text)) = .ok paths := by
  have hitems := readItems_map (fun path : Path ↦ .text path.text) id
    (fun path ↦ (rfl : readPath (.text path.text) = .ok path)) 0 paths
  rw [readList, List.map_map]
  exact hitems.trans (by rw [List.map_id])

theorem readLogFormat_text (f : LogFormat) : readLogFormat (.text f.text) = .ok f := by
  cases f <;> rfl

/-- A field that is given takes what its value reads as. -/
theorem foldlM_readField_of_some {α σ : Type} {entries : Entries} {fields : List (Field σ)}
    {key : String} {read : Value → Reading α} {assign : α → σ → σ} {v : Value} {a : α} {s : σ}
    (hlookup : entries.lookup key = some v) (hread : read v = .ok a) :
    (.of key read assign :: fields).foldlM (readField entries) s =
      fields.foldlM (readField entries) (assign a s) := by
  have hfield : readField entries s (.of key read assign) = .ok (assign a s) :=
    (readField_of_some hlookup).2 (Field.of_set_eq_ok_iff.2 ⟨a, hread, rfl⟩)
  rw [List.foldlM_cons, hfield]
  rfl

/-- A field that may be given has what is given, or keeps what it has. -/
theorem foldlM_readField_optional {α σ : Type} {entries : Entries} {fields : List (Field σ)}
    {key : String} {read : Value → Reading α} {assign : α → σ → σ} (o : Option α)
    (write : α → Value) {s : σ} (hlookup : entries.lookup key = o.map write)
    (hread : ∀ a, read (write a) = .ok a) :
    (.of key read assign :: fields).foldlM (readField entries) s =
      fields.foldlM (readField entries) (o.elim s (assign · s)) := by
  cases o with
  | none =>
    have hfield : readField entries s (.of key read assign) = .ok s := readField_of_none hlookup
    rw [List.foldlM_cons, hfield]
    rfl
  | some a => exact foldlM_readField_of_some hlookup (hread a)

theorem byKey_parserFields : byKey parserFields =
    [parserFields[0], parserFields[4], parserFields[1], parserFields[2], parserFields[3]] :=
  rfl

/-- The settings of the parser are read back from what is written of them. -/
theorem readSection_parserFields_written (cores : Nat) (c : ParserConfig) :
    readSection parserFields (.table (valuesOf c.written)) (.standard cores) = .ok c := by
  obtain ⟨command, poolSize, request, shutdown, level⟩ := c
  rw [readSection, byKey_parserFields]
  refine (foldlM_readField_of_some (by rfl) (readList_texts command)).trans ?_
  refine (foldlM_readField_optional level .text (by cases level <;> rfl) fun _ ↦ rfl).trans ?_
  refine (foldlM_readField_of_some (by rfl) (readNat_natCast poolSize)).trans ?_
  refine (foldlM_readField_of_some (by rfl) (readNat_natCast request.millis)).trans ?_
  refine (foldlM_readField_of_some (by rfl) (readNat_natCast shutdown.millis)).trans ?_
  cases level <;> rfl

/-- The section on classes that are needed at run time alone is read back. -/
theorem readSection_runtimeFields_written (c : RuntimeConfig) :
    readSection runtimeFields (.table (valuesOf c.written)) {} = .ok c := by
  have hfields : byKey runtimeFields = [runtimeFields[1], runtimeFields[0]] := rfl
  rw [readSection, hfields]
  refine (foldlM_readField_of_some (by rfl) (readList_texts c.patterns)).trans ?_
  exact foldlM_readField_of_some (by rfl) (show readBool (.bool c.reflection) = _ from rfl)

/-- The general settings are read back. -/
theorem readSection_generalFields_written (c : GeneralConfig) :
    readSection generalFields (.table (valuesOf c.written)) {} = .ok c := by
  have hfields : byKey generalFields = [generalFields[1], generalFields[0]] := rfl
  obtain ⟨level, format⟩ := c
  rw [readSection, hfields]
  refine (foldlM_readField_of_some (by cases level <;> rfl) (readLogFormat_text format)).trans ?_
  refine (foldlM_readField_optional level .text (by cases level <;> rfl) fun _ ↦ rfl).trans ?_
  cases level <;> rfl

theorem byKey_resolverFields : byKey resolverFields =
    [resolverFields[6], resolverFields[4], resolverFields[1], resolverFields[0], resolverFields[5],
      resolverFields[7], resolverFields[2], resolverFields[3]] :=
  rfl

/-- The section of the resolver is read back, with the one inside of it. -/
theorem readSection_resolverFields_written (c : ResolverConfig) :
    readSection resolverFields
      (.table (valuesOf c.written ++ [("runtime", .table (valuesOf c.runtime.written))])) {} =
      .ok c := by
  obtain ⟨lock, prefixes, sources, tests, generated, modules, exclude, runtime⟩ := c
  rw [readSection, byKey_resolverFields]
  refine (foldlM_readField_of_some (by cases lock <;> rfl) (readList_texts exclude)).trans ?_
  refine (foldlM_readField_of_some (by cases lock <;> rfl) (readList_paths generated)).trans ?_
  refine (foldlM_readField_of_some (by cases lock <;> rfl) (readList_texts prefixes)).trans ?_
  refine (foldlM_readField_optional lock (fun path ↦ .text path.text) (by cases lock <;> rfl)
    fun _ ↦ rfl).trans ?_
  refine (foldlM_readField_of_some (by cases lock <;> rfl) (readList_paths modules)).trans ?_
  refine (foldlM_readField_of_some (by cases lock <;> rfl)
    (readSection_runtimeFields_written runtime)).trans ?_
  refine (foldlM_readField_of_some (by cases lock <;> rfl) (readList_paths sources)).trans ?_
  refine (foldlM_readField_of_some (by cases lock <;> rfl) (readList_paths tests)).trans ?_
  cases lock <;> rfl

/-- **A configuration is read back from its entries**, whatever the defaults are. -/
theorem read_documentEntries (cores : Nat) : read cores (.table (documentEntries c)) = .ok c := by
  have hfields : byKey (sections cores) = sections cores :=
    byKey_eq_self (show ["parser", "resolver", "settings"].Pairwise _ by decide)
  rw [read, readSection, hfields, sections]
  refine (foldlM_readField_of_some (by rfl)
    (readSection_parserFields_written cores c.parser)).trans ?_
  refine (foldlM_readField_of_some (by rfl)
    (readSection_resolverFields_written c.resolver)).trans ?_
  exact foldlM_readField_of_some (by rfl) (readSection_generalFields_written c.settings)

/-! ### There and back -/

/-- **The document of a configuration reads as that configuration**, and no default takes the place
of what the document leaves empty or leaves out. -/
theorem ofText_text (cores : Nat) (h : c.HasReadableNumbers) : ofText cores c.text = .ok c := by
  have hlayer : documentLayer c.text = .ok (.table (documentEntries c)) := by
    rw [documentLayer, c.parse?_text h]
  have hkeys : ((documentEntries c).map Prod.fst).Nodup :=
    show ["parser", "resolver", "settings"].Nodup by decide
  rw [ofText, hlayer]
  show (read cores (overlay (.table []) (.table (documentEntries c)))).mapError _ = _
  rw [overlay, Toml.overlayEntries_nil hkeys, read_documentEntries]
  rfl

/-- Neither an empty list of excluded directories nor a pattern with quotes is lost. -/
theorem ofText_text_of_quoted :
    let c : Config := { Config.standard 1 with
      resolver := { exclude := [], runtime := { patterns := ["\"a\\", "'b\n"] } } }
    c.HasReadableNumbers ∧ ofText 2 c.text = .ok c := by
  intro c
  have hnumbers : c.HasReadableNumbers := ⟨by decide, by decide, by decide⟩
  exact ⟨hnumbers, ofText_text c 2 hnumbers⟩

end JavaDeps.Config
