import JavaDeps.Proofs.Java.Chains
import JavaDeps.Proofs.Java.QualifiedNames
import JavaDeps.Proofs.Java.Statements

/-!
# What statements come to

The package and import statements of a source settle its package and its imports, each import by a
rule for its form (`Import.Gives`). **Beyond this they leave no trace**: whatever else the source is
found to declare or to refer to is shown by lexemes that no statement covers (`DeclaredOutside`,
`MadeOutside`).

For a chain this is more than that it is not marked as part of a statement, since the lexemes around
it can show it to be a type. These stand close to it, and among them are neither semicolons behind
it nor keywords of statements ahead (`TypePosition.shownNearby`). So a statement that covered one of
them would cover the chain.
-/

namespace JavaDeps.Java

/-! ### What an import gives -/

/-- **What an import gives**, by its form: the part of its name that leads to a type, or the whole
name as a package. A single static import ends in the name of a member, which is left out. -/
inductive Import.Gives : Import → ImportTarget → Prop
  | type {segments names : List String} (h : LeadsTo segments names) :
    Gives ⟨false, segments, false⟩ (.type (dotted names))
  | nestedTypes {segments names : List String} {last : String}
    (hlast : segments.getLast? = some last) (hcapitalized : isCapitalized last = true)
    (h : LeadsTo segments names) : Gives ⟨false, segments, true⟩ (.type (dotted names))
  | package {segments : List String} {last : String} (hlast : segments.getLast? = some last)
    (hlower : isCapitalized last = false) :
    Gives ⟨false, segments, true⟩ (.package (dotted segments))
  | member {owner names : List String} {member : String} (h : LeadsTo owner names) :
    Gives ⟨true, owner ++ [member], false⟩ (.type (dotted names))
  | members {segments names : List String} (h : LeadsTo segments names) :
    Gives ⟨true, segments, true⟩ (.type (dotted names))

namespace Import

variable {i : Import} {t : ImportTarget} {name : String}

/-- What an import gives is what its statement says. -/
theorem gives_of_target? (hi : i.path.segments ≠ []) (h : i.target? = some t) : i.Gives t := by
  have hleads {names : List String} (hnames : names ≠ []) : LeadsTo names (upToType names) :=
    leadsTo_iff.2 ⟨hnames, rfl⟩
  obtain ⟨isStatic, segments, wildcard⟩ := i
  obtain ⟨owner, last, rfl⟩ := (List.eq_nil_or_concat segments).resolve_left hi
  rw [List.concat_eq_append] at *
  cases isStatic <;> cases wildcard <;> simp only [target?] at h
  · obtain rfl := Option.some.inj h
    exact .type (hleads hi)
  · rw [List.getLast?_concat, Option.any_some] at h
    split at h
    · next hcapitalized =>
      obtain rfl := Option.some.inj h
      exact .nestedTypes List.getLast?_concat hcapitalized (hleads hi)
    · next hlower =>
      obtain rfl := Option.some.inj h
      exact .package List.getLast?_concat (by simpa using hlower)
  · rw [List.dropLast_concat] at h
    split at h
    · cases h
    · next howner =>
      obtain rfl := Option.some.inj h
      exact .member (hleads (by simpa using howner))
  · obtain rfl := Option.some.inj h
    exact .members (hleads hi)

/-- **The target of an import is what its form gives.** -/
theorem target?_eq_some_iff (hi : i.path.segments ≠ []) : i.target? = some t ↔ i.Gives t := by
  refine ⟨gives_of_target? hi, ?_⟩
  rintro (h | ⟨hlast, hcapitalized, h⟩ | ⟨hlast, hlower⟩ | h | h)
  · rw [target?, topLevelType, (leadsTo_iff.1 h).2]
  · simp [target?, hlast, hcapitalized, topLevelType, (leadsTo_iff.1 h).2]
  · simp [target?, hlast, hlower]
  · obtain ⟨howner, rfl⟩ := leadsTo_iff.1 h
    simp [target?, howner, topLevelType]
  · rw [target?, topLevelType, (leadsTo_iff.1 h).2]

theorem type?_eq_some_iff (hi : i.path.segments ≠ []) :
    i.type? = some name ↔ i.Gives (.type name) := by
  rw [← target?_eq_some_iff hi, type?]
  rcases i.target? with - | (target | target) <;> simp

theorem package?_eq_some_iff (hi : i.path.segments ≠ []) :
    i.package? = some name ↔ i.Gives (.package name) := by
  rw [← target?_eq_some_iff hi, package?]
  rcases i.target? with - | (target | target) <;> simp

end Import

/-! ### The segments of a statement -/

theorem mem_words_iff {ls : List Lexeme} {s : String} :
    s ∈ words ls ↔ ∃ l ∈ ls, l.kind = .identifier ∧ l.text = s := by
  simp [words, and_assoc]

/-- A dotted name has a word. -/
theorem DottedName.words_ne_nil {wildcard : Bool} {ls : List Lexeme}
    (h : DottedName wildcard (kinds ls)) : words ls ≠ [] := by
  generalize hkinds : kinds ls = ks at h
  obtain ⟨_⟩ := h
  obtain ⟨l, rest, rfl, hl, -⟩ := List.map_eq_cons_iff.1 hkinds
  simp [words, hl]

/-- An import names something, and its segments are identifiers of the source. -/
theorem StatedAt.segments {ls : List Lexeme} {position : Nat} {i : Import}
    (h : StatedAt ls position (.importing i)) : i.path.segments ≠ [] ∧
      ∀ s ∈ i.path.segments, ∃ l ∈ ls, l.kind = .identifier ∧ l.text = s := by
  obtain ⟨pre, l, rest, rfl, -, ⟨-, rfl, hs⟩⟩ := h
  generalize hs' : Statement.importing i = s at hs
  cases hs with
  | package => cases hs'
  | importing hname =>
    cases hs'
    refine ⟨hname.words_ne_nil, fun s hs ↦ ?_⟩
    obtain ⟨m, hm, hword⟩ := mem_words_iff.1 hs
    exact ⟨m, by simp [hm], hword⟩
  | static hbody _ hname =>
    cases hs'
    refine ⟨hname.words_ne_nil, fun s hs ↦ ?_⟩
    obtain ⟨m, hm, hword⟩ := mem_words_iff.1 hs
    exact ⟨m, by simp [hbody, hm], hword⟩

namespace Import.Gives

variable {i : Import} {name : String}

/-- No segment of a type that is given is capitalised before the last one. -/
theorem lower_of_type (h : i.Gives (.type name)) (hdot : ∀ s ∈ i.path.segments, '.' ∉ s.toList) :
    ∀ s ∈ (segmentsOf name).dropLast, isCapitalized s = false := by
  obtain ⟨segments, names, hsubset, hleads, rfl⟩ : ∃ segments names,
      segments ⊆ i.path.segments ∧ LeadsTo segments names ∧ name = dotted names := by
    cases h with
    | type h => exact ⟨_, _, List.Subset.refl _, h, rfl⟩
    | nestedTypes _ _ h => exact ⟨_, _, List.Subset.refl _, h, rfl⟩
    | member h => exact ⟨_, _, List.subset_append_left _ _, h, rfl⟩
    | members h => exact ⟨_, _, List.Subset.refl _, h, rfl⟩
  rw [segmentsOf_dotted hleads.ne_nil fun s hs ↦ hdot s (hsubset (hleads.subset hs))]
  exact hleads.dropLast

/-- A package that is given does not end in a capitalised segment. -/
theorem lower_of_package (h : i.Gives (.package name))
    (hdot : ∀ s ∈ i.path.segments, '.' ∉ s.toList) :
    ∀ s ∈ (segmentsOf name).getLast?, isCapitalized s = false := by
  cases h with
  | package hlast hlower =>
    rw [segmentsOf_dotted (by rintro rfl; cases hlast) hdot, hlast]
    simpa using hlower

end Import.Gives

/-! ### Lexemes around a type -/

/-- Kinds that lexemes begin with are the kinds of the first ones. -/
theorem exists_front {ks : List TokenKind} {ls : List Lexeme} (h : ks <+: kinds ls) :
    ∃ front more, ls = front ++ more ∧ kinds front = ks := by
  obtain ⟨ks', hks⟩ := h
  obtain ⟨front, more, hls, hfront, -⟩ := List.map_eq_append_iff.1 hks.symm
  exact ⟨front, more, hls, hfront⟩

theorem exists_last {k : TokenKind} {ls : List Lexeme} (h : [k] <:+ kinds ls) :
    ∃ pre m, ls = pre ++ [m] ∧ m.kind = k := by
  obtain ⟨ks, hks⟩ := h
  obtain ⟨pre, last, hls, -, hlast⟩ := List.map_eq_append_iff.1 hks.symm
  obtain ⟨m, none, rfl, hm, hnone⟩ := List.map_eq_cons_iff.1 hlast
  obtain rfl := List.map_eq_nil_iff.1 hnone
  exact ⟨pre, m, hls, hm⟩

/-- Whether the lexemes that show the place of a type are close around it, with no semicolon behind
it and no keyword of a statement ahead. -/
def ShownNearby (before after : List Lexeme) : Prop :=
  ∃ outer behind ahead outer', before = outer ++ behind ∧ after = ahead ++ outer' ∧
    TypePosition behind ahead ∧ (∀ m ∈ behind, m.kind ≠ .semicolon) ∧
    ∀ m ∈ ahead, ∀ kind : StatementKind, m.kind ≠ kind.keyword

section

variable {before after : List Lexeme} {k : TokenKind} {ks : List TokenKind}

theorem keyword_ne_of_kinds {ahead : List Lexeme} (hahead : kinds ahead = ks)
    (hks : .packageWord ∉ ks ∧ .importWord ∉ ks) :
    ∀ m ∈ ahead, ∀ kind : StatementKind, m.kind ≠ kind.keyword := by
  intro m hm
  have hmem : m.kind ∈ ks := hahead ▸ List.mem_map_of_mem hm
  exact ne_keyword ⟨fun h ↦ hks.1 (h ▸ hmem), fun h ↦ hks.2 (h ▸ hmem)⟩

/-- A chain is shown to be a type by kinds that follow it, if these suffice. -/
theorem shownNearby_of_ahead (hafter : ks <+: kinds after)
    (hks : .packageWord ∉ ks ∧ .importWord ∉ ks)
    (hplace : ∀ ahead, ks <+: kinds ahead → TypePosition [] ahead) : ShownNearby before after := by
  obtain ⟨ahead, outer', rfl, hahead⟩ := exists_front hafter
  exact ⟨before, [], ahead, outer', (List.append_nil _).symm, rfl,
    hplace ahead (hahead ▸ List.prefix_refl _), List.forall_mem_nil _,
    keyword_ne_of_kinds hahead hks⟩

/-- A place is shown nearby if one kind before it and some kinds behind it decide. -/
theorem shownNearby_of_both (hbefore : [k] <:+ kinds before) (hk : k ≠ .semicolon)
    (hafter : ks <+: kinds after) (hks : .packageWord ∉ ks ∧ .importWord ∉ ks)
    (hplace : ∀ behind ahead, [k] <:+ kinds behind → ks <+: kinds ahead →
      TypePosition behind ahead) : ShownNearby before after := by
  obtain ⟨outer, last, rfl, rfl⟩ := exists_last hbefore
  obtain ⟨ahead, outer', rfl, hahead⟩ := exists_front hafter
  exact ⟨outer, [last], ahead, outer', rfl, rfl,
    hplace _ _ (List.suffix_refl _) (hahead ▸ List.prefix_refl _), List.forall_mem_singleton.2 hk,
    keyword_ne_of_kinds hahead hks⟩

/-- **What shows the place of a type stands close around it.** -/
theorem TypePosition.shownNearby (h : TypePosition before after) : ShownNearby before after := by
  cases h with
  | @word pre p hbefore hp =>
    exact ⟨pre, [p], [], after, hbefore, rfl, .word (List.nil_append [p]).symm hp, by simp [hp],
      List.forall_mem_nil _⟩
  | firstArgument hbefore hk hafter =>
    exact shownNearby_of_both hbefore (by simp) hafter (by rcases hk with rfl | rfl <;> decide)
      fun _ _ hbehind ↦ .firstArgument hbehind hk
  | lastArgument hbefore hk hafter =>
    exact shownNearby_of_both hbefore (by simp) hafter
      (by rcases hk with rfl | rfl | rfl <;> decide) fun _ _ hbehind ↦ .lastArgument hbehind hk
  | @declared next more hafter hnext =>
    have hkinds : kinds [next] = [.identifier] := by simp [kinds, hnext]
    exact ⟨before, [], [next], more, (List.append_nil _).symm, hafter,
      .declared rfl hnext, List.forall_mem_nil _, keyword_ne_of_kinds hkinds (by decide)⟩
  | spread hk hafter =>
    exact shownNearby_of_ahead hafter (by rcases hk with rfl | rfl <;> decide) fun _ ↦ .spread hk
  | array hafter => exact shownNearby_of_ahead hafter (by decide) fun _ ↦ .array
  | literal hafter => exact shownNearby_of_ahead hafter (by decide) fun _ ↦ .literal
  | diamond hk hafter =>
    exact shownNearby_of_ahead hafter (by rcases hk with rfl | rfl <;> decide) fun _ ↦ .diamond hk
  | generic hk hafter =>
    exact shownNearby_of_ahead hafter (by rcases hk with rfl | rfl | rfl <;> decide)
      fun _ ↦ .generic hk

end

/-! ### References and declarations apart from statements -/

/-- Whether lexemes that no statement covers make a reference: a chain, and what shows its place if
its place matters. -/
def MadeOutside (ls : List Lexeme) (r : Reference) : Prop :=
  ∃ outer behind l members ahead outer' segments,
    ls = outer ++ (behind ++ l :: (members ++ ahead)) ++ outer' ∧
    Outside outer (behind ++ l :: (members ++ ahead)) outer' ∧
    HeadsChain (outer ++ behind) l (members ++ (ahead ++ outer')) segments (ahead ++ outer') ∧
    RefersTo (TypePosition behind ahead) segments r

/-- Whether lexemes that no statement covers declare a type. The keyword and the name stand next to
each other, and both of them are outside of all statements. -/
def DeclaredOutside (ls : List Lexeme) (name : String) : Prop :=
  ∃ before keyword l after, ls = before ++ [keyword, l] ++ after ∧
    Outside before [keyword, l] after ∧ IsDeclaration before keyword l after ∧ l.text = name

/-- A reference that is shown by one thing is shown by whatever follows from it. -/
theorem RefersTo.mono {p q : Prop} {segments : List String} {r : Reference}
    (h : RefersTo p segments r) (hpq : p → q) : RefersTo q segments r := by
  cases h with
  | simple hname hshown => exact .simple hname (hshown.imp_right hpq)
  | qualified hself hpackages hlength htype hshown =>
    exact .qualified hself hpackages hlength htype (hshown.imp_right (Or.imp_right hpq))

/-- No member of a chain is a keyword of a statement. -/
theorem Members.keyword_ne {members : List Lexeme} {names : List String}
    (h : Members members names) : ∀ m ∈ members, ∀ kind : StatementKind, m.kind ≠ kind.keyword := by
  induction h with
  | nil => exact List.forall_mem_nil _
  | cons hdot hname _ ih =>
    rw [List.forall_mem_cons, List.forall_mem_cons]
    exact ⟨ne_keyword (by simp [hdot]), ne_keyword (by simp [hname]), ih⟩

/-- **What refers to something does so apart from statements.** -/
theorem RefersIn.madeOutside {ls before after : List Lexeme} {segments : List String}
    {r : Reference} (h : RefersIn ls before segments after)
    (hrefers : RefersTo (TypePosition before after) segments r) : MadeOutside ls r := by
  obtain ⟨l, rest, rfl, hunclaimed, hchain⟩ := h
  have hcovered : ¬ Covered before l rest := fun hcovered ↦ hunclaimed hcovered.claimed
  obtain ⟨outer, behind, ahead, outer', rfl, rfl, hrefers, hbehind, hahead⟩ :
      ∃ outer behind ahead outer', before = outer ++ behind ∧ after = ahead ++ outer' ∧
        RefersTo (TypePosition behind ahead) segments r ∧ (∀ m ∈ behind, m.kind ≠ .semicolon) ∧
        ∀ m ∈ ahead, ∀ kind : StatementKind, m.kind ≠ kind.keyword := by
    by_cases hplace : TypePosition before after
    · obtain ⟨outer, behind, ahead, outer', hbefore, hafter, hnear, hkinds⟩ := hplace.shownNearby
      exact ⟨outer, behind, ahead, outer', hbefore, hafter, hrefers.mono fun _ ↦ hnear, hkinds⟩
    · exact ⟨before, [], [], after, (List.append_nil _).symm, rfl,
        hrefers.mono fun h ↦ absurd h hplace, List.forall_mem_nil _, List.forall_mem_nil _⟩
  obtain ⟨hhead, hdot, rfl, hmembers, hmaximal⟩ := hchain
  refine ⟨outer, behind, l, _, ahead, outer', _, by simp, ?_,
    .intro hhead hdot rfl hmembers hmaximal, hrefers⟩
  exact outside_of_not_covered (by simpa using hcovered) hbehind fun m hm ↦
    (List.mem_append.1 hm).elim (hmembers.keyword_ne m) (hahead m)

/-- **A declaration stands apart from statements.** -/
theorem IsDeclaration.outside {before after : List Lexeme} {keyword l : Lexeme}
    (h : IsDeclaration before keyword l after) : Outside before [keyword, l] after := by
  have hname : ∀ kind : StatementKind, l.kind ≠ kind.keyword := ne_keyword (by simp [h.isName])
  refine outside_ahead (fun hcovered ↦ ?_) (List.forall_mem_singleton.2 hname)
  cases h with
  | keyword _ hl _ =>
    have hkind := hcovered.kind_mem
    rcases hl with hl | hl | hl <;> simp [hl, statementKinds] at hkind
  | record _ hl hname => exact hcovered.next_ne_identifier hl.1 hname

/-- A type that is found is declared outside of all statements. -/
theorem Found.declaredOutside {ls : List Lexeme} {name : String} (h : Found ls (.declared name)) :
    DeclaredOutside ls name := by
  obtain ⟨pre, l, rest, hls, hfinds⟩ := h
  cases hfinds with
  | declaration h hrest hm =>
    have hname := hm.resolve_left nofun
    exact ⟨pre, l, _, _, by simp [hls, hrest], h.outside, h, (Finding.declared.inj hname).symm⟩
  | parameter _ _ hm => simp at hm

/-! ### Declared types -/

/-- **What every step keeps holds at the end**: steps take in a lexeme or a statement. -/
theorem outlineFrom_keeps {P : Outline → Prop}
    (hnote : ∀ o topLevel before l rest, P o → P (o.note topLevel before l rest))
    (hstate : ∀ o s position count, P o → P ((o.state s).claim position count)) {final depth : Nat}
    {before ls : List Lexeme} {o o' : Outline} (h : outlineFrom final before depth o ls = .ok o')
    (ho : P o) : P o' := by
  -- by the number of lexemes ahead, since a statement is jumped over whole
  match ls with
  | [] =>
    rw [outlineFrom] at h
    split at h
    · exact Except.ok.inj h ▸ ho
    · cases h
  | l :: rest =>
    rcases outlineFrom_cons h with ⟨-, hrest⟩ | ⟨-, _, -, hrest⟩ | ⟨-, -, _, s, used, -, -, hrest⟩ |
      ⟨-, -, -, hrest⟩
    · exact outlineFrom_keeps hnote hstate hrest ho
    · exact outlineFrom_keeps hnote hstate hrest ho
    · exact outlineFrom_keeps hnote hstate hrest (hstate _ _ _ _ ho)
    · exact outlineFrom_keeps hnote hstate hrest (hnote _ _ _ _ _ ho)
termination_by ls.length
decreasing_by all_goals simp only [List.length_cons, List.length_drop]; omega

/-- The types at the top level are among all declared ones. -/
theorem topLevelTypes_subset {ls : List Lexeme} {o : Outline} (h : outline ls = .ok o) :
    o.topLevelTypes ⊆ o.declaredNames := by
  have hdeclare (o : Outline) (topLevel : Bool) (position : Nat) (rest : List Lexeme)
      (ho : o.topLevelTypes ⊆ o.declaredNames) : (o.declare topLevel position rest).topLevelTypes ⊆
        (o.declare topLevel position rest).declaredNames := by
    rw [Outline.declare.eq_def]
    split
    · exact ho
    · next name _ =>
      split
      · exact ho
      · dsimp only
        split
        · exact List.append_subset.2 ⟨List.subset_cons_of_subset _ ho, by simp⟩
        · exact List.subset_cons_of_subset _ ho
  refine outlineFrom_keeps (P := fun o ↦ o.topLevelTypes ⊆ o.declaredNames)
    (fun o topLevel before l rest ho ↦ ?_) (fun o s _ _ ho ↦ ?_) h (List.Subset.refl _)
  · rw [Outline.note]
    split
    · exact hdeclare _ _ _ _ ho
    · split <;> exact ho
  · cases s <;> exact ho

/-! ### The whole source -/

/-- **What the statements of a compilation unit come to**, and that the rest of the facts is none of
theirs. -/
structure Normalised (ls : List Lexeme) (facts : Facts) : Prop where
  package : ∃ last?, LastPackage (StatedAt ls) last? ∧ facts.package = (last?.map dotted).getD ""
  imports : ∀ name, name ∈ facts.imports ↔
    ∃ position i, StatedAt ls position (.importing i) ∧ i.Gives (.type name)
  wildcardImports : ∀ name, name ∈ facts.wildcardImports ↔
    ∃ position i, StatedAt ls position (.importing i) ∧ i.Gives (.package name)
  import_lower : ∀ name ∈ facts.imports, ∀ s ∈ (segmentsOf name).dropLast, isCapitalized s = false
  wildcard_lower : ∀ name ∈ facts.wildcardImports, ∀ s ∈ (segmentsOf name).getLast?,
    isCapitalized s = false
  declaredTypes : ∀ name ∈ facts.declaredTypes, DeclaredOutside ls name
  simpleNames : ∀ name ∈ facts.simpleNames, MadeOutside ls (.simple name)
  qualifiedReferences : ∀ name ∈ facts.qualifiedReferences, MadeOutside ls (.qualified name)

section

variable {ls : List Lexeme} {o : Outline} {references : List Reference} {name : String}

/-- Reading targets off the imports of an outline comes to what the stated imports give. -/
theorem mem_filterMap_imports_iff (h : outline ls = .ok o) {read : Import → Option String}
    {target : String → ImportTarget}
    (hread : ∀ i name, i.path.segments ≠ [] → (read i = some name ↔ i.Gives (target name))) :
    name ∈ o.imports.filterMap read ↔
      ∃ position i, StatedAt ls position (.importing i) ∧ i.Gives (target name) := by
  simp only [List.mem_filterMap, (outline_takes h).1]
  constructor
  · rintro ⟨i, ⟨position, hstated⟩, hi⟩
    exact ⟨position, i, hstated, (hread i name hstated.segments.1).1 hi⟩
  · rintro ⟨position, i, hstated, hgives⟩
    exact ⟨i, ⟨position, hstated⟩, (hread i name hstated.segments.1).2 hgives⟩

theorem mem_imports_facts_iff (h : outline ls = .ok o) : name ∈ (o.facts references).imports ↔
    ∃ position i, StatedAt ls position (.importing i) ∧ i.Gives (.type name) :=
  SortedSet.mem_ofList.trans (mem_filterMap_imports_iff h fun _ _ ↦ Import.type?_eq_some_iff)

theorem mem_wildcardImports_facts_iff (h : outline ls = .ok o) :
    name ∈ (o.facts references).wildcardImports ↔
      ∃ position i, StatedAt ls position (.importing i) ∧ i.Gives (.package name) :=
  SortedSet.mem_ofList.trans (mem_filterMap_imports_iff h fun _ _ ↦ Import.package?_eq_some_iff)

end

/-- **Statements are normalised exactly, and leave no other trace.** -/
theorem scan_normalised {source : String} {facts : Facts} (h : scan source = .ok facts) :
    Normalised (tokens source) facts := by
  obtain ⟨o, houtline, rfl⟩ := exists_outline_of_scan h
  have hdot {position : Nat} {i : Import}
      (hstated : StatedAt (tokens source) position (.importing i)) :
      ∀ s ∈ i.path.segments, '.' ∉ s.toList := by
    intro s hs
    obtain ⟨l, hl, hkind, rfl⟩ := hstated.segments.2 s hs
    exact dot_not_mem_of_mem_tokens hl hkind
  refine ⟨?_, fun name ↦ mem_imports_facts_iff houtline,
    fun name ↦ mem_wildcardImports_facts_iff houtline, fun name hname ↦ ?_, fun name hname ↦ ?_,
    fun name hname ↦ ?_, fun name hname ↦ ?_, fun name hname ↦ ?_⟩
  · obtain ⟨last?, hlast, hpackage⟩ := (outline_takes houtline).2
    refine ⟨last?, hlast, ?_⟩
    show dotted o.package = _
    rw [hpackage]
    cases last? <;> rfl
  · obtain ⟨position, i, hstated, hgives⟩ := (mem_imports_facts_iff houtline).1 hname
    exact hgives.lower_of_type (hdot hstated)
  · obtain ⟨position, i, hstated, hgives⟩ := (mem_wildcardImports_facts_iff houtline).1 hname
    exact hgives.lower_of_package (hdot hstated)
  · have hdeclared : name ∈ o.declaredNames := topLevelTypes_subset houtline hname
    exact ((outline_has houtline (.declared name)).1 hdeclared).declaredOutside
  · obtain ⟨-, before, segments, after, hchain, hrefers⟩ := (mem_simpleNames_iff h).1 hname
    exact hchain.madeOutside hrefers
  · obtain ⟨before, segments, after, hchain, hrefers⟩ := (mem_qualifiedReferences_iff h).1 hname
    exact hchain.madeOutside hrefers

/-- A source with imports of each form. -/
def importing : String :=
  "package a.b; import c.Outer.Inner; import c.Map.*; import d.e.*; import static f.G.h; class A {}"

/-- The statements of such a source settle its facts. -/
theorem scan_normalised_of_importing : ∃ facts, scan importing = .ok facts ∧
    facts.package = "a.b" ∧ facts.imports.toList = ["c.Map", "c.Outer", "f.G"] ∧
    facts.wildcardImports.toList = ["d.e"] ∧ facts.declaredTypes = ["A"] ∧
    Normalised (tokens importing) facts := by
  obtain ⟨facts, h, hfacts⟩ : ∃ facts, scan importing = .ok facts ∧ (facts.package,
      facts.imports.toList, facts.wildcardImports.toList, facts.declaredTypes) =
        ("a.b", ["c.Map", "c.Outer", "f.G"], ["d.e"], ["A"]) :=
    exists_eq_ok_of_map (fun facts : Facts ↦ (facts.package, facts.imports.toList,
      facts.wildcardImports.toList, facts.declaredTypes)) (by decide +kernel)
  simp only [Prod.mk.injEq] at hfacts
  obtain ⟨hpackage, himports, hwildcards, hdeclared⟩ := hfacts
  exact ⟨facts, h, hpackage, himports, hwildcards, hdeclared, scan_normalised h⟩

end JavaDeps.Java
