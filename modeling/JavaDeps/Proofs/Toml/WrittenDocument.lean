import JavaDeps.Proofs.Toml.Overlay
import JavaDeps.Proofs.Toml.WrittenValues
import JavaDeps.Toml.Document

/-!
# Written tables as tables

A table is written as a header and a line for each entry. **Reading these lines opens the table and
adds the entries to it, one after the other** (`Progress.reads_section`), as long as the keys need
no quotes and differ. What a document holds elsewhere plays no part: `IsPlace` says where entries
go, and what stands around them is left alone.
-/

namespace JavaDeps.Toml

/-! ### Keys -/

/-- Whether a key needs no quotes. -/
def IsBareKey (key : String) : Prop :=
  key.toList ≠ [] ∧ ∀ c ∈ key.toList, isBareKeyChar c = true

instance (key : String) : Decidable (IsBareKey key) :=
  decidable_of_iff (key.toList ≠ [] ∧ key.toList.all isBareKeyChar = true)
    (and_congr_right fun _ ↦ List.all_eq_true)

section

variable {key : String} {c : Char} {rest : List Char}

theorem ne_of_isBareKeyChar {c d : Char} (hc : isBareKeyChar c = true)
    (hd : isBareKeyChar d = false) : c ≠ d := by
  rintro rfl
  exact Bool.false_ne_true (hd.symm.trans hc)

theorem IsBareKey.exists_cons (h : IsBareKey key) :
    ∃ c cs, key.toList = c :: cs ∧ isBareKeyChar c = true := by
  obtain ⟨c, cs, hcs⟩ := List.exists_cons_of_ne_nil h.1
  exact ⟨c, cs, hcs, h.2 c (hcs ▸ List.mem_cons_self)⟩

/-- A bare key is read up to the first character that cannot be part of it. -/
theorem simpleKey?_append (h : IsBareKey key) (hc : isBareKeyChar c = false) :
    simpleKey? (key.toList ++ c :: rest) = some (key, c :: rest) := by
  have htake : (key.toList ++ c :: rest).takeWhile isBareKeyChar = key.toList := by
    rw [List.takeWhile_append_of_pos h.2, List.takeWhile_cons_of_neg (by simp [hc]),
      List.append_nil]
  have hdrop : (key.toList ++ c :: rest).drop key.toList.length = c :: rest := List.drop_left
  obtain ⟨d, ds, hds, hd⟩ := h.exists_cons
  have hhead : (key.toList ++ c :: rest).head? = some d := by rw [hds]; rfl
  rw [simpleKey?, hhead]
  split
  · next hquote => exact absurd (Option.some.inj hquote) (ne_of_isBareKeyChar hd (by decide))
  · next hquote => exact absurd (Option.some.inj hquote) (ne_of_isBareKeyChar hd (by decide))
  · simp only [htake, hdrop, List.isEmpty_iff, h.1, if_false, String.ofList_toList]

theorem skipBlanks_cons_of_isBareKeyChar {d : Char} (hd : isBareKeyChar d = true)
    (cs : List Char) : skipBlanks (d :: cs) = d :: cs := by
  have hspace := ne_of_isBareKeyChar hd (d := ' ') (by decide)
  have htab := ne_of_isBareKeyChar hd (d := '\t') (by decide)
  exact List.dropWhile_cons_of_neg (by simp [isBlank, hspace, htab])

/-- A path that begins with a bare key begins with one of its characters. -/
theorem IsBareKey.exists_intercalate_cons (h : IsBareKey key) (path : List String) :
    ∃ c cs, (".".intercalate (key :: path)).toList = c :: cs ∧ isBareKeyChar c = true := by
  obtain ⟨c, cs, hcs, hc⟩ := h.exists_cons
  cases path with
  | nil => exact ⟨c, cs, by rw [String.intercalate_singleton, hcs], hc⟩
  | cons next path => exact ⟨c, _, by rw [String.intercalate_cons_cons]; simp [hcs]; rfl, hc⟩

/-- A key without dots, and what stands behind blanks after it. -/
theorem keyParts?_append (h : IsBareKey key) (hc : isBareKeyChar c = false)
    (hdot : (skipBlanks (c :: rest)).head? ≠ some '.') (n : Nat) :
    keyParts? (n + 1) (key.toList ++ c :: rest) = some ([key], skipBlanks (c :: rest)) := by
  rw [keyParts?, simpleKey?_append h hc]
  simp only [Option.bind_eq_bind, Option.bind_some]
  split
  · next more hmore => exact absurd (by rw [hmore]; rfl) hdot
  · rfl

/-- **The parts of a dotted key**, and what stands behind blanks after them. -/
theorem keyParts?_intercalate {path : List String} (hne : path ≠ [])
    (hpath : ∀ part ∈ path, IsBareKey part) {n : Nat} (hn : path.length ≤ n)
    (hc : isBareKeyChar c = false) (hdot : (skipBlanks (c :: rest)).head? ≠ some '.') :
    keyParts? n ((".".intercalate path).toList ++ c :: rest) =
      some (path, skipBlanks (c :: rest)) := by
  induction path generalizing n with
  | nil => exact absurd rfl hne
  | cons part path ih =>
    obtain ⟨hpart, hpath⟩ := List.forall_mem_cons.1 hpath
    cases n with
    | zero => exact absurd hn (Nat.not_succ_le_zero _)
    | succ n =>
      cases path with
      | nil =>
        rw [String.intercalate_singleton]
        exact keyParts?_append hpart hc hdot n
      | cons next path =>
        have hrest := ih (List.cons_ne_nil _ _) hpath (Nat.le_of_succ_le_succ hn)
        obtain ⟨d, ds, hds, hd⟩ := (hpath next List.mem_cons_self).exists_intercalate_cons path
        have hkey : (".".intercalate (part :: next :: path)).toList ++ c :: rest =
            part.toList ++ '.' :: ((".".intercalate (next :: path)).toList ++ c :: rest) := by
          rw [String.intercalate_cons_cons]
          simp
        rw [hds, List.cons_append] at hrest
        have hdots : skipBlanks ('.' :: d :: (ds ++ c :: rest)) = '.' :: d :: (ds ++ c :: rest) :=
          rfl
        rw [hkey, hds, List.cons_append, keyParts?, simpleKey?_append hpart (by decide)]
        simp only [Option.bind_eq_bind, Option.bind_some, hdots,
          skipBlanks_cons_of_isBareKeyChar hd, hrest]
        rfl

end

/-! ### Headers -/

/-- Whether a header names a table by a path of keys. -/
structure IsHeader (path : List String) (header : String) : Prop where
  eq_intercalate : header = ".".intercalate path
  isBareKey : ∀ part ∈ path, IsBareKey part
  ne_nil : path ≠ []
  length_lt : path.length < maxDepth

theorem isHeader_singleton {key : String} (h : IsBareKey key) : IsHeader [key] key where
  eq_intercalate := String.intercalate_singleton.symm
  isBareKey := by simpa using h
  ne_nil := List.cons_ne_nil _ _
  length_lt := (by decide : 1 < maxDepth)

/-- A key on its way to what ends it, or to the blanks before that. -/
theorem key?_intercalate {path : List String} {header : String} (h : IsHeader path header)
    {c : Char} (hc : isBareKeyChar c = false) {rest : List Char}
    (hdot : (skipBlanks (c :: rest)).head? ≠ some '.') :
    key? (header.toList ++ c :: rest) = some (path, skipBlanks (c :: rest)) := by
  obtain ⟨first, others, rfl⟩ := List.exists_cons_of_ne_nil h.ne_nil
  obtain ⟨d, ds, hds, hd⟩ := (h.isBareKey first List.mem_cons_self).exists_intercalate_cons others
  have hparts := keyParts?_intercalate h.ne_nil h.isBareKey (Nat.le_sub_one_of_lt h.length_lt)
    hc hdot
  rw [h.eq_intercalate, key?]
  rw [hds, List.cons_append] at hparts ⊢
  rw [skipBlanks_cons_of_isBareKeyChar hd, hparts]

theorem IsHeader.exists_cons {path : List String} {header : String} (h : IsHeader path header) :
    ∃ c cs, header.toList = c :: cs ∧ isBareKeyChar c = true := by
  obtain ⟨first, others, rfl⟩ := List.exists_cons_of_ne_nil h.ne_nil
  rw [h.eq_intercalate]
  exact (h.isBareKey first List.mem_cons_self).exists_intercalate_cons others

/-- A header is read back from between its brackets. -/
theorem lineContent?_header {path : List String} {header : String} (h : IsHeader path header)
    (more : List Char) :
    lineContent? ('[' :: (header.toList ++ ']' :: more)) = some (.table path, more) := by
  have hkey : key? (header.toList ++ ']' :: more) = some (path, ']' :: more) :=
    key?_intercalate h (by decide) fun hdot ↦ absurd (Option.some.inj hdot) (by decide)
  obtain ⟨d, ds, hds, hd⟩ := h.exists_cons
  rw [lineContent?]
  · rw [hkey]
    rfl
  · intro rest heq
    rw [hds] at heq
    exact ne_of_isBareKeyChar hd (by decide) (List.cons.inj heq).1

/-! ### Entries -/

theorem noGap_openBracket (rest : List Char) : NoGap ('[' :: rest) :=
  noGap_cons (by decide) (by decide) (by decide) (by decide) rest

/-- No written value is a gap. -/
theorem noGap_render (w : Written) (rest : List Char) : NoGap (w.render.toList ++ rest) := by
  cases w with
  | bool b => cases b <;> exact noGap_cons (by decide) (by decide) (by decide) (by decide) _
  | nat n =>
    obtain ⟨d, ds, hds⟩ := List.exists_cons_of_ne_nil (Nat.toDigits_ne_nil (n := n) (b := 10))
    have hdigit : d.isDigit = true := isDigit_of_mem_toDigits (hds ▸ List.mem_cons_self)
    have hne {e : Char} (he : e.isDigit = false) : d ≠ e := by
      rintro rfl
      exact Bool.false_ne_true (he.symm.trans hdigit)
    rw [Written.render, toList_toString_nat, hds]
    refine noGap_cons ?_ (hne (by decide)) (hne (by decide)) (hne (by decide)) _
    have hspace : d ≠ ' ' := hne (by decide)
    have htab : d ≠ '\t' := hne (by decide)
    simp [isBlank, hspace, htab]
  | text s =>
    rw [Written.render, quotedText, String.toList_ofList]
    exact noGap_quotedChars s.toList rest
  | list items =>
    rw [Written.render]
    rcases items with - | ⟨first, - | ⟨second, items⟩⟩
    · exact noGap_openBracket _
    · simpa [listText] using noGap_openBracket _
    · simpa [listText] using noGap_openBracket _

/-- **An entry is read back from its line**: the key, and the value. -/
theorem lineContent?_entry {key : String} (hkey : IsBareKey key) {w : Written}
    (hw : w.IsReadable) (more : List Char) :
    lineContent? (key.toList ++ ' ' :: '=' :: ' ' :: (w.render.toList ++ '\n' :: more)) =
      some (.entry [key] w.value, '\n' :: more) := by
  have hread : key? (key.toList ++ ' ' :: '=' :: ' ' :: (w.render.toList ++ '\n' :: more)) =
      some ([key], '=' :: ' ' :: (w.render.toList ++ '\n' :: more)) :=
    key?_intercalate (isHeader_singleton hkey) (by decide) fun hdot ↦
      absurd (Option.some.inj hdot) (by decide)
  have hblank : skipBlanks (' ' :: (w.render.toList ++ '\n' :: more)) =
      w.render.toList ++ '\n' :: more :=
    skipBlanks_replicate_append (noGap_render w _) 1
  obtain ⟨d, ds, hds, hd⟩ := hkey.exists_cons
  generalize hrest : ' ' :: '=' :: ' ' :: (w.render.toList ++ '\n' :: more) = rest at hread ⊢
  have hapart {e : Char} (he : isBareKeyChar e = false) (tail : List Char) :
      key.toList ++ rest ≠ e :: tail := by
    rw [hds]
    exact fun h ↦ ne_of_isBareKeyChar hd he (List.cons.inj h).1
  rw [lineContent?]
  · have hequals : expect? '=' ('=' :: ' ' :: (w.render.toList ++ '\n' :: more)) =
        some (' ' :: (w.render.toList ++ '\n' :: more)) := rfl
    rw [hread]
    simp only [Option.bind_eq_bind, Option.bind_some, hequals, hblank, value?_render hw]
    rfl
  · exact fun tail ↦ hapart (by decide) _
  · exact fun tail ↦ hapart (by decide) _
  · simp [hds]
  all_goals exact fun tail ↦ hapart (by decide) tail

/-! ### Lines -/

/-- Whether a table holds nothing that cannot be read back. -/
structure Section.IsWritable (s : Section) : Prop where
  isBareKey : ∀ e ∈ s.entries, IsBareKey e.1
  isReadable : ∀ e ∈ s.entries, e.2.IsReadable
  nodup_keys : (s.entries.map Prod.fst).Nodup

namespace Progress

variable {p p' p'' : Progress} {cs cs' : List Char}

/-- Whether lines take a document from one state to another, whatever follows them. -/
def Reads (p : Progress) (cs : List Char) (p' : Progress) : Prop :=
  ∃ k ≤ cs.length, ∀ n more, addLines? (n + k) p (cs ++ more) = addLines? n p' more

theorem Reads.refl (p : Progress) : p.Reads [] p :=
  ⟨0, le_rfl, fun _ _ ↦ rfl⟩

theorem Reads.append (h : p.Reads cs p') (h' : p'.Reads cs' p'') : p.Reads (cs ++ cs') p'' := by
  obtain ⟨k, hk, h⟩ := h
  obtain ⟨k', hk', h'⟩ := h'
  refine ⟨k' + k, by rw [List.length_append]; omega, fun n more ↦ ?_⟩
  rw [List.append_assoc, ← Nat.add_assoc, h, h']

/-- A line is read up to its end. -/
theorem reads_line {content : List Char} (line : Line)
    (hstart : ∀ c ∈ content.head?, isBlank c = false)
    (hcontent : ∀ more, lineContent? (content ++ '\n' :: more) = some (line, '\n' :: more))
    (hadd : p.add? line = some p') : p.Reads (content ++ ['\n']) p' := by
  refine ⟨1, by simp, fun n more ↦ ?_⟩
  have hblanks : skipBlanks (content ++ '\n' :: more) = content ++ '\n' :: more := by
    cases content with
    | nil => rfl
    | cons c content => exact List.dropWhile_cons_of_neg (by simp [hstart c rfl])
  have hend : endLine? ('\n' :: more) = some more := rfl
  have hread : lineContent? (skipBlanks (content ++ '\n' :: more)) = some (line, '\n' :: more) := by
    rw [hblanks, hcontent]
  rw [List.append_assoc, List.singleton_append, addLines?]
  · rw [hread]
    simp [hadd, hend]
  · simp

theorem reads_blank (p : Progress) : p.Reads ['\n'] p := by
  show p.Reads ([] ++ ['\n']) p
  exact reads_line .blank (by simp) (fun _ ↦ rfl) rfl

/-! ### Tables -/

/-- The entries of a written table, as parts of a document. -/
def nodesOf (entries : List (String × Written)) : Nodes :=
  entries.map fun (key, w) ↦ (key, .value w.value)

theorem map_fst_nodesOf (entries : List (String × Written)) :
    (nodesOf entries).map Prod.fst = entries.map Prod.fst :=
  List.map_map ..

/-- The characters of an entry on its line. -/
def entryLine (key : String) (w : Written) : List Char :=
  key.toList ++ ' ' :: '=' :: ' ' :: w.render.toList ++ ['\n']

/-- Whether entries at a place go into the table that `around` stands around. -/
def IsPlace (place : List String) (around : Nodes → Nodes) : Prop :=
  ∀ key v entries, entries.lookup key = none →
    addUnder? [key] v place (around entries) = some (around (entries ++ [(key, .value v)]))

section

variable {place : List String} {around : Nodes → Nodes} {nodes inner inner' : Nodes} {name : String}

theorem lookup_append_singleton (hname : name ∉ nodes.map Prod.fst) (n : Node) :
    (nodes ++ [(name, n)]).lookup name = some n := by
  rw [List.lookup_append, lookup_eq_none_of_not_mem hname, Option.none_or, lookup_cons_eq,
    if_pos rfl]

/-- To put a further entry under the last key replaces the entry that is there. -/
theorem putEntry_append_singleton (hname : name ∉ nodes.map Prod.fst) (n n' : Node) :
    putEntry name n' (nodes ++ [(name, n)]) = nodes ++ [(name, n')] := by
  have hothers : ∀ e ∈ nodes, (if e.1 = name then (name, n') else e) = e := fun e he ↦
    if_neg fun h ↦ hname (List.mem_map.2 ⟨e, he, h⟩)
  rw [putEntry, lookup_append_singleton hname, Option.isSome_some, if_pos rfl, List.map_append,
    List.map_congr_left hothers, List.map_id', List.map_singleton, if_pos rfl]

theorem isPlace_nil : IsPlace [] id := by
  intro key v entries hnew
  show addNode? v [key] entries = _
  rw [addNode?, hnew, Option.isSome_none, if_neg Bool.false_ne_true]
  rfl

/-- A place inside of a table that stands last. -/
theorem IsPlace.within (h : IsPlace place around) (hname : name ∉ nodes.map Prod.fst) :
    IsPlace (name :: place) fun entries ↦ nodes ++ [(name, .table .header (around entries))] := by
  intro key v entries hnew
  simp only [addUnder?, lookup_append_singleton hname, through?, h key v entries hnew]
  simp [putEntry_append_singleton hname]

theorem openTable?_new (hname : name ∉ nodes.map Prod.fst) :
    openTable? [name] nodes = some (nodes ++ [(name, .table .header [])]) := by
  simp [openTable?, lookup_eq_none_of_not_mem hname, putEntry]

/-- A table is opened inside of one that stands last. -/
theorem openTable?_within {path : List String} (hpath : path ≠ [])
    (hname : name ∉ nodes.map Prod.fst) (h : openTable? path inner = some inner') :
    openTable? (name :: path) (nodes ++ [(name, .table .header inner)]) =
      some (nodes ++ [(name, .table .header inner')]) := by
  obtain ⟨next, path, rfl⟩ := List.exists_cons_of_ne_nil hpath
  simp only [openTable?, lookup_append_singleton hname, through?, h]
  simp [putEntry_append_singleton hname]

/-- The line of an entry adds it to the table at hand, if its key is new there. -/
theorem reads_entry (hplace : IsPlace place around) {key : String} (hkey : IsBareKey key)
    {w : Written} (hw : w.IsReadable) (hnew : key ∉ nodes.map Prod.fst) :
    Reads ⟨around nodes, place⟩ (entryLine key w)
      ⟨around (nodes ++ [(key, .value w.value)]), place⟩ := by
  obtain ⟨d, ds, hds, hd⟩ := hkey.exists_cons
  have hblank : isBlank d = false := by
    simp [isBlank, ne_of_isBareKeyChar hd (show isBareKeyChar ' ' = false by decide),
      ne_of_isBareKeyChar hd (show isBareKeyChar '\t' = false by decide)]
  refine reads_line (.entry [key] w.value) ?_ (fun more ↦ ?_) ?_
  · rw [hds]
    rintro c ⟨⟩
    exact hblank
  · have hread := lineContent?_entry hkey hw more
    simpa using hread
  · rw [add?, hplace key w.value nodes (lookup_eq_none_of_not_mem hnew)]
    rfl

/-- **The lines of entries add them one after the other.** -/
theorem reads_entries (hplace : IsPlace place around) {entries : List (String × Written)}
    (hbare : ∀ e ∈ entries, IsBareKey e.1) (hreadable : ∀ e ∈ entries, e.2.IsReadable)
    (hkeys : (nodes.map Prod.fst ++ entries.map Prod.fst).Nodup) :
    Reads ⟨around nodes, place⟩ (entries.flatMap fun e ↦ entryLine e.1 e.2)
      ⟨around (nodes ++ nodesOf entries), place⟩ := by
  induction entries generalizing nodes with
  | nil =>
    rw [nodesOf, List.map_nil, List.append_nil]
    exact .refl _
  | cons e entries ih =>
    obtain ⟨hkey, hbare⟩ := List.forall_mem_cons.1 hbare
    obtain ⟨hw, hreadable⟩ := List.forall_mem_cons.1 hreadable
    have hnew : e.1 ∉ nodes.map Prod.fst := fun h ↦
      (List.nodup_append.1 hkeys).2.2 _ h _ List.mem_cons_self rfl
    have hnodup : ((nodes ++ [(e.1, Node.value e.2.value)]).map Prod.fst ++
        entries.map Prod.fst).Nodup := by simpa using hkeys
    have hrest := ih hbare hreadable hnodup
    rw [List.append_assoc] at hrest
    exact (reads_entry hplace hkey hw hnew).append hrest

/-- **The lines of a table open it and fill it.** -/
theorem reads_section {s : Section} (hs : s.IsWritable) {path : List String}
    (hheader : IsHeader path s.header) (hopen : openTable? path nodes = some (around []))
    (hplace : IsPlace path around) :
    Reads ⟨nodes, place⟩ s.render.toList ⟨around (nodesOf s.entries), path⟩ := by
  have hchars : s.render.toList = ('[' :: (s.header.toList ++ [']']) ++ ['\n']) ++
      s.entries.flatMap fun e ↦ entryLine e.1 e.2 := by
    rw [Section.render, String.toList_append, String.toList_join, List.flatMap_map]
    simp [entryLine]
  have hline : Reads ⟨nodes, place⟩ ('[' :: (s.header.toList ++ [']']) ++ ['\n'])
      ⟨around [], path⟩ := by
    refine reads_line (.table path) (by simp [isBlank]) (fun more ↦ ?_) ?_
    · have hread := lineContent?_header hheader ('\n' :: more)
      simpa using hread
    · rw [add?, hopen]
      rfl
  rw [hchars]
  exact hline.append (reads_entries hplace hs.isBareKey hs.isReadable hs.nodup_keys)

/-- A table is added behind the others. -/
theorem reads_newSection {entries : List (String × Written)}
    (hs : Section.IsWritable ⟨name, entries⟩) (hkey : IsBareKey name)
    (hname : name ∉ nodes.map Prod.fst) :
    Reads ⟨nodes, place⟩ (Section.render ⟨name, entries⟩).toList
      ⟨nodes ++ [(name, .table .header (nodesOf entries))], [name]⟩ :=
  reads_section hs (isHeader_singleton hkey) (openTable?_new hname) (isPlace_nil.within hname)

/-- A table is added inside of the last one. -/
theorem reads_innerSection {header key : String} {entries : List (String × Written)}
    (hs : Section.IsWritable ⟨header, entries⟩) (hheader : IsHeader [name, key] header)
    (hname : name ∉ nodes.map Prod.fst) (hkey : key ∉ inner.map Prod.fst) :
    Reads ⟨nodes ++ [(name, .table .header inner)], place⟩ (Section.render ⟨header, entries⟩).toList
      ⟨nodes ++ [(name, .table .header (inner ++ [(key, .table .header (nodesOf entries))]))],
        [name, key]⟩ :=
  reads_section hs hheader (openTable?_within (List.cons_ne_nil _ _) hname (openTable?_new hkey))
    ((isPlace_nil.within hkey).within hname)

end

/-- What lines take an empty document to is what they hold. -/
theorem parse?_of_reads {text : String} {p : Progress} (h : Reads {} text.toList p)
    (hmark : text.toList.head? ≠ some '\ufeff') : parse? text = some (finishNodes p.nodes) := by
  have hskip : skipMark text.toList = text.toList := by
    rw [skipMark]
    exact fun rest heq ↦ hmark (by rw [heq]; rfl)
  obtain ⟨k, hk, hread⟩ := h
  have hend := hread (text.toList.length - k) []
  rw [Nat.sub_add_cancel hk, List.append_nil] at hend
  rw [parse?, hskip]
  simp only [hend]
  rw [addLines?]
  rfl

end Progress

theorem finishNodes_append (front back : Nodes) :
    finishNodes (front ++ back) = finishNodes front ++ finishNodes back := by
  induction front with
  | nil => rw [List.nil_append, finishNodes, List.nil_append]
  | cons e front ih => rw [List.cons_append, finishNodes, ih, finishNodes, List.cons_append]

/-- Entries are finished as what they are. -/
theorem finishNodes_nodesOf (entries : List (String × Written)) :
    finishNodes (Progress.nodesOf entries) = entries.map fun e ↦ (e.1, e.2.value) := by
  induction entries with
  | nil => rfl
  | cons e entries ih =>
    rw [List.map_cons, ← ih]
    rfl

end JavaDeps.Toml
