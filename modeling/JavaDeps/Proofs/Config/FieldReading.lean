import JavaDeps.Config.Document
import JavaDeps.Proofs.Sorted.Membership
import JavaDeps.Proofs.Toml.Overlay
import Mathlib.Data.List.Nodup

/-!
# Sections, field by field

A section that is given as a table is read entry by entry, and each field depends on the entry under
its own key alone. So a section that was read has in a field what its table says for it, or what the
field started with (`readSection_field`), and **a table that says something else for one key is read
alike but for that field** (`readSection_override`). Both hold of any list of fields whose changes
keep apart: what one of them sets, the others neither read nor touch.
-/

namespace JavaDeps.Config

open Toml (Value Entries)

variable {α β σ : Type}

theorem within_eq_ok_iff {key : String} {r : Reading α} {a : α} :
    within key r = .ok a ↔ r = .ok a := by
  cases r <;> simp [within, Except.mapError]

theorem readField_of_none {entries : Entries} {s : σ} {f : Field σ}
    (h : entries.lookup f.key = none) : readField entries s f = .ok s := by
  rw [readField, h]

theorem readField_of_some {entries : Entries} {s t : σ} {f : Field σ} {v : Value}
    (h : entries.lookup f.key = some v) : readField entries s f = .ok t ↔ f.set v s = .ok t := by
  rw [readField, h]
  exact within_eq_ok_iff

@[simp] theorem Field.key_of (key : String) (read : Value → Reading α) (assign : α → σ → σ) :
    (Field.of key read assign).key = key :=
  rfl

theorem Field.of_set_eq_ok_iff {key : String} {read : Value → Reading α} {assign : α → σ → σ}
    {v : Value} {s t : σ} :
    (Field.of key read assign).set v s = .ok t ↔ ∃ a, read v = .ok a ∧ assign a s = t := by
  show (read v).map (assign · s) = .ok t ↔ _
  cases read v <;> simp [Except.map]

/-! ### Fields that keep apart -/

/-- Whether a field is set alike before a change and after it. -/
def Field.Spares (f : Field σ) (change : σ → σ) : Prop :=
  ∀ v s t, f.set v s = .ok t → f.set v (change s) = .ok (change t)

/-- Whether setting a field leaves alone what is seen of a section. -/
def Field.Hides (f : Field σ) (view : σ → α) : Prop :=
  ∀ v s t, f.set v s = .ok t → view t = view s

/-- A field spares a change if the assignment commutes with it. -/
theorem Field.of_spares {key : String} {read : Value → Reading α} {assign : α → σ → σ}
    {change : σ → σ} (h : ∀ a s, assign a (change s) = change (assign a s)) :
    (Field.of key read assign).Spares change := by
  intro v s t hset
  obtain ⟨a, hread, rfl⟩ := of_set_eq_ok_iff.1 hset
  exact of_set_eq_ok_iff.2 ⟨a, hread, h a s⟩

/-- A field hides behind a view if the assignment does not show there. -/
theorem Field.of_hides {key : String} {read : Value → Reading α} {assign : α → σ → σ}
    {view : σ → β} (h : ∀ a s, view (assign a s) = view s) :
    (Field.of key read assign).Hides view := by
  intro v s t hset
  obtain ⟨a, -, rfl⟩ := of_set_eq_ok_iff.1 hset
  exact h a s

/-- To read a field after a change that it spares comes to the same as to change what was read. -/
theorem readField_spares {entries entries' : Entries} {f : Field σ} {change : σ → σ} {s t : σ}
    (hf : f.Spares change) (hsame : entries'.lookup f.key = entries.lookup f.key)
    (h : readField entries s f = .ok t) : readField entries' (change s) f = .ok (change t) := by
  cases hv : entries.lookup f.key with
  | none =>
    rw [readField_of_none hv] at h
    rw [readField_of_none (hsame.trans hv), Except.ok.inj h]
  | some v =>
    rw [readField_of_some hv] at h
    exact (readField_of_some (hsame.trans hv)).2 (hf v s t h)

/-- To read a field does not show in a view that it hides behind. -/
theorem readField_hides {entries : Entries} {f : Field σ} {view : σ → α} {s t : σ}
    (hf : f.Hides view) (h : readField entries s f = .ok t) : view t = view s := by
  cases hv : entries.lookup f.key with
  | none =>
    rw [readField_of_none hv] at h
    rw [Except.ok.inj h]
  | some v =>
    rw [readField_of_some hv] at h
    exact hf v s t h

/-! ### Several fields in turn -/

/-- Fields are read one after another: first the head, and the others from what it leaves. -/
theorem foldlM_readField_cons {entries : Entries} {s t : σ} {f : Field σ}
    {fields : List (Field σ)} :
    (f :: fields).foldlM (readField entries) s = .ok t ↔
      ∃ u, readField entries s f = .ok u ∧ fields.foldlM (readField entries) u = .ok t := by
  rw [List.foldlM_cons]
  cases readField entries s f with
  | error e => simp [bind, Except.bind]
  | ok u => simp [bind, Except.bind]

/-- Fields are read one after another: first a front, and what is behind it from what that
leaves. -/
theorem foldlM_readField_append {entries : Entries} {s t : σ} {front back : List (Field σ)} :
    (front ++ back).foldlM (readField entries) s = .ok t ↔
      ∃ u, front.foldlM (readField entries) s = .ok u ∧
        back.foldlM (readField entries) u = .ok t := by
  induction front generalizing s with
  | nil => simp [pure, Except.pure]
  | cons f front ih =>
    rw [List.cons_append, foldlM_readField_cons]
    simp only [ih, foldlM_readField_cons]
    tauto

/-- A change that all fields of a section spare may be made before or after it is read. -/
theorem foldlM_readField_spares {entries entries' : Entries} {fields : List (Field σ)}
    {change : σ → σ} {s t : σ} (hfields : ∀ f ∈ fields, f.Spares change)
    (hsame : ∀ f ∈ fields, entries'.lookup f.key = entries.lookup f.key)
    (h : fields.foldlM (readField entries) s = .ok t) :
    fields.foldlM (readField entries') (change s) = .ok (change t) := by
  induction fields generalizing s with
  | nil =>
    obtain rfl := Except.ok.inj h
    rfl
  | cons f fields ih =>
    obtain ⟨hf, hfields⟩ := List.forall_mem_cons.1 hfields
    obtain ⟨hfirst, hsame⟩ := List.forall_mem_cons.1 hsame
    obtain ⟨u, hu, hrest⟩ := foldlM_readField_cons.1 h
    exact foldlM_readField_cons.2 ⟨_, readField_spares hf hfirst hu, ih hfields hsame hrest⟩

/-- A view that all fields of a section hide behind shows nothing of the reading. -/
theorem foldlM_readField_hides {entries : Entries} {fields : List (Field σ)} {view : σ → α}
    {s t : σ} (hfields : ∀ f ∈ fields, f.Hides view)
    (h : fields.foldlM (readField entries) s = .ok t) : view t = view s := by
  induction fields generalizing s with
  | nil =>
    obtain rfl := Except.ok.inj h
    rfl
  | cons f fields ih =>
    obtain ⟨hf, hfields⟩ := List.forall_mem_cons.1 hfields
    obtain ⟨u, hu, hrest⟩ := foldlM_readField_cons.1 h
    rw [ih hfields hrest, readField_hides hf hu]

/-! ### Sections -/

/-- A table that says nothing leaves a section as it starts out. -/
theorem readSection_nil (fields : List (Field σ)) (s : σ) :
    readSection fields (.table []) s = .ok s := by
  rw [readSection]
  induction byKey fields with
  | nil => rfl
  | cons f fields ih => exact foldlM_readField_cons.2 ⟨s, readField_of_none rfl, ih⟩

/-- Fields with different keys are all visited, whatever the order. -/
theorem perm_byKey {fields : List (Field σ)} (hkeys : (fields.map (·.key)).Nodup) :
    (byKey fields).Perm fields := by
  have hperm := (SortedMap.perm_entries_ofList (l := fields.map fun f ↦ (f.key, f))
    (by rwa [List.map_map])).map Prod.snd
  have hsnd : (fields.map fun f ↦ (f.key, f)).map Prod.snd = fields := by
    rw [List.map_map]
    exact List.map_id'' (fun _ ↦ rfl) fields
  rwa [hsnd] at hperm

/-- Fields that stand in the order of their keys are visited as they stand. -/
theorem byKey_eq_self {fields : List (Field σ)}
    (h : (fields.map (·.key)).Pairwise fun k k' ↦ compare k k' = .lt) : byKey fields = fields := by
  have hentries : (fields.map fun f ↦ (f.key, f)).Pairwise fun e e' ↦ compare e.1 e'.1 = .lt :=
    List.pairwise_map.2 (List.pairwise_map.1 h)
  rw [byKey, SortedMap.values, SortedMap.entries_ofList hentries, List.map_map]
  exact List.map_id'' (fun _ ↦ rfl) fields

/-- The fields that are visited before the one for a key and behind it. -/
theorem exists_byKey_eq_append {fields : List (Field σ)} {f : Field σ} (hf : f ∈ fields)
    (hkeys : (fields.map (·.key)).Nodup) :
    ∃ front back, byKey fields = front ++ f :: back ∧ (∀ g ∈ front, g ∈ fields ∧ g.key ≠ f.key) ∧
      ∀ g ∈ back, g ∈ fields ∧ g.key ≠ f.key := by
  have hperm := perm_byKey hkeys
  rw [← (hperm.map (·.key)).nodup_iff] at hkeys
  obtain ⟨front, back, hsplit⟩ := List.append_of_mem (hperm.mem_iff.2 hf)
  rw [hsplit, List.map_append, List.map_cons, List.nodup_middle, List.nodup_cons,
    List.mem_append, not_or] at hkeys
  refine ⟨front, back, hsplit, fun g hg ↦ ⟨?_, fun hkey ↦ hkeys.1.1 ?_⟩,
    fun g hg ↦ ⟨?_, fun hkey ↦ hkeys.1.2 ?_⟩⟩
  · exact hperm.mem_iff.1 (by simp [hsplit, hg])
  · exact hkey ▸ List.mem_map_of_mem hg
  · exact hperm.mem_iff.1 (by simp [hsplit, hg])
  · exact hkey ▸ List.mem_map_of_mem hg

section

variable {fields : List (Field σ)} {key : String} {read : Value → Reading α} {assign : α → σ → σ}
  {entries entries' : Entries} {s t : σ}

/-- A field of a section that the others set alike whatever it holds. -/
structure HasField (fields : List (Field σ)) (key : String) (read : Value → Reading α)
    (assign : α → σ → σ) : Prop where
  mem : .of key read assign ∈ fields
  keys : (fields.map (·.key)).Nodup
  spares : ∀ a, ∀ g ∈ fields, g.key ≠ key → g.Spares (assign a)
  assign_assign : ∀ a b s, assign a (assign b s) = assign a s

/-- A field of a section that is seen with `view`, which sees nothing of the others. -/
structure HasLens (fields : List (Field σ)) (key : String) (read : Value → Reading α)
    (assign : α → σ → σ) (view : σ → α) : Prop extends HasField fields key read assign where
  hides : ∀ g ∈ fields, g.key ≠ key → g.Hides view
  view_assign : ∀ a s, view (assign a s) = a
  assign_view : ∀ s, assign (view s) s = s

/-- **A section that was read has in a field what is given for it**, or else what it started
with. -/
theorem readSection_field {view : σ → α} (hfield : HasLens fields key read assign view)
    (h : readSection fields (.table entries) s = .ok t) :
    match entries.lookup key with
    | none => view t = view s
    | some v => read v = .ok (view t) := by
  obtain ⟨front, back, hsplit, hfront, hback⟩ := exists_byKey_eq_append hfield.mem hfield.keys
  rw [readSection, hsplit, foldlM_readField_append] at h
  obtain ⟨u, hu, h⟩ := h
  obtain ⟨w, hw, h⟩ := foldlM_readField_cons.1 h
  have hbefore : view u = view s :=
    foldlM_readField_hides (fun g hg ↦ hfield.hides g (hfront g hg).1 (hfront g hg).2) hu
  have hbehind : view t = view w :=
    foldlM_readField_hides (fun g hg ↦ hfield.hides g (hback g hg).1 (hback g hg).2) h
  cases hv : entries.lookup key with
  | none =>
    rw [readField_of_none hv] at hw
    rw [hbehind, ← Except.ok.inj hw, hbefore]
  | some v =>
    obtain ⟨a, hread, rfl⟩ := Field.of_set_eq_ok_iff.1 ((readField_of_some hv).1 hw)
    rw [hbehind, hfield.view_assign]
    exact hread

/-- **A table that says something else for one key is read alike but for that field.** -/
theorem readSection_override {a : α} {v : Value} (hfield : HasField fields key read assign)
    (hlookup : entries'.lookup key = some v) (hread : read v = .ok a)
    (hsame : ∀ k, k ≠ key → entries'.lookup k = entries.lookup k)
    (h : readSection fields (.table entries) s = .ok t) :
    readSection fields (.table entries') s = .ok (assign a t) := by
  obtain ⟨front, back, hsplit, hfront, hback⟩ := exists_byKey_eq_append hfield.mem hfield.keys
  rw [readSection, hsplit, foldlM_readField_append] at h ⊢
  obtain ⟨u, hu, h⟩ := h
  obtain ⟨w, hw, h⟩ := foldlM_readField_cons.1 h
  have hw' : readField entries' u (.of key read assign) = .ok (assign a w) := by
    refine (readField_of_some hlookup).2 (Field.of_set_eq_ok_iff.2 ⟨a, hread, ?_⟩)
    cases hv : entries.lookup key with
    | none =>
      rw [readField_of_none hv] at hw
      rw [Except.ok.inj hw]
    | some v =>
      obtain ⟨b, -, rfl⟩ := Field.of_set_eq_ok_iff.1 ((readField_of_some hv).1 hw)
      rw [hfield.assign_assign]
  have hid : ∀ g ∈ front, g.Spares id := fun g _ v s t h ↦ h
  refine ⟨u, ?_, foldlM_readField_cons.2 ⟨_, hw', ?_⟩⟩
  · exact foldlM_readField_spares hid (fun g hg ↦ hsame _ (hfront g hg).2) hu
  · exact foldlM_readField_spares (fun g hg ↦ hfield.spares a g (hback g hg).1 (hback g hg).2)
      (fun g hg ↦ hsame _ (hback g hg).2) h

end

end JavaDeps.Config
