import JavaDeps.Proofs.Pool.Steps
import Mathlib.Data.List.Perm.Basic

/-!
# The books of a pool

A pool keeps books on its slots, its workers and how many of them it started. **They are right
between any two steps, whatever the workers do** (`Accounted.run`): each slot is idle and just once,
the workers in slots are ready for requests and have numbers of their own, and all workers but those
of the start were started in place of others. A pool that was shut down has empty slots, and stays
as it is.

A request borrows a slot and gives it back. In between a slot is missing (`Lends`), and its worker
is one that fits in where the slot is given back to (`Fits`).
-/

namespace JavaDeps.Pool

namespace State

variable {σ ω : Type} {host : Host σ ω} {p q : State σ ω} {size started slot : Nat}

/-! ### Slots -/

theorem slot?_setSlot_self (hslot : slot < p.slots.length) (h : Option (Handle σ)) :
    (p.setSlot slot h).slot? slot = h := by
  rw [slot?, setSlot, List.getElem?_set_self hslot]
  rfl

theorem slot?_setSlot_ne {i : Nat} (hne : slot ≠ i) (h : Option (Handle σ)) :
    (p.setSlot slot h).slot? i = p.slot? i := by
  rw [slot?, setSlot, List.getElem?_set_ne hne]
  rfl

/-- What is in a slot was put there just now, or was there before. -/
theorem slot?_setSlot_cases (hslot : slot < p.slots.length) {worker : Option (Handle σ)} {i : Nat}
    {g : Handle σ} (hg : (p.setSlot slot worker).slot? i = some g) :
    i = slot ∧ worker = some g ∨ i ≠ slot ∧ p.slot? i = some g := by
  by_cases hi : i = slot
  · rw [hi, slot?_setSlot_self hslot] at hg
    exact .inl ⟨hi, hg⟩
  · rw [slot?_setSlot_ne (Ne.symm hi)] at hg
    exact .inr ⟨hi, hg⟩

/-! ### Shutting down -/

theorem Employs.isShutDown {h : Handle σ} (hemploys : Employs host p slot h q) :
    q.isShutDown = p.isShutDown := by
  cases hemploys <;> rfl

/-- To have a worker is no request. -/
theorem Employs.nextRequest {h : Handle σ} (hemploys : Employs host p slot h q) :
    q.nextRequest = p.nextRequest ∧ q.memo = p.memo := by
  cases hemploys <;> exact ⟨rfl, rfl⟩

/-- An attempt does not shut a pool down, and does not open one that was. -/
theorem AttemptsIn.isShutDown {file : SourceFile} {a : Attempt}
    (h : AttemptsIn host p slot file a q) : q.isShutDown = p.isShutDown := by
  cases h with
  | unstarted _ _ => rfl
  | answered hemploys _ _ => exact hemploys.isShutDown
  | failed hemploys _ _ => exact hemploys.isShutDown

theorem isShutDown_conclude (p : State σ ω) (file : SourceFile) (o : Wire.Outcome) :
    (p.conclude file o).2.isShutDown = p.isShutDown := by
  cases o <;> rfl

/-- Parsing a file does not shut a pool down, and does not open one that was. -/
theorem Parses.isShutDown {file : SourceFile} {outcome : ParseOutcome}
    (h : Parses host p file outcome q) : q.isShutDown = p.isShutDown := by
  cases h with
  | shutDown _ => rfl
  | remembered _ _ => rfl
  | answered _ _ hfirst => exact (isShutDown_conclude _ _ _).trans hfirst.isShutDown
  | retried _ _ hfirst _ hsecond =>
    exact (isShutDown_conclude _ _ _).trans (hsecond.isShutDown.trans hfirst.isShutDown)
  | failed _ _ hfirst _ hsecond => exact hsecond.isShutDown.trans hfirst.isShutDown

theorem conclude_ne_shutDown (p : State σ ω) (file : SourceFile) (o : Wire.Outcome) :
    (p.conclude file o).1 ≠ .error .shutDown := by
  cases o <;> simp [conclude]

/-- **Only a pool that was shut down says so.** -/
theorem Parses.eq_shutDown_iff {file : SourceFile} {outcome : ParseOutcome}
    (h : Parses host p file outcome q) : outcome = .error .shutDown ↔ p.isShutDown = true := by
  cases h with
  | shutDown hdown => simp [hdown]
  | remembered hup _ => simp [hup]
  | answered hup _ _ => simp [hup, conclude_ne_shutDown]
  | retried hup _ _ _ _ => simp [hup, conclude_ne_shutDown]
  | failed hup _ _ _ _ => simp [hup]

theorem shutdown_of_isShutDown (hdown : p.isShutDown = true) : p.shutdown host = ({}, p) := by
  rw [shutdown, if_pos hdown]

/-- To shut a running pool down empties its slots, and leaves its counts and facts alone. -/
theorem shutdown_of_running (host : Host σ ω) (hup : p.isShutDown = false) :
    (p.shutdown host).2 =
      { p with
        isShutDown := true, slots := p.slots.map fun _ ↦ none,
        world :=
          (awaitExits host p.options.shutdownTimeout p.world (p.slots.filterMap id)).2 } := by
  rw [shutdown, if_neg (by rw [hup]; exact Bool.false_ne_true)]

theorem nextRequest_shutdown (host : Host σ ω) (p : State σ ω) :
    (p.shutdown host).2.nextRequest = p.nextRequest := by
  rw [shutdown]
  split <;> rfl

theorem memo_shutdown (host : Host σ ω) (p : State σ ω) :
    (p.shutdown host).2.memo = p.memo := by
  rw [shutdown]
  split <;> rfl

/-- All slots of a pool that was shut down just now are empty. -/
theorem slot?_shutdown (host : Host σ ω) (hup : p.isShutDown = false) (slot : Nat) :
    (p.shutdown host).2.slot? slot = none := by
  rw [shutdown_of_running host hup, slot?, List.getElem?_map]
  cases p.slots[slot]? <;> rfl

/-- After a shutdown a pool is shut down, whatever it was before. -/
theorem isShutDown_shutdown (host : Host σ ω) (p : State σ ω) :
    (p.shutdown host).2.isShutDown = true := by
  by_cases hdown : p.isShutDown = true
  · rw [shutdown_of_isShutDown hdown]
    exact hdown
  · rw [shutdown_of_running host (by simpa using hdown)]

/-- **Nothing happens to a pool any more that was shut down.** -/
theorem after_of_isShutDown (hdown : p.isShutDown = true) (step : Step) :
    p.after host step = p := by
  cases step with
  | parse file =>
    rw [after, parse, first, if_pos hdown]
    rfl
  | shutdown => rw [after, shutdown_of_isShutDown hdown]

/-- **A pool that was shut down stays as it is**, whatever it is asked. -/
theorem run_of_isShutDown (hdown : p.isShutDown = true) (steps : List Step) :
    p.run host steps = p := by
  induction steps with
  | nil => rfl
  | cons step rest ih =>
    rw [run, List.foldl_cons, after_of_isShutDown hdown]
    exact ih

/-! ### The invariant -/

/-- Whether the workers of a pool are ready for requests, and each has a number of its own. -/
structure Staffed (p : State σ ω) : Prop where
  inStep : ∀ slot h, p.slot? slot = some h → h.inFlight = false
  numbered : ∀ slot h, p.slot? slot = some h → h.id < p.nextWorker
  distinct : ∀ i j g h, p.slot? i = some g → p.slot? j = some h → g.id = h.id → i = j

/-- **Whether the books of a pool are right** that has so many slots and started with so many
workers. -/
structure Accounted (size started : Nat) (p : State σ ω) : Prop extends Staffed p where
  /-- Every slot is idle, and just once. -/
  idle : p.idle.Perm (List.range size)
  slots : p.slots.length = size
  balance : p.spawned = p.respawned + started
  vacant : p.isShutDown = true → ∀ slot, p.slot? slot = none

/-- A pool without workers is staffed as it should be. -/
theorem Staffed.of_vacant (hvacant : ∀ slot, p.slot? slot = none) : Staffed p := by
  have hnone : ∀ slot g, p.slot? slot ≠ some g := by
    intro slot g hg
    rw [hvacant slot] at hg
    cases hg
  constructor
  · exact fun slot g hg ↦ absurd hg (hnone slot g)
  · exact fun slot g hg ↦ absurd hg (hnone slot g)
  · exact fun i _ g _ hg _ _ ↦ absurd hg (hnone i g)

/-- Whether a worker can be put in a slot, beside those in other slots. -/
structure Fits (p : State σ ω) (slot : Nat) (h : Handle σ) : Prop where
  inStep : h.inFlight = false
  numbered : h.id < p.nextWorker
  distinct : ∀ i g, i ≠ slot → p.slot? i = some g → g.id ≠ h.id

/-- Whether a pool is like another one, but for a slot that is out on loan and what it takes to have
a worker for it. -/
structure Lends (p : State σ ω) (slot started : Nat) (q : State σ ω) : Prop where
  idle : q.idle = p.idle.erase slot
  slots : q.slots = p.slots
  nextWorker_le : p.nextWorker ≤ q.nextWorker
  balance : q.spawned = q.respawned + started
  isShutDown : q.isShutDown = p.isShutDown

theorem Lends.withWorld (h : Lends p slot started q) (world : ω) :
    Lends p slot started { q with world } :=
  { h with }

theorem slot?_congr (hslots : q.slots = p.slots) (i : Nat) : q.slot? i = p.slot? i := by
  rw [slot?, slot?, hslots]

/-- A worker that fits can be put in a slot, and a slot can be left empty. -/
theorem Staffed.setSlot (h : Staffed p) (hslots : q.slots = p.slots)
    (hnext : p.nextWorker ≤ q.nextWorker) (hslot : slot < p.slots.length)
    {worker : Option (Handle σ)} (hworker : ∀ g, worker = some g → Fits q slot g) :
    Staffed (q.setSlot slot worker) := by
  have hlength : slot < q.slots.length := by rwa [hslots]
  have hkept : ∀ i g, q.slot? i = some g → p.slot? i = some g :=
    fun i g hg ↦ (slot?_congr hslots i).symm.trans hg
  constructor
  · intro i g hg
    rcases slot?_setSlot_cases hlength hg with ⟨-, hnew⟩ | ⟨-, hold⟩
    · exact (hworker g hnew).inStep
    · exact h.inStep i g (hkept i g hold)
  · intro i g hg
    rcases slot?_setSlot_cases hlength hg with ⟨-, hnew⟩ | ⟨-, hold⟩
    · exact (hworker g hnew).numbered
    · exact Nat.lt_of_lt_of_le (h.numbered i g (hkept i g hold)) hnext
  · intro i j g g' hg hg' hid
    rcases slot?_setSlot_cases hlength hg with ⟨hi, hnew⟩ | ⟨hi, hold⟩
    · rcases slot?_setSlot_cases hlength hg' with ⟨hj, -⟩ | ⟨hj, hold'⟩
      · rw [hi, hj]
      · exact absurd hid.symm ((hworker g hnew).distinct j g' hj hold')
    · rcases slot?_setSlot_cases hlength hg' with ⟨-, hnew'⟩ | ⟨-, hold'⟩
      · exact absurd hid ((hworker g' hnew').distinct i g hi hold)
      · exact h.distinct i j g g' (hkept i g hold) (hkept j g' hold') hid

/-- A new worker fits in any slot. -/
theorem Staffed.fits_new (h : Staffed p) (hslots : q.slots = p.slots)
    (hnext : p.nextWorker < q.nextWorker) (process : σ) :
    Fits q slot { id := p.nextWorker, process } := by
  refine ⟨rfl, hnext, fun i g _ hg ↦ Nat.ne_of_lt ?_⟩
  exact h.numbered i g ((slot?_congr hslots i).symm.trans hg)

namespace Accounted

theorem slot_lt (h : Accounted size started p) (hslot : slot ∈ p.idle) : slot < p.slots.length := by
  rw [h.slots]
  exact List.mem_range.1 (h.idle.subset hslot)

theorem idle_ne_nil (h : Accounted size started p) (hsize : size ≠ 0) : p.idle ≠ [] := by
  intro hnil
  have hlength := h.idle.length_eq
  rw [hnil, List.length_range] at hlength
  exact hsize hlength.symm

/-- **A slot that is given back is idle again**, with a worker that fits or without one. -/
theorem giveBack (h : Accounted size started p) (hup : p.isShutDown = false)
    (hslot : slot ∈ p.idle) (hlends : Lends p slot started q) {back : Option (Handle σ)}
    (hback : ∀ g, back = some g → Fits q slot g) :
    Accounted size started (q.giveBack slot back) where
  toStaffed :=
    { h.toStaffed.setSlot hlends.slots hlends.nextWorker_le (h.slot_lt hslot) hback with }
  idle := by
    show (q.idle ++ [slot]).Perm _
    rw [hlends.idle]
    -- the slot has moved to the end of the queue
    exact (List.perm_append_comm.trans (List.perm_cons_erase hslot).symm).trans h.idle
  slots := by
    show (q.slots.set slot back).length = size
    rw [List.length_set, hlends.slots, h.slots]
  balance := hlends.balance
  vacant hdown := by
    have hdown : q.isShutDown = true := hdown
    rw [hlends.isShutDown, hup] at hdown
    cases hdown

/-- A worker that a slot has fits in it, and to have it is all that happens to the pool. -/
theorem employs (h : Accounted size started p) {g : Handle σ}
    (hemploys : Employs host (p.checkout slot) slot g q) :
    Lends p slot started q ∧ Fits q slot g := by
  cases hemploys with
  | kept hslot =>
    refine ⟨⟨rfl, rfl, Nat.le_refl _, h.balance, rfl⟩, h.inStep slot g hslot,
      h.numbered slot g hslot, fun i g' hi hg' hid ↦ ?_⟩
    exact hi (h.distinct i slot g' g hg' hslot hid)
  | @started process world hslot hstart =>
    refine ⟨⟨rfl, rfl, Nat.le_succ _, ?_, rfl⟩, h.fits_new (by rfl) (by exact Nat.lt_succ_self _) _⟩
    show p.spawned + 1 = p.respawned + 1 + started
    have hbalance := h.balance
    omega

/-- Not to get a worker uses up a number. -/
theorem lends_unstarted (h : Accounted size started p) (world : ω) :
    Lends p slot started { p.checkout slot with nextWorker := p.nextWorker + 1, world } :=
  ⟨rfl, rfl, Nat.le_succ _, h.balance, rfl⟩

/-- **An attempt keeps the books right.** -/
theorem attemptsIn (h : Accounted size started p) (hup : p.isShutDown = false)
    (hslot : slot ∈ p.idle) {file : SourceFile} {a : Attempt}
    (hattempts : AttemptsIn host p slot file a q) : Accounted size started q := by
  cases hattempts with
  | unstarted _ _ =>
    refine h.giveBack hup hslot (h.lends_unstarted _) ?_
    rintro g ⟨⟩
  | answered hemploys _ _ =>
    obtain ⟨hlends, hfits⟩ := h.employs hemploys
    refine h.giveBack hup hslot (hlends.withWorld _) ?_
    rintro g ⟨⟩
    exact ⟨rfl, hfits.numbered, hfits.distinct⟩
  | failed hemploys _ _ =>
    obtain ⟨hlends, -⟩ := h.employs hemploys
    refine h.giveBack hup hslot (hlends.withWorld _) ?_
    rintro g ⟨⟩

theorem conclude (h : Accounted size started p) (file : SourceFile) (o : Wire.Outcome) :
    Accounted size started (p.conclude file o).2 := by
  cases o <;> exact { h with }

/-- **Parsing a file keeps the books right.** -/
theorem parses (h : Accounted size started p) {file : SourceFile} {outcome : ParseOutcome}
    (hparses : Parses host p file outcome q) : Accounted size started q := by
  cases hparses with
  | shutDown _ => exact h
  | remembered _ _ => exact { h with }
  | answered hup hslot hfirst => exact (h.attemptsIn hup hslot hfirst).conclude _ _
  | retried hup hslot hfirst hslot' hsecond =>
    have hq := h.attemptsIn hup hslot hfirst
    exact (hq.attemptsIn (hfirst.isShutDown.trans hup) hslot' hsecond).conclude _ _
  | failed hup hslot hfirst hslot' hsecond =>
    have hq := h.attemptsIn hup hslot hfirst
    exact hq.attemptsIn (hfirst.isShutDown.trans hup) hslot' hsecond

/-- **Shutting down keeps the books right**, and clears all slots. -/
theorem shutdown (h : Accounted size started p) (host : Host σ ω) :
    Accounted size started (p.shutdown host).2 := by
  by_cases hdown : p.isShutDown = true
  · rw [shutdown_of_isShutDown hdown]
    exact h
  have hup : p.isShutDown = false := by simpa using hdown
  have hvacant := slot?_shutdown host hup
  refine ⟨.of_vacant hvacant, ?_, ?_, ?_, fun _ ↦ hvacant⟩
  · rw [shutdown_of_running host hup]
    exact h.idle
  · rw [shutdown_of_running host hup]
    exact (List.length_map _).trans h.slots
  · rw [shutdown_of_running host hup]
    exact h.balance

/-- **A step keeps the books right.** -/
theorem after (h : Accounted size started p) (hsize : size ≠ 0) (host : Host σ ω) (step : Step) :
    Accounted size started (p.after host step) := by
  cases step with
  | parse file => exact h.parses (parses_parse host file (h.idle_ne_nil hsize))
  | shutdown => exact h.shutdown host

/-- **Any number of steps keeps the books right.** -/
theorem run (h : Accounted size started p) (hsize : size ≠ 0) (host : Host σ ω)
    (steps : List Step) : Accounted size started (p.run host steps) := by
  induction steps generalizing p with
  | nil => exact h
  | cons step rest ih => exact ih (h.after hsize host step)

end Accounted

/-! ### Starting -/

/-- Whether a pool that is being started has its books right, with every worker so far in a slot. -/
structure Starting (size : Nat) (p : State σ ω) : Prop extends Accounted size p.spawned p where
  isShutDown : p.isShutDown = false
  spawned_eq : p.spawned = p.slots.countP (·.isSome)

/-- A worker that is started can be put in a slot that is empty. -/
theorem Starting.setSlot (h : Starting size p) (hslot : slot < size) (hempty : p.slot? slot = none)
    (process : σ) (world : ω) :
    Starting size
      ({ p with nextWorker := p.nextWorker + 1, spawned := p.spawned + 1, world }.setSlot slot
        (some { id := p.nextWorker, process })) where
  toStaffed := by
    refine h.toStaffed.setSlot (by rfl) (by exact Nat.le_succ _) (by rwa [h.slots]) ?_
    rintro g ⟨⟩
    exact h.fits_new (by rfl) (by exact Nat.lt_succ_self _) process
  idle := h.idle
  slots := (List.length_set ..).trans h.slots
  balance := by
    show p.spawned + 1 = p.respawned + (p.spawned + 1)
    have hbalance := h.balance
    omega
  vacant hdown := absurd (h.isShutDown.symm.trans hdown) Bool.false_ne_true
  isShutDown := h.isShutDown
  spawned_eq := by
    have hlength : slot < p.slots.length := by rwa [h.slots]
    have hnone : p.slots[slot] = none := by
      rwa [slot?, List.getElem?_eq_getElem hlength] at hempty
    show p.spawned + 1 = (p.slots.set slot (some _)).countP (·.isSome)
    rw [List.countP_set hlength, hnone, ← h.spawned_eq]
    rfl

/-- **Filling slots keeps the books right**, whichever workers can be started. -/
theorem Starting.fill (h : Starting size p) (host : Host σ ω) {slots : List Nat}
    (hnodup : slots.Nodup) (hslots : ∀ slot ∈ slots, slot < size ∧ p.slot? slot = none) :
    Starting size (p.fill host slots).2 := by
  induction slots generalizing p with
  | nil => exact h
  | cons slot rest ih =>
    obtain ⟨hfresh, hnodup⟩ := List.nodup_cons.1 hnodup
    obtain ⟨⟨hslot, hempty⟩, hrest⟩ := List.forall_mem_cons.1 hslots
    rw [State.fill, spawn]
    rcases host.start p.options.command p.world with ⟨reason | process, world⟩
    · refine ih ?_ hnodup hrest
      exact { h with numbered := fun slot g hg ↦ Nat.lt_succ_of_lt (h.numbered slot g hg) }
    · refine ih (h.setSlot hslot hempty process world) hnodup fun other hother ↦ ?_
      have hne : slot ≠ other := fun heq ↦ hfresh (heq ▸ hother)
      rw [slot?_setSlot_ne hne]
      exact hrest other hother

/-- A pool without workers has its books right, before any is started. -/
theorem starting_blank (options : Options) (world : ω) :
    Starting options.size (blank options world : State σ ω) where
  toStaffed := .of_vacant (slot?_blank options world)
  idle := .refl _
  slots := (List.length_map _).trans List.length_range
  balance := rfl
  vacant _ := slot?_blank options world
  isShutDown := rfl
  spawned_eq := by
    symm
    rw [blank, List.countP_eq_zero]
    rintro _ hmem
    obtain ⟨slot, -, rfl⟩ := List.mem_map.1 hmem
    exact Bool.false_ne_true

/-- **A pool starts with its books right.** -/
theorem starting_of_start {options : Options} {world w : ω}
    (hstart : start host options world = (.ok p, w)) : Starting options.size p := by
  obtain ⟨-, rfl⟩ := eq_fill_of_start hstart
  refine (starting_blank options world).fill host List.nodup_range fun slot hslot ↦ ?_
  exact ⟨List.mem_range.1 hslot, slot?_blank options world slot⟩

/-! ### Runs -/

/-- A pool is shut down by the step that shuts it down. -/
theorem isShutDown_after (hidle : p.idle ≠ []) (host : Host σ ω) (step : Step) :
    (p.after host step).isShutDown = true ↔ p.isShutDown = true ∨ step = .shutdown := by
  cases step with
  | parse file =>
    have hsame : (p.parse host file).2.isShutDown = p.isShutDown :=
      (parses_parse host file hidle).isShutDown
    simp [after, hsame]
  | shutdown => simp [after, isShutDown_shutdown]

/-- A pool is shut down after a run just if it was before, or if some step does so. -/
theorem Accounted.isShutDown_run (h : Accounted size started p) (hsize : size ≠ 0)
    (host : Host σ ω) (steps : List Step) :
    (p.run host steps).isShutDown = true ↔ p.isShutDown = true ∨ .shutdown ∈ steps := by
  induction steps generalizing p with
  | nil => simp [State.run]
  | cons step rest ih =>
    rw [List.mem_cons, ← or_assoc, eq_comm (a := Step.shutdown),
      ← isShutDown_after (h.idle_ne_nil hsize) host step]
    exact ih (h.after hsize host step)

/-! ### How far the counts go -/

/-- Whether none of the counts of a pool is further than `n` beyond that of another one. -/
structure CountsWithin (n : Nat) (p q : State σ ω) : Prop where
  nextWorker : q.nextWorker ≤ p.nextWorker + n
  spawned : q.spawned ≤ p.spawned + n
  respawned : q.respawned ≤ p.respawned + n
  memoHits : q.memoHits ≤ p.memoHits + n

namespace CountsWithin

variable {r : State σ ω} {n m : Nat}

theorem refl (p : State σ ω) : CountsWithin 0 p p :=
  ⟨Nat.le_refl _, Nat.le_refl _, Nat.le_refl _, Nat.le_refl _⟩

theorem trans (h : CountsWithin n p q) (h' : CountsWithin m q r) : CountsWithin (n + m) p r := by
  obtain ⟨hnext, hspawned, hrespawned, hhits⟩ := h
  obtain ⟨hnext', hspawned', hrespawned', hhits'⟩ := h'
  constructor <;> omega

theorem mono (h : CountsWithin n p q) (hle : n ≤ m) : CountsWithin m p q where
  nextWorker := Nat.le_trans h.nextWorker (Nat.add_le_add_left hle _)
  spawned := Nat.le_trans h.spawned (Nat.add_le_add_left hle _)
  respawned := Nat.le_trans h.respawned (Nat.add_le_add_left hle _)
  memoHits := Nat.le_trans h.memoHits (Nat.add_le_add_left hle _)

end CountsWithin

theorem Employs.countsWithin {h : Handle σ} (hemploys : Employs host p slot h q) :
    CountsWithin 1 p q := by
  cases hemploys with
  | kept _ => exact (CountsWithin.refl p).mono (Nat.zero_le 1)
  | started _ _ => exact ⟨Nat.le_refl _, Nat.le_refl _, Nat.le_refl _, Nat.le_succ _⟩

/-- **An attempt counts one worker at most.** -/
theorem AttemptsIn.countsWithin {file : SourceFile} {a : Attempt}
    (h : AttemptsIn host p slot file a q) : CountsWithin 1 p q := by
  cases h with
  | unstarted _ _ => exact ⟨Nat.le_refl _, Nat.le_succ _, Nat.le_succ _, Nat.le_succ _⟩
  | answered hemploys _ _ => exact { hemploys.countsWithin with }
  | failed hemploys _ _ => exact { hemploys.countsWithin with }

theorem countsWithin_conclude (p : State σ ω) (file : SourceFile) (o : Wire.Outcome) :
    CountsWithin 0 p (p.conclude file o).2 := by
  cases o <;> exact { CountsWithin.refl p with }

/-- Parsing a file counts two workers at most, one for each try, and one hit. -/
theorem Parses.countsWithin {file : SourceFile} {outcome : ParseOutcome}
    (h : Parses host p file outcome q) : CountsWithin 2 p q := by
  cases h with
  | shutDown _ => exact (CountsWithin.refl p).mono (Nat.zero_le 2)
  | remembered _ _ =>
    exact ⟨Nat.le_add_right _ _, Nat.le_add_right _ _, Nat.le_add_right _ _, Nat.le_succ _⟩
  | answered _ _ hfirst =>
    exact (hfirst.countsWithin.trans (countsWithin_conclude _ _ _)).mono (Nat.le_succ 1)
  | retried _ _ hfirst _ hsecond =>
    exact (hfirst.countsWithin.trans hsecond.countsWithin).trans (countsWithin_conclude _ _ _)
  | failed _ _ hfirst _ hsecond => exact hfirst.countsWithin.trans hsecond.countsWithin

theorem countsWithin_shutdown (host : Host σ ω) (p : State σ ω) :
    CountsWithin 0 p (p.shutdown host).2 := by
  rw [shutdown]
  split <;> exact { CountsWithin.refl p with }

/-- **A run counts two workers at most for each step.** -/
theorem Accounted.countsWithin_run (h : Accounted size started p) (hsize : size ≠ 0)
    (host : Host σ ω) (steps : List Step) :
    CountsWithin (2 * steps.length) p (p.run host steps) := by
  induction steps generalizing p with
  | nil => exact .refl p
  | cons step rest ih =>
    have hstep : CountsWithin 2 p (p.after host step) := by
      cases step with
      | parse file => exact (parses_parse host file (h.idle_ne_nil hsize)).countsWithin
      | shutdown => exact (countsWithin_shutdown host p).mono (Nat.zero_le 2)
    refine (hstep.trans (ih (h.after hsize host step))).mono (Nat.le_of_eq ?_)
    rw [List.length_cons, Nat.mul_succ, Nat.add_comm]

/-- Filling slots counts one worker at most for each. -/
theorem countsWithin_fill (host : Host σ ω) (p : State σ ω) (slots : List Nat) :
    CountsWithin slots.length p (p.fill host slots).2 := by
  induction slots generalizing p with
  | nil => exact .refl p
  | cons slot rest ih =>
    rw [List.length_cons, Nat.add_comm, fill, spawn]
    rcases host.start p.options.command p.world with ⟨reason | process, world⟩
    · have hone : CountsWithin 1 p { p with nextWorker := p.nextWorker + 1, world } :=
        ⟨Nat.le_refl _, Nat.le_succ _, Nat.le_succ _, Nat.le_succ _⟩
      exact hone.trans (ih _)
    · have hone : CountsWithin 1 p ({ p with
          nextWorker := p.nextWorker + 1, spawned := p.spawned + 1, world }.setSlot slot
            (some { id := p.nextWorker, process })) :=
        ⟨Nat.le_refl _, Nat.le_refl _, Nat.le_succ _, Nat.le_succ _⟩
      exact hone.trans (ih _)

/-- **The counts of a pool fit in 64 bits**, as long as it has not been asked for some `2 ^ 63`
files. So it makes no difference that they are numbers without bound here. -/
theorem counts_run_lt {options : Options} {world w : ω}
    (hstart : start host options world = (.ok p, w)) (steps : List Step)
    (hfew : options.size + 2 * steps.length + 1 < Nat.pow 2 64) :
    (p.run host steps).nextWorker < Nat.pow 2 64 ∧ (p.run host steps).spawned < Nat.pow 2 64 ∧
      (p.run host steps).respawned < Nat.pow 2 64 ∧ (p.run host steps).memoHits < Nat.pow 2 64 := by
  obtain ⟨hsize, hp⟩ := eq_fill_of_start hstart
  have hfill := countsWithin_fill host (blank options world) (List.range options.size)
  rw [List.length_range, ← hp] at hfill
  have hbooks : Accounted options.size p.spawned p := (starting_of_start hstart).toAccounted
  obtain ⟨hnext, hspawned, hrespawned, hhits⟩ :=
    hfill.trans (hbooks.countsWithin_run hsize host steps)
  simp only [blank] at hnext hspawned hrespawned hhits
  omega

end State

end JavaDeps.Pool
