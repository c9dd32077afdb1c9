import JavaDeps.Proofs.Pool.Steps

/-!
# Transcripts of a pool

To speak of what the workers of a pool were asked and what they sent back, one watches the host that
they live on. `Host.recorded` is a host with a transcript of all exchanges, in which processes are
numbered as they are started. **A pool does not notice** (`plain_run`): it sees of a host only what
the host answers (`Host.Forgets`), and recording changes no answer.
-/

namespace JavaDeps.Pool

variable {σ τ ω υ : Type}

/-! ### Hosts that look alike -/

/-- Whether a host answers as another one does, which knows less of its processes and of the
world. -/
structure Host.Forgets (host : Host σ ω) (coarse : Host τ υ) (f : σ → τ) (g : ω → υ) : Prop where
  start : ∀ command w, coarse.start command (g w) =
    ((host.start command w).1.map f, g (host.start command w).2)
  exchange : ∀ limit line s w, coarse.exchange limit line (f s) (g w) =
    ((host.exchange limit line s w).1, f (host.exchange limit line s w).2.1,
      g (host.exchange limit line s w).2.2)
  exits : ∀ grace s w, coarse.exits grace (f s) (g w) =
    ((host.exits grace s w).1, g (host.exits grace s w).2)

/-- A handle, with less known of its process. -/
def Handle.map (f : σ → τ) (h : Handle σ) : Handle τ :=
  ⟨h.id, f h.process, h.inFlight, h.served⟩

namespace State

/-- A pool, with less known of its processes and of the world. -/
def map (f : σ → τ) (g : ω → υ) (p : State σ ω) : State τ υ where
  options := p.options
  idle := p.idle
  slots := p.slots.map (Option.map (Handle.map f))
  memo := p.memo
  isShutDown := p.isShutDown
  nextWorker := p.nextWorker
  nextRequest := p.nextRequest
  spawned := p.spawned
  respawned := p.respawned
  memoHits := p.memoHits
  world := g p.world

variable {f : σ → τ} {g : ω → υ} (p : State σ ω)

theorem slot?_map (slot : Nat) : (p.map f g).slot? slot = (p.slot? slot).map (Handle.map f) := by
  rw [slot?, slot?, map, List.getElem?_map]
  cases p.slots[slot]? <;> rfl

theorem setSlot_map (slot : Nat) (h : Option (Handle σ)) :
    (p.map f g).setSlot slot (h.map (Handle.map f)) = (p.setSlot slot h).map f g := by
  simp only [setSlot, map, List.map_set]

theorem giveBack_map (slot : Nat) (h : Option (Handle σ)) :
    (p.map f g).giveBack slot (h.map (Handle.map f)) = (p.giveBack slot h).map f g := by
  rw [giveBack, setSlot_map]
  rfl

theorem conclude_map (file : SourceFile) (o : Wire.Outcome) :
    (p.map f g).conclude file o = ((p.conclude file o).1, (p.conclude file o).2.map f g) := by
  cases o <;> rfl

section

variable {host : Host σ ω} {coarse : Host τ υ} (hforgets : host.Forgets coarse f g)

include hforgets

theorem spawn_map : (p.map f g).spawn coarse =
    ((p.spawn host).1.map (Handle.map f), (p.spawn host).2.map f g) := by
  have hstart : coarse.start (p.map f g).options.command (p.map f g).world =
      ((host.start p.options.command p.world).1.map f,
        g (host.start p.options.command p.world).2) := hforgets.start _ _
  rw [spawn, spawn, hstart]
  rcases host.start p.options.command p.world with ⟨reason | process, world⟩ <;> rfl

/-- Filling slots is seen through a coarser host as filling them. -/
theorem fill_map (slots : List Nat) : (p.map f g).fill coarse slots =
    ((p.fill host slots).1, (p.fill host slots).2.map f g) := by
  induction slots generalizing p with
  | nil => rfl
  | cons slot rest ih =>
    rw [fill, fill, spawn_map p hforgets]
    rcases p.spawn host with ⟨failure | h, q⟩
    · simp only [Except.map, ih q]
    · simp only [Except.map, ← ih (q.setSlot slot (some h)), ← setSlot_map]
      rfl

/-- To have a worker for a request is compatible with the map of pools. -/
theorem workerFor_map (slot : Nat) : (p.map f g).workerFor coarse slot =
    ((p.workerFor host slot).1.map (Handle.map f), (p.workerFor host slot).2.map f g) := by
  rw [workerFor, workerFor, slot?_map, spawn_map p hforgets]
  rcases p.slot? slot with - | h
  · rcases p.spawn host with ⟨failure | h, q⟩ <;> rfl
  · rfl

/-- A worker that is seen through a coarser host is asked the same, and answers the same. -/
theorem request_map (limit : Duration) (h : Handle σ) (id : Nat) (file : SourceFile) (w : ω) :
    (h.map f).request coarse limit id file (g w) =
      ((h.request host limit id file w).1, (h.request host limit id file w).2.1.map f,
        g (h.request host limit id file w).2.2) := by
  have hexchange := hforgets.exchange limit (Wire.Request.ofFile id file).line h.process w
  rw [Handle.request, Handle.request]
  simp only [Handle.map, hexchange]

/-- An attempt comes to the same through a coarser host. -/
theorem attemptIn_map (slot : Nat) (file : SourceFile) : (p.map f g).attemptIn coarse slot file =
    ((p.attemptIn host slot file).1, (p.attemptIn host slot file).2.map f g) := by
  have hworker : ((p.map f g).checkout slot).workerFor coarse slot =
      (((p.checkout slot).workerFor host slot).1.map (Handle.map f),
        ((p.checkout slot).workerFor host slot).2.map f g) :=
    workerFor_map (p.checkout slot) hforgets slot
  rw [attemptIn, attemptIn, hworker]
  rcases (p.checkout slot).workerFor host slot with ⟨failure | h, q⟩
  · exact congrArg _ (giveBack_map q slot none)
  · have hrequest : (h.map f).request coarse (q.map f g).options.requestTimeout
        (p.map f g).nextRequest file (q.map f g).world = _ :=
      request_map hforgets q.options.requestTimeout h p.nextRequest file q.world
    simp only [Except.map]
    rw [hrequest]
    rcases h.request host q.options.requestTimeout p.nextRequest file q.world with
      ⟨failure | o, h', world⟩
    · exact congrArg _ (giveBack_map { q with world } slot none)
    · exact congrArg _ (giveBack_map { q with world } slot (some h'))

theorem attempt_map (avoid : Option Nat) (file : SourceFile) :
    (p.map f g).attempt coarse avoid file =
      ((p.attempt host avoid file).1, (p.attempt host avoid file).2.map f g) := by
  have hchoose : chooseSlot? avoid (p.map f g).idle = chooseSlot? avoid p.idle := rfl
  rw [attempt, attempt, hchoose]
  rcases chooseSlot? avoid p.idle with - | slot
  · rfl
  · exact attemptIn_map p hforgets slot file

theorem first_map (file : SourceFile) : (p.map f g).first coarse file =
    ((p.first host file).1, (p.first host file).2.map f g) := by
  have hremembered : (p.map f g).remembered? file.stamp = p.remembered? file.stamp := rfl
  have hdown : (p.map f g).isShutDown = p.isShutDown := rfl
  rw [first, first, hremembered, hdown, attempt_map p hforgets]
  split
  · rfl
  rcases p.remembered? file.stamp with - | facts
  · rcases p.attempt host none file with ⟨o | ⟨slot, failure⟩ | -, q⟩
    · simp only [conclude_map]
    · rfl
    · rfl
  · rfl

theorem second_map (file : SourceFile) (progress : Progress) :
    (p.map f g).second coarse file progress =
      ((p.second host file progress).1, (p.second host file progress).2.map f g) := by
  cases progress with
  | done outcome => rfl
  | retry slot failure =>
    rw [second, second, attempt_map p hforgets]
    rcases p.attempt host (some slot) file with ⟨o | ⟨slot, failure⟩ | -, q⟩
    · simp only [conclude_map]
    · rfl
    · rfl

/-- **Parsing a file comes to the same** through a coarser host. -/
theorem parse_map (file : SourceFile) : (p.map f g).parse coarse file =
    ((p.parse host file).1, (p.parse host file).2.map f g) := by
  rw [parse, parse, first_map p hforgets]
  exact second_map _ hforgets file _

theorem awaitExits_map (grace : Duration) (w : ω) (handles : List (Handle σ)) :
    awaitExits coarse grace (g w) (handles.map (Handle.map f)) =
      ((awaitExits host grace w handles).1, g (awaitExits host grace w handles).2) := by
  induction handles generalizing w with
  | nil => rfl
  | cons h rest ih =>
    have hexits : coarse.exits grace (h.map f).process (g w) = _ := hforgets.exits grace h.process w
    rw [List.map_cons, awaitExits, awaitExits, hexits]
    simp only [ih]

/-- To shut a pool down is compatible with the map of pools. -/
theorem shutdown_map : (p.map f g).shutdown coarse =
    ((p.shutdown host).1, (p.shutdown host).2.map f g) := by
  have hworkers : (p.map f g).slots.filterMap id = (p.slots.filterMap id).map (Handle.map f) := by
    rw [map, List.filterMap_map, List.map_filterMap]
    rfl
  have hawait : awaitExits coarse (p.map f g).options.shutdownTimeout (p.map f g).world
      ((p.slots.filterMap id).map (Handle.map f)) = _ :=
    awaitExits_map hforgets p.options.shutdownTimeout p.world (p.slots.filterMap id)
  have hslots : (p.map f g).slots.map (fun _ ↦ (none : Option (Handle τ))) =
      (p.slots.map fun _ ↦ none).map (Option.map (Handle.map f)) := by
    rw [map, List.map_map, List.map_map]
    rfl
  rw [shutdown, shutdown]
  by_cases hdown : p.isShutDown = true
  · rw [if_pos hdown, if_pos (show (p.map f g).isShutDown = true from hdown)]
  · rw [if_neg hdown, if_neg (show ¬ (p.map f g).isShutDown = true from hdown)]
    dsimp only
    rw [hworkers, hawait, hslots]
    rfl

theorem after_map (step : Step) : (p.map f g).after coarse step = (p.after host step).map f g := by
  cases step with
  | parse file => exact congrArg Prod.snd (parse_map p hforgets file)
  | shutdown => exact congrArg Prod.snd (shutdown_map p hforgets)

/-- **A pool sees of a host only what the host answers.** -/
theorem run_map (steps : List Step) :
    (p.map f g).run coarse steps = (p.run host steps).map f g := by
  induction steps generalizing p with
  | nil => rfl
  | cons step rest ih =>
    rw [run, run, List.foldl_cons, List.foldl_cons, after_map p hforgets]
    exact ih (p.after host step)

/-- A pool starts alike through a coarser host, or fails alike. -/
theorem start_map (options : Options) (w : ω) : start coarse options (g w) =
    ((start host options w).1.map (map f g), g (start host options w).2) := by
  have hblank : blank options (g w) = (blank options w).map f g := by
    rw [blank, map, blank, List.map_map]
    rfl
  have hfill : (blank options (g w)).fill coarse (List.range options.size) = _ :=
    hblank ▸ fill_map (blank options w) hforgets (List.range options.size)
  rw [start, start]
  rcases options.fault? with - | fault
  · simp only [blank] at hfill ⊢
    rw [hfill]
    rcases fill host _ (List.range options.size) with ⟨failure, q⟩
    by_cases hspawned : q.spawned = 0
    · simp only [if_pos hspawned, if_pos (show (q.map f g).spawned = 0 from hspawned)]
      rfl
    · simp only [if_neg hspawned, if_neg (show ¬ (q.map f g).spawned = 0 from hspawned)]
      rfl
  · rfl

end

end State

/-! ### Recording -/

/-- A process with a number, by which the exchanges with it can be told from those with others. -/
structure Numbered (σ : Type) where
  number : Nat
  process : σ

/-- What a worker was sent, and what came back for it, with the number of the worker. -/
structure Exchange where
  worker : Nat
  sent : String
  received : Received
  deriving DecidableEq, Repr

/-- A world with a transcript: how many processes were to be started, and what was exchanged with
them. -/
structure Recorded (ω : Type) where
  world : ω
  /-- How often a process was to be started. -/
  launches : Nat := 0
  /-- All exchanges with processes, the first one first. -/
  exchanges : List Exchange := []

/-- A host that keeps a transcript, beside doing what another host does. Processes are numbered as
they are started. -/
def Host.recorded (host : Host σ ω) : Host (Numbered σ) (Recorded ω) where
  start command w :=
    let (started, world) := host.start command w.world
    (started.map (Numbered.mk (w.launches + 1)), { w with world, launches := w.launches + 1 })
  exchange limit line s w :=
    let (received, process, world) := host.exchange limit line s.process w.world
    (received, { s with process },
      { w with world, exchanges := w.exchanges ++ [⟨s.number, line, received⟩] })
  exits grace s w :=
    let (exited, world) := host.exits grace s.process w.world
    (exited, { w with world })
  clock w := host.clock w.world
  setClock time w := { w with world := host.setClock time w.world }
  setClock_clock time w := by rw [host.setClock_clock time w.world]

/-- A host that records exchanges is coarsened to one that does not by forgetting what it
recorded. -/
theorem Host.recorded_forgets (host : Host σ ω) :
    host.recorded.Forgets host Numbered.process Recorded.world where
  start command w := by
    have hforget : ∀ e : Except String σ,
        e = (e.map (Numbered.mk (w.launches + 1))).map Numbered.process := by
      rintro (reason | process) <;> rfl
    exact Prod.ext (hforget _) rfl
  exchange _ _ _ _ := rfl
  exits _ _ _ := rfl

namespace State

/-- A pool without the transcript of its host: the pool as it would be if nobody took notes. -/
def plain (p : State (Numbered σ) (Recorded ω)) : State σ ω := p.map Numbered.process Recorded.world

/-- A pool starts no differently on a host that keeps a transcript. -/
theorem exists_start_recorded {host : Host σ ω} {options : Options} {world w : ω} {p : State σ ω}
    (hstart : start host options world = (.ok p, w)) :
    ∃ r w', start host.recorded options { world } = (.ok r, w') ∧ r.plain = p := by
  have h := start_map host.recorded_forgets options { world }
  rw [hstart] at h
  rcases hr : start host.recorded options { world } with ⟨failure | r, w'⟩
  · rw [hr] at h
    cases h
  · rw [hr] at h
    exact ⟨r, w', rfl, (Except.ok.inj (Prod.mk.inj h).1).symm⟩

/-- **A pool does not notice that its host keeps a transcript.** -/
theorem plain_run (host : Host σ ω) (r : State (Numbered σ) (Recorded ω)) (steps : List Step) :
    (r.run host.recorded steps).plain = r.plain.run host steps :=
  (run_map r host.recorded_forgets steps).symm

theorem parse_recorded (host : Host σ ω) (r : State (Numbered σ) (Recorded ω)) (file : SourceFile) :
    (r.parse host.recorded file).1 = (r.plain.parse host file).1 :=
  (congrArg Prod.fst (parse_map r host.recorded_forgets file)).symm

end State

end JavaDeps.Pool
