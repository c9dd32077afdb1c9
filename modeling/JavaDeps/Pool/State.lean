import JavaDeps.Pool.Handle
import JavaDeps.Pool.Options
import JavaDeps.Source.Parser

/-!
# Pools of workers

A pool has a fixed number of slots, each with a worker or without one. A request takes the slot that
has been idle longest, and starts a worker in it if it is empty. **A worker that fails is never used
again**: its slot is left empty. Facts are kept by the stamps of files, so that no contents are
parsed twice. A file whose worker fails is tried once more, in another slot if there is one.

Here files are parsed one after another. Files that are parsed at the same time are the subject of
`JavaDeps.Pool.Crowd`.
-/

namespace JavaDeps.Pool

open Java (Facts)
open Wire (Outcome)

/-- A pool of workers, and the world that its workers live in.

Workers and hits are counted without bound, and requests are numbered in 64 bits. The counts grow by
two for each file at most, so that they would fit in 64 bits, too, for as long as less than `2 ^ 62`
files are parsed in a pool with less than `2 ^ 62` slots (`State.counts_run_lt`). -/
structure State (σ ω : Type) where
  options : Options
  /-- The slots that no request uses, the one idle longest first. -/
  idle : List Nat
  slots : List (Option (Handle σ))
  /-- The facts of files that were parsed, by their stamps. -/
  memo : List (Stamp × Facts) := []
  isShutDown : Bool := false
  nextWorker : Nat := 1
  nextRequest : Nat := 1
  /-- The number of workers started. -/
  spawned : Nat := 0
  /-- The number of workers started in place of others. -/
  respawned : Nat := 0
  memoHits : Nat := 0
  world : ω

variable {σ ω : Type}

namespace State

/-! ### Starting workers -/

/-- Starts a worker, with a number that no worker had before. The number is used up even if the
worker cannot be started. -/
def spawn (host : Host σ ω) (p : State σ ω) : Except WorkerFailure (Handle σ) × State σ ω :=
  let id := p.nextWorker
  let (started, world) := host.start p.options.command p.world
  let p := { p with nextWorker := id + 1, world }
  match started with
  | .ok process => (.ok { id, process }, { p with spawned := p.spawned + 1 })
  | .error reason => (.error (.spawn reason), p)

/-- Sets what is in a slot. -/
def setSlot (p : State σ ω) (slot : Nat) (h : Option (Handle σ)) : State σ ω :=
  { p with slots := p.slots.set slot h }

/-- What is in a slot. -/
def slot? (p : State σ ω) (slot : Nat) : Option (Handle σ) := (p.slots[slot]?).join

/-- Starts a worker in each of some slots, and returns the last failure. -/
def fill (host : Host σ ω) (p : State σ ω) : List Nat → Option WorkerFailure × State σ ω
  | [] => (none, p)
  | slot :: rest =>
    match p.spawn host with
    | (.ok h, p) => (p.setSlot slot (some h)).fill host rest
    | (.error failure, p) =>
      let (later, p) := p.fill host rest
      (later.or (some failure), p)

/-- Starts a pool with all slots filled as far as workers can be started. It must have a worker at
least; otherwise the last failure is the reason that is given. -/
def start (host : Host σ ω) (options : Options) (world : ω) :
    Except ParseFailure (State σ ω) × ω :=
  match options.fault? with
  | some fault => (.error (.invalidConfig fault), world)
  | none =>
    let slots := List.range options.size
    let empty := { options, idle := slots, slots := slots.map fun _ ↦ none, world }
    let (failure, p) := fill host empty slots
    if p.spawned = 0 then
      let reason := failure.elim "no workers requested" WorkerFailure.message
      (.error (.noWorkers options.command.text reason), p.world)
    else (.ok p, p.world)

/-! ### One attempt -/

/-- What one attempt comes to: an outcome from a worker, or a failure in a slot, or nothing, if
there is no slot to make it in. -/
inductive Attempt where
  | answered (outcome : Outcome)
  | failed (slot : Nat) (failure : WorkerFailure)
  /-- No slot is idle. -/
  | refused

/-- The first idle slot other than one to avoid, or the first at all. So a slot is used twice in a
row only if no other one is idle. -/
def chooseSlot? (avoid : Option Nat) (idle : List Nat) : Option Nat :=
  (idle.find? fun slot ↦ some slot != avoid).or idle.head?

theorem chooseSlot?_eq_none_iff {avoid : Option Nat} {idle : List Nat} :
    chooseSlot? avoid idle = none ↔ idle = [] := by
  cases idle <;> simp [chooseSlot?]

/-- Takes a slot out of the idle ones. Requests are numbered in 64 bits. -/
def checkout (p : State σ ω) (slot : Nat) : State σ ω :=
  { p with idle := p.idle.erase slot, nextRequest := (p.nextRequest + 1) % Nat.pow 2 64 }

/-- Puts a slot back behind all idle ones, with the worker that is in it now, if there is one. -/
def giveBack (p : State σ ω) (slot : Nat) (h : Option (Handle σ)) : State σ ω :=
  { p.setSlot slot h with idle := p.idle ++ [slot] }

/-- The worker of a slot, started now if there is none. -/
def workerFor (host : Host σ ω) (p : State σ ω) (slot : Nat) :
    Except WorkerFailure (Handle σ) × State σ ω :=
  match p.slot? slot with
  | some h => (.ok h, p)
  | none =>
    match p.spawn host with
    | (.ok h, p) => (.ok h, { p with respawned := p.respawned + 1 })
    | (.error failure, p) => (.error failure, p)

/-- Tries to have a file parsed in a slot, which is no longer idle meanwhile. The slot is left empty
if that fails, whatever the reason is. -/
def attemptIn (host : Host σ ω) (p : State σ ω) (slot : Nat) (file : SourceFile) :
    Attempt × State σ ω :=
  let id := p.nextRequest
  match (p.checkout slot).workerFor host slot with
  | (.error failure, p) => (.failed slot failure, p.giveBack slot none)
  | (.ok h, p) =>
    let (outcome, h, world) := h.request host p.options.requestTimeout id file p.world
    let p := { p with world }
    match outcome with
    | .ok outcome => (.answered outcome, p.giveBack slot (some h))
    | .error failure => (.failed slot failure, p.giveBack slot none)

/-- Tries to have a file parsed, in a slot other than one to avoid if possible. -/
def attempt (host : Host σ ω) (p : State σ ω) (avoid : Option Nat) (file : SourceFile) :
    Attempt × State σ ω :=
  match chooseSlot? avoid p.idle with
  | none => (.refused, p)
  | some slot => p.attemptIn host slot file

/-! ### Parsing -/

/-- The facts kept for a stamp. -/
def remembered? (p : State σ ω) (stamp : Stamp) : Option Facts := p.memo.lookup stamp

/-- Takes in an answer. Facts are kept under the stamp of the file; a refusal is not kept, so that
the file is asked for again the next time. -/
def conclude (p : State σ ω) (file : SourceFile) : Outcome → ParseOutcome × State σ ω
  | .ok facts => (.ok facts, { p with memo := (file.stamp, facts) :: p.memo })
  | .error message => (.error (.refused file.path message), p)

/-- How far parsing a file has come after its first attempt: it is done, or else there is a slot to
avoid and a failure to report beside the next one. -/
inductive Progress where
  | done (outcome : ParseOutcome)
  /-- The first attempt failed, in a slot. -/
  | retry (slot : Nat) (first : WorkerFailure)

/-- Looks for facts that are kept, or else makes the first attempt. A pool that was shut down does
neither. -/
def first (host : Host σ ω) (p : State σ ω) (file : SourceFile) : Progress × State σ ω :=
  if p.isShutDown then (.done (.error .shutDown), p)
  else
    match p.remembered? file.stamp with
    | some facts => (.done (.ok facts), { p with memoHits := p.memoHits + 1 })
    | none =>
      match p.attempt host none file with
      | (.answered outcome, p) =>
        let (outcome, p) := p.conclude file outcome
        (.done outcome, p)
      | (.failed slot failure, p) => (.retry slot failure, p)
      | (.refused, p) => (.done (.error .shutDown), p)

/-- Makes the second attempt if the first failed, in another slot if one is idle. If it fails as
well, both failures are reported. -/
def second (host : Host σ ω) (p : State σ ω) (file : SourceFile) :
    Progress → ParseOutcome × State σ ω
  | .done outcome => (outcome, p)
  | .retry slot failure =>
    match p.attempt host (some slot) file with
    | (.answered outcome, p) => p.conclude file outcome
    | (.failed _ again, p) => (.error (.workersFailed file.path failure again), p)
    | (.refused, p) => (.error .shutDown, p)

/-- Parses a file: from the facts that are kept, or by one attempt, or by two. -/
def parse (host : Host σ ω) (p : State σ ω) (file : SourceFile) : ParseOutcome × State σ ω :=
  let (progress, p) := p.first host file
  p.second host file progress

/-! ### Shutting down -/

/-- What became of the workers of a pool that was shut down. -/
structure ShutdownReport where
  /-- Workers that exited in time. -/
  exited : Nat := 0
  /-- Workers that did not. -/
  killed : Nat := 0
  deriving DecidableEq, Repr

/-- Waits for workers to exit, one after another, each for the same time. Those that do not exit are
killed. -/
def awaitExits (host : Host σ ω) (grace : Duration) (world : ω) :
    List (Handle σ) → ShutdownReport × ω
  | [] => ({}, world)
  | h :: rest =>
    let (exited, world) := host.exits grace h.process world
    let (report, world) := awaitExits host grace world rest
    (if exited then { report with exited := report.exited + 1 }
      else { report with killed := report.killed + 1 }, world)

/-- Ends all workers, and empties their slots. Doing so again does nothing, and nothing that is
asked of the pool afterwards starts another worker. -/
def shutdown (host : Host σ ω) (p : State σ ω) : ShutdownReport × State σ ω :=
  if p.isShutDown then ({}, p)
  else
    let workers := p.slots.filterMap id
    let (report, world) := awaitExits host p.options.shutdownTimeout p.world workers
    (report, { p with isShutDown := true, slots := p.slots.map fun _ ↦ none, world })

end State

end JavaDeps.Pool
