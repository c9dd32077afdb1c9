import JavaDeps.Pool.Failure
import JavaDeps.Wire.Message
import JavaDeps.Worker.Command

/-!
# Workers as a pool sees them

A worker is a process that is sent lines and sends lines back. What processes do is left to a
`Host`, so that **what a pool guarantees holds whatever its workers do**.

A handle stands for one worker. It is in flight from the moment a request is sent until the response
to that request has been read; a handle that stays in flight is at an unknown place in what its
worker sends.
-/

namespace JavaDeps.Pool

open Wire (Outcome Request Response)

/-- What comes back for a line that was sent to a worker: a line, the end of what it sends,
something that cannot be read, or nothing in time. -/
inductive Received where
  | line (text : String)
  /-- The worker is gone. -/
  | closed
  /-- What came back cannot be read. -/
  | failed (reason : String)
  /-- Nothing came back in time. -/
  | silence
  deriving DecidableEq, Repr

/-- Processes of type `σ` in a world of type `ω`: how they are started, how lines are exchanged with
them, and how they end. The world may have a clock, which can be set: so one can wait for several
processes at once. -/
structure Host (σ ω : Type) where
  /-- Starts a process. -/
  start : Worker.Command → ω → Except String σ × ω
  /-- Sends a line and waits for one. -/
  exchange : Duration → String → σ → ω → Received × σ × ω
  /-- Closes what a process reads from, waits for it, and tells whether it exited in time. -/
  exits : Duration → σ → ω → Bool × ω
  /-- The time. -/
  clock : ω → Nat := fun _ ↦ 0
  /-- The world at another time. -/
  setClock : Nat → ω → ω := fun _ w ↦ w
  /-- Setting the clock changes nothing else. -/
  setClock_clock : ∀ t w, setClock (clock w) (setClock t w) = w := by intros; rfl

/-- A worker in a pool: its number, its process, whether it may be out of step with what it was
asked, and how many requests it has answered. -/
structure Handle (σ : Type) where
  /-- The number of the worker; no two workers of a pool have the same. -/
  id : Nat
  process : σ
  inFlight : Bool := false
  /-- The number of requests that were answered. -/
  served : Nat := 0

/-- What is made of a line that came back for a request. The flag says whether the handle is out of
step. -/
def readReply (worker request : Nat) (line : String) : Except WorkerFailure Outcome × Bool :=
  match Response.parse line with
  | .error _ => (.error (.protocol worker .undecodable), false)
  | .ok response =>
    if response.id = request then
      match response.outcome? with
      | some outcome => (.ok outcome, false)
      | none => (.error (.protocol worker .noOutcome), false)
    else (.error (.protocol worker (.wrongRequest request response.id)), true)

/-- What comes of sending a request. -/
def readReceived (limit : Duration) (worker request : Nat) :
    Received → Except WorkerFailure Outcome × Bool
  | .line text => readReply worker request text
  | .closed => (.error (.crashed worker), true)
  | .failed reason => (.error (.transfer worker reason), true)
  | .silence => (.error (.timeout worker limit), true)

/-- Sends the request for a file, and waits for the response. The handle stays in flight if what
came back is not known to be this response. -/
def Handle.request {σ ω : Type} (host : Host σ ω) (limit : Duration) (h : Handle σ) (id : Nat)
    (file : SourceFile) (w : ω) : Except WorkerFailure Outcome × Handle σ × ω :=
  let (received, process, w) := host.exchange limit (Request.ofFile id file).line h.process w
  let (outcome, inFlight) := readReceived limit h.id id received
  let served := if outcome.toOption.isSome then h.served + 1 else h.served
  (outcome, { h with process, inFlight, served }, w)

end JavaDeps.Pool
