import JavaDeps.Files.Tree
import JavaDeps.Pool.Handle
import JavaDeps.Worker.Reference

/-!
# Reference workers as processes

A host that knows the reference worker by some names, and leaves all other programs to another host.
**A reference worker does nothing until it is looked at**: it reads what it is sent all at once, and
takes no time for it.
-/

namespace JavaDeps.Worker

variable {σ ω : Type}

/-- A process: the reference worker, with what it has written and nobody has read, or a process of
another kind. -/
inductive Instance (σ : Type) where
  /-- The reference worker, with the lines that it wrote and nobody has read. -/
  | reference (hasEnded : Bool) (unread : List String)
  | other (process : σ)
  deriving DecidableEq

/-- Starts a process: the reference worker if the program has one of its names. -/
def startInstance (names : List String) (others : Pool.Host σ ω) (c : Command) (w : ω) :
    Except String (Instance σ) × ω :=
  if names.contains c.program then (.ok (.reference false []), w)
  else
    let (started, w) := others.start c w
    (started.map .other, w)

/-- Sends a line to the reference worker, and waits for one. The worker reads all that it is sent,
and what it writes queues up behind what nobody has read. -/
def exchangeReference (others : Pool.Host σ ω) (limit : Duration) (line : String) (hasEnded : Bool)
    (unread : List String) (w : ω) : Pool.Received × Instance σ × ω :=
  if hasEnded then (.closed, .reference true unread, w)
  else
    let t := run (line ++ "\n")
    let hasEnded := t.exitCode != 0
    match unread ++ Text.lines t.output with
    | answer :: unread => (.line answer, .reference hasEnded unread, w)
    | [] =>
      if hasEnded then (.closed, .reference true [], w)
      else (.silence, .reference false [], others.setClock (others.clock w + limit.millis) w)

/-- Sends a line to a process, and waits for one. -/
def exchange (others : Pool.Host σ ω) (limit : Duration) (line : String) (p : Instance σ) (w : ω) :
    Pool.Received × Instance σ × ω :=
  match p with
  | .reference hasEnded unread => exchangeReference others limit line hasEnded unread w
  | .other process =>
    let (received, process, w) := others.exchange limit line process w
    (received, .other process, w)

/-- Closes what a process reads from, and tells whether it ends in time. The reference worker does,
unless there is no time at all. -/
def instanceExits (others : Pool.Host σ ω) (grace : Duration) (p : Instance σ) (w : ω) : Bool × ω :=
  match p with
  | .reference hasEnded _ => (hasEnded || grace.millis != 0, w)
  | .other process => others.exits grace process w

/-- The host of reference workers, beside the processes of another host. A program with one of the
given names is the reference worker, and all others are left to the other host. -/
def host (names : List String) (others : Pool.Host σ ω) : Pool.Host (Instance σ) ω where
  start := startInstance names others
  exchange := exchange others
  exits := instanceExits others
  clock := others.clock
  setClock := others.setClock
  setClock_clock := others.setClock_clock

/-- A host without any programs. -/
def noPrograms (ω : Type) : Pool.Host Empty ω where
  start c w := (.error (c.text ++ ": " ++ Files.Fault.missing.message), w)
  exchange _ _ process _ := nomatch process
  exits _ process _ := nomatch process

end JavaDeps.Worker
