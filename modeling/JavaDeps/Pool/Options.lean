import JavaDeps.Worker.Command

/-!
# Options of a pool

How many workers a pool has, how they are started, and how long it waits for them.
-/

namespace JavaDeps.Pool

/-- How many workers a pool has on a machine with so many cores, unless something else is asked for:
one for each core, but no more than eight. -/
def defaultSize (cores : Nat) : Nat := min cores 8

/-- The options of a pool: how many workers it has, how they are started, and how long it waits for
an answer and for an exit. -/
structure Options where
  command : Worker.Command
  /-- The number of workers. -/
  size : Nat
  /-- How long a worker may take for an answer. -/
  requestTimeout : Duration := ⟨10000⟩
  /-- How long a worker may take to exit. -/
  shutdownTimeout : Duration := ⟨2000⟩
  deriving DecidableEq, Repr

/-- Why a pool cannot have some options, if it cannot. -/
def Options.fault? (o : Options) : Option String :=
  if o.size = 0 then some "pool size must be at least 1"
  else if o.requestTimeout.millis = 0 then some "request timeout must be non-zero"
  else none

end JavaDeps.Pool
