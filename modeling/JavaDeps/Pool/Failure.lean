import JavaDeps.Duration
import JavaDeps.Path

/-!
# How parsing a file fails

A file may be refused by a parser that works, or a parser may fail on it. **Only the second is worth
another try**, so the two are told apart throughout.
-/

namespace JavaDeps.Pool

/-- Why a response is no answer to the request that was sent: it has another id, or says nothing, or
is no response in the first place. -/
inductive ProtocolFault where
  /-- The line is no response. -/
  | undecodable
  /-- The response answers another request. -/
  | wrongRequest (expected got : Nat)
  /-- The response carries both a result and an error, or neither. -/
  | noOutcome
  deriving DecidableEq, Repr

/-- The text of a protocol fault. -/
def ProtocolFault.message : ProtocolFault → String
  | .undecodable => "undecodable response"
  | .wrongRequest expected got =>
    "expected response " ++ toString expected ++ ", got " ++ toString got
  | .noOutcome => "response must carry exactly one of `result` or `error`"

/-- How one exchange with a worker fails, with the number of the worker if there was one. After any
of these the worker is not used again. -/
inductive WorkerFailure where
  | timeout (worker : Nat) (limit : Duration)
  | crashed (worker : Nat)
  | protocol (worker : Nat) (fault : ProtocolFault)
  | transfer (worker : Nat) (reason : String)
  | spawn (reason : String)
  deriving DecidableEq, Repr

namespace WorkerFailure

/-- The text of a failure. -/
def message : WorkerFailure → String
  | timeout worker limit => "worker " ++ toString worker ++ " did not respond within " ++ limit.text
  | crashed worker => "worker " ++ toString worker ++ " exited unexpectedly"
  | protocol worker fault =>
    "worker " ++ toString worker ++ " sent an invalid response: " ++ fault.message
  | transfer worker reason => "worker " ++ toString worker ++ " I/O error: " ++ reason
  | spawn reason => "worker could not be spawned: " ++ reason

/-- The worker that failed, if there was one. -/
def worker? : WorkerFailure → Option Nat
  | timeout worker _ | crashed worker | protocol worker _ | transfer worker _ => some worker
  | spawn _ => none

end WorkerFailure

/-- Why there is no result for a file, or no pool at all. A refusal tells about the file, and all
others tell about the pool. -/
inductive ParseFailure where
  /-- No worker could be started. -/
  | noWorkers (command reason : String)
  | invalidConfig (reason : String)
  /-- The file was refused. -/
  | refused (path : Path) (message : String)
  /-- Two workers failed one after the other. -/
  | workersFailed (path : Path) (first second : WorkerFailure)
  | shutDown
  deriving DecidableEq, Repr

namespace ParseFailure

/-- The text of a failure. -/
def message : ParseFailure → String
  | noWorkers command reason =>
    "no parser workers could be started with `" ++ command ++ "`: " ++ reason
  | invalidConfig reason => "invalid parser pool configuration: " ++ reason
  | refused path message => "failed to parse " ++ path.text ++ ": " ++ message
  | workersFailed path first second =>
    "parser workers failed on " ++ path.text ++ ": " ++ first.message ++ "; retry failed: "
      ++ second.message
  | shutDown => "parser pool has been shut down"

/-- Whether workers failed, rather than the file being refused. -/
def isWorkerFailure : ParseFailure → Bool
  | workersFailed .. => true
  | _ => false

end ParseFailure

end JavaDeps.Pool
