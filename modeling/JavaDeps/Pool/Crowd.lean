import JavaDeps.Pool.State

/-!
# Files that are parsed at the same time

A pool can be asked for many files at once. Each of these calls waits for a slot, has the slot on
loan while its request is under way, and gives it back; then it is done, or it waits for another
slot. **What one call does depends on the others only through the slots that are idle when it is its
turn.** A pool with the calls that were made on it is a `Crowd`, and calls may take turns in any
order.

`State.parseAll` is one such order: slots go to the calls in the order in which they started to
wait, and are given back in the order in which the responses come in.
-/

namespace JavaDeps.Pool

open Java (Facts)
open Wire (Outcome)

variable {σ ω : Type}

/-! ### Loans -/

/-- A slot that is out on loan, for a request that is under way in it. What comes of the request is
settled when it is sent, and is looked at when the slot is given back. -/
structure Loan (σ : Type) where
  slot : Nat
  /-- The worker that will be in the slot when it is given back; there is none if it fails. -/
  worker : Option (Handle σ)
  /-- What comes of the request. -/
  result : Except WorkerFailure Outcome
  /-- The time at which it comes. -/
  due : Nat

namespace State

/-- Sends the request for a file to the worker of a slot, and lends the slot until the response is
there. Meanwhile the slot is empty, and no time passes for the pool. -/
def lend (host : Host σ ω) (p : State σ ω) (slot : Nat) (file : SourceFile) :
    Loan σ × State σ ω :=
  let id := p.nextRequest
  let now := host.clock p.world
  match (p.checkout slot).workerFor host slot with
  | (.error failure, p) =>
    (⟨slot, none, .error failure, host.clock p.world⟩,
      { p.setSlot slot none with world := host.setClock now p.world })
  | (.ok h, p) =>
    let (result, h, world) := h.request host p.options.requestTimeout id file p.world
    (⟨slot, if result.isOk then some h else none, result, host.clock world⟩,
      { p.setSlot slot none with world := host.setClock now world })

/-- Takes a slot back, at the time at which the response is there. The worker goes back into the
slot, unless the pool was shut down in the meantime. -/
def takeBack (host : Host σ ω) (p : State σ ω) (loan : Loan σ) : State σ ω :=
  { p with world := host.setClock loan.due p.world }.giveBack loan.slot
    (if p.isShutDown then none else loan.worker)

end State

/-! ### Calls -/

/-- How far the call for a file has come. A call whose first attempt failed keeps the slot and the
failure of that attempt. -/
inductive Call (σ : Type) where
  /-- It waits for a slot, with its place in the line. -/
  | waiting (ticket : Nat) (failed? : Option (Nat × WorkerFailure))
  | underway (failed? : Option (Nat × WorkerFailure)) (loan : Loan σ)
  | done (outcome : ParseOutcome)

namespace Call

/-- The slot that a call has on loan. -/
def loan? : Call σ → Option (Loan σ)
  | underway _ loan => some loan
  | waiting .. | done _ => none

/-- The place of a call in the line. -/
def place? : Call σ → Option Nat
  | waiting ticket _ => some ticket
  | underway .. | done _ => none

/-- The outcome of a call. -/
def outcome? : Call σ → Option ParseOutcome
  | done outcome => some outcome
  | waiting .. | underway .. => none

/-- The number of turns that a call needs until it is done: two for each attempt, at most. -/
def turns : Call σ → Nat
  | waiting _ none => 4
  | underway none _ => 3
  | waiting _ (some _) => 2
  | underway (some _) _ => 1
  | done _ => 0

/-- The call for a file begins: with an answer if facts of the file are kept, and in the line
otherwise. -/
def begin (p : State σ ω) (ticket : Nat) (file : SourceFile) : Call σ × State σ ω :=
  if p.isShutDown then (.done (.error .shutDown), p)
  else
    match p.remembered? file.stamp with
    | some facts => (.done (.ok facts), { p with memoHits := p.memoHits + 1 })
    | none => (.waiting ticket none, p)

/-- A call that waits takes a slot, other than that of its first attempt if possible. If no slot is
idle it goes on waiting. -/
def board (host : Host σ ω) (p : State σ ω) (ticket : Nat) (file : SourceFile)
    (failed? : Option (Nat × WorkerFailure)) : Call σ × State σ ω :=
  if p.isShutDown then (.done (.error .shutDown), p)
  else
    match State.chooseSlot? (failed?.map (·.1)) p.idle with
    | none => (.waiting ticket failed?, p)
    | some slot =>
      let lent := p.lend host slot file
      (.underway failed? lent.1, lent.2)

/-- A call gives its slot back. It is done if the worker answered, or if this was the second
attempt; otherwise it waits again, at the end of the line. -/
def arrive (host : Host σ ω) (p : State σ ω) (ticket : Nat) (file : SourceFile)
    (failed? : Option (Nat × WorkerFailure)) (loan : Loan σ) : Call σ × State σ ω :=
  let p := p.takeBack host loan
  match loan.result, failed? with
  | .ok outcome, _ =>
    let concluded := p.conclude file outcome
    (.done concluded.1, concluded.2)
  | .error failure, none => (.waiting ticket (some (loan.slot, failure)), p)
  | .error failure, some (_, first) => (.done (.error (.workersFailed file.path first failure)), p)

/-- What a call does when it is its turn: it takes a slot if it waits for one, gives back the one
that it has, or does nothing if it is done. -/
def advance (host : Host σ ω) (p : State σ ω) (ticket : Nat) (file : SourceFile) :
    Call σ → Call σ × State σ ω
  | waiting place failed? => board host p place file failed?
  | underway failed? loan => arrive host p ticket file failed? loan
  | done outcome => (.done outcome, p)

/-- A call that takes a slot or gives up needs fewer turns from then on. -/
theorem turns_board_lt (host : Host σ ω) {p : State σ ω} (h : p.isShutDown = true ∨ p.idle ≠ [])
    (ticket : Nat) (file : SourceFile) (failed? : Option (Nat × WorkerFailure)) :
    (board host p ticket file failed?).1.turns < (waiting ticket failed? : Call σ).turns := by
  rw [board]
  split
  · cases failed? <;> simp [turns]
  next hup =>
    split
    · next hnone => exact absurd (State.chooseSlot?_eq_none_iff.1 hnone) (h.resolve_left hup)
    · cases failed? <;> simp [turns]

/-- A call that gives its slot back needs fewer turns from then on. -/
theorem turns_arrive_lt (host : Host σ ω) (p : State σ ω) (ticket : Nat) (file : SourceFile)
    (failed? : Option (Nat × WorkerFailure)) (loan : Loan σ) :
    (arrive host p ticket file failed? loan).1.turns < (underway failed? loan).turns := by
  rcases hresult : loan.result with failure | o <;> cases failed? <;> simp [arrive, hresult, turns]

end Call

/-! ### Crowds -/

/-- A pool with the calls that were made on it. Each call keeps the place in the list that it got
when it was made, and goes by this number. -/
structure Crowd (σ ω : Type) where
  pool : State σ ω
  /-- The calls, in the order in which they were made, and the files that they are for. -/
  calls : List (SourceFile × Call σ) := []
  /-- The next place in the line. -/
  ticket : Nat := 0

/-- What can happen in a crowd. Any sequence of moves is possible: nothing is said about whose turn
it should be. -/
inductive Move where
  /-- A call is made. -/
  | call (file : SourceFile)
  /-- It is the turn of a call. -/
  | turn (call : Nat)
  | shutdown
  deriving DecidableEq

namespace Crowd

/-- Makes a call. If it has to wait it joins the line at its end. -/
def make (c : Crowd σ ω) (file : SourceFile) : Crowd σ ω :=
  let (call, pool) := Call.begin c.pool c.ticket file
  { pool, calls := c.calls ++ [(file, call)], ticket := c.ticket + 1 }

/-- The turn of a call. If there is no such call nothing happens. -/
def turn (host : Host σ ω) (c : Crowd σ ω) (i : Nat) : Crowd σ ω :=
  match c.calls[i]? with
  | none => c
  | some (file, call) =>
    let (call, pool) := call.advance host c.pool c.ticket file
    { pool, calls := c.calls.set i (file, call), ticket := c.ticket + 1 }

/-- The crowd after a move. -/
def after (host : Host σ ω) (c : Crowd σ ω) : Move → Crowd σ ω
  | .call file => c.make file
  | .turn i => c.turn host i
  | .shutdown => { c with pool := (c.pool.shutdown host).2 }

/-- The crowd after moves, made one after another. -/
def run (host : Host σ ω) (c : Crowd σ ω) (moves : List Move) : Crowd σ ω :=
  moves.foldl (after host) c

/-! ### Taking turns -/

/-- The calls to which a key belongs, each by its number with its key. -/
def keyed (c : Crowd σ ω) (key? : Call σ → Option Nat) : List (Nat × Nat) :=
  c.calls.zipIdx.filterMap fun (entry, i) ↦ (key? entry.2).map (i, ·)

/-- Whether a call that waits has something to do: to take an idle slot, or to give up. -/
def isOpen (c : Crowd σ ω) : Bool := c.pool.isShutDown || !c.pool.idle.isEmpty

/-- Whose turn it is: that of the call at the head of the line if it need not wait, or else that of
the call whose response comes first. -/
def next? (c : Crowd σ ω) : Option Nat :=
  let head := if c.isOpen then (c.keyed Call.place?).minOn? (·.2) else none
  (head.or ((c.keyed fun call ↦ call.loan?.map (·.due)).minOn? (·.2))).map (·.1)

/-- The number of turns that all calls need until they are done. -/
def turnsLeft (c : Crowd σ ω) : Nat := c.calls.foldr (fun entry n ↦ entry.2.turns + n) 0

/-- A call with a number is for one file, and has come as far as it has. -/
theorem eq_of_getElem? {c : Crowd σ ω} {i : Nat} {file file' : SourceFile} {call call' : Call σ}
    (hcall : c.calls[i]? = some (file, call)) (hcall' : c.calls[i]? = some (file', call')) :
    file = file' ∧ call = call' :=
  Prod.mk.inj (Option.some.inj (hcall.symm.trans hcall'))

theorem exists_of_mem_keyed {c : Crowd σ ω} {key? : Call σ → Option Nat} {i key : Nat}
    (h : (i, key) ∈ c.keyed key?) :
    ∃ file call, c.calls[i]? = some (file, call) ∧ key? call = some key := by
  obtain ⟨⟨⟨file, call⟩, j⟩, hmem, hkey⟩ := List.mem_filterMap.1 h
  obtain ⟨_, hkey, hpair⟩ := Option.map_eq_some_iff.1 hkey
  cases hpair
  exact ⟨file, call, List.mem_zipIdx_iff_getElem?.1 hmem, hkey⟩

/-- Only a call that can do something has its turn. -/
theorem exists_of_next?_eq_some {c : Crowd σ ω} {i : Nat} (h : c.next? = some i) :
    ∃ file call, c.calls[i]? = some (file, call) ∧
      ((∃ failed? loan, call = .underway failed? loan) ∨
        c.isOpen = true ∧ ∃ ticket failed?, call = .waiting ticket failed?) := by
  obtain ⟨⟨i, key⟩, hnext, rfl⟩ := Option.map_eq_some_iff.1 h
  rcases Option.or_eq_some_iff.1 hnext with hhead | ⟨-, hfirst⟩
  · split at hhead
    · next hopen =>
      obtain ⟨file, call, hcall, hplace⟩ := exists_of_mem_keyed (List.minOn?_mem hhead)
      refine ⟨file, call, hcall, .inr ⟨hopen, ?_⟩⟩
      cases call <;> cases hplace
      exact ⟨_, _, rfl⟩
    · cases hhead
  · obtain ⟨file, call, hcall, hdue⟩ := exists_of_mem_keyed (List.minOn?_mem hfirst)
    refine ⟨file, call, hcall, .inl ?_⟩
    cases call <;> cases hdue
    exact ⟨_, _, rfl⟩

/-- A call that has its turn needs fewer turns from then on. -/
theorem turns_advance_lt (host : Host σ ω) {c : Crowd σ ω} {i : Nat} (h : c.next? = some i)
    {file : SourceFile} {call : Call σ} (hcall : c.calls[i]? = some (file, call)) :
    (call.advance host c.pool c.ticket file).1.turns < call.turns := by
  obtain ⟨file', call', hcall', hready⟩ := exists_of_next?_eq_some h
  obtain ⟨rfl, rfl⟩ := eq_of_getElem? hcall hcall'
  rcases hready with ⟨failed?, loan, rfl⟩ | ⟨hopen, place, failed?, rfl⟩
  · exact Call.turns_arrive_lt host c.pool c.ticket file failed? loan
  · refine Call.turns_board_lt host ?_ place file failed?
    simpa [isOpen] using hopen

/-- If one item of a list counts less, so does the list. -/
theorem foldr_add_set_lt {α : Type} (f : α → Nat) {l : List α} {i : Nat} {a b : α}
    (h : l[i]? = some a) (hlt : f b < f a) :
    (l.set i b).foldr (fun x n ↦ f x + n) 0 < l.foldr (fun x n ↦ f x + n) 0 := by
  induction l generalizing i with
  | nil => cases h
  | cons x l ih =>
    cases i with
    | zero =>
      obtain rfl := Option.some.inj h
      simpa using hlt
    | succ i =>
      have hrest := ih h
      simpa using hrest

theorem turnsLeft_turn_lt (host : Host σ ω) {c : Crowd σ ω} {i : Nat} (h : c.next? = some i) :
    (c.turn host i).turnsLeft < c.turnsLeft := by
  obtain ⟨file, call, hcall, -⟩ := exists_of_next?_eq_some h
  rw [turn, hcall]
  refine foldr_add_set_lt (fun entry ↦ entry.2.turns) hcall ?_
  exact turns_advance_lt host h hcall

/-- Lets calls have their turns until all of them are done. -/
def serve (host : Host σ ω) (c : Crowd σ ω) : Crowd σ ω :=
  match _ : c.next? with
  | none => c
  | some i => (c.turn host i).serve host
termination_by c.turnsLeft
decreasing_by exact turnsLeft_turn_lt host ‹_›

theorem serve_of_next?_eq_none (host : Host σ ω) {c : Crowd σ ω} (h : c.next? = none) :
    c.serve host = c := by
  rw [serve]
  split
  · rfl
  · next hsome =>
    rw [h] at hsome
    cases hsome

theorem serve_of_next?_eq_some (host : Host σ ω) {c : Crowd σ ω} {i : Nat} (h : c.next? = some i) :
    c.serve host = (c.turn host i).serve host := by
  rw [serve]
  split
  · next hnone =>
    rw [h] at hnone
    cases hnone
  · next hsome => rw [Option.some.inj (h.symm.trans hsome)]

/-- The outcomes of the calls. A call for which there is no slot in the whole pool has none of its
own. -/
def outcomes (c : Crowd σ ω) : List ParseOutcome :=
  c.calls.map fun entry ↦ entry.2.outcome?.getD (.error .shutDown)

end Crowd

/-- Parses files that are all handed in at once, one call for each, and returns the outcomes in the
order of the files. -/
def State.parseAll (host : Host σ ω) : Parser (State σ ω) := fun files p ↦
  let c := (files.foldl Crowd.make { pool := p }).serve host
  (c.outcomes, c.pool)

end JavaDeps.Pool
