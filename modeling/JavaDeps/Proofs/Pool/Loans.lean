import JavaDeps.Pool.Crowd
import JavaDeps.Proofs.Pool.Retry

/-!
# Attempts in two halves

A call that waits for its response holds a slot on loan, and others use the pool meanwhile. An
attempt that nobody watches is the same as a loan that is taken back at once (`takeBack_lend`). So a
file that is parsed alone fares as one that is parsed among no others (`parseAll_singleton`):
**`State.parse` is the crowd of one call**, and what holds for all crowds holds for it.

More is true, and that is what the theory of crowds rests on. The two halves of an attempt look at
one slot only, so that they come to the same in a pool that differs in the others
(`attemptIn_eq_lend`).
-/

namespace JavaDeps.Pool

open Wire (Outcome)

variable {σ ω : Type}

/-- The try that a loan is for. -/
def Loan.toTry (loan : Loan σ) : Try := ⟨loan.slot, loan.result⟩

namespace State

variable (host : Host σ ω) (p : State σ ω) (slot : Nat) (file : SourceFile)

/-! ### Lending -/

/-- To have a worker for a request, a pool looks at no other slot. -/
theorem workerFor_congr {slot : Nat} {idle : List Nat} {slots : List (Option (Handle σ))}
    (hslot : ({ p with idle, slots } : State σ ω).slot? slot = p.slot? slot) :
    ({ p with idle, slots } : State σ ω).workerFor host slot =
      ((p.workerFor host slot).1, { (p.workerFor host slot).2 with idle, slots }) := by
  rw [workerFor, workerFor, hslot]
  rcases p.slot? slot with - | h
  · rw [spawn, spawn]
    rcases host.start p.options.command p.world with ⟨reason | process, world⟩ <;> rfl
  · rfl

/-- **An attempt is a loan that is taken back**, also where other slots are idle than those that the
slot is lent beside, or there are other workers in them. -/
theorem attemptIn_eq_lend {idle : List Nat} {slots : List (Option (Handle σ))}
    (hslot : ({ p with idle, slots } : State σ ω).slot? slot = p.slot? slot) :
    ({ p with idle, slots } : State σ ω).attemptIn host slot file =
      ((p.lend host slot file).1.toTry.attempt,
        ({ (p.lend host slot file).2 with
            idle := idle.erase slot, slots,
            world := host.setClock (p.lend host slot file).1.due
              (p.lend host slot file).2.world } : State σ ω).giveBack slot
          (p.lend host slot file).1.worker) := by
  have hworker : (({ p with idle, slots } : State σ ω).checkout slot).workerFor host slot =
      (((p.checkout slot).workerFor host slot).1,
        { ((p.checkout slot).workerFor host slot).2 with idle := idle.erase slot, slots }) :=
    workerFor_congr host (p.checkout slot) hslot
  rw [attemptIn, lend, hworker]
  rcases (p.checkout slot).workerFor host slot with ⟨failure | h, q⟩
  · simp only [host.setClock_clock]
    rfl
  · dsimp only
    rcases h.request host q.options.requestTimeout p.nextRequest file q.world with
      ⟨failure | o, h', world⟩ <;>
    · simp only [host.setClock_clock]
      rfl

/-- To have a worker for a request takes some counting, and time may pass. -/
theorem exists_workerFor_snd : ∃ nextWorker spawned respawned world,
    (p.workerFor host slot).2 = { p with nextWorker, spawned, respawned, world } := by
  rw [workerFor]
  rcases p.slot? slot with - | h
  · rw [spawn]
    rcases host.start p.options.command p.world with ⟨reason | process, world⟩ <;>
      exact ⟨_, _, _, _, rfl⟩
  · exact ⟨_, _, _, _, rfl⟩

/-- A slot on loan is empty and not idle. To lend it takes the number of a request, and of a worker
if one is started. -/
theorem exists_lend_eq : (p.lend host slot file).1.slot = slot ∧
    ∃ nextWorker spawned respawned world, (p.lend host slot file).2 =
      { p.checkout slot with
        slots := p.slots.set slot none, nextWorker, spawned, respawned, world } := by
  obtain ⟨nextWorker, spawned, respawned, world, hsame⟩ :=
    exists_workerFor_snd host (p.checkout slot) slot
  rw [lend]
  rcases hworker : (p.checkout slot).workerFor host slot with ⟨failure | h, q⟩ <;>
  · rw [hworker] at hsame
    obtain rfl := hsame
    exact ⟨rfl, _, _, _, _, rfl⟩

/-- **A loan that is taken back at once is an attempt.** -/
theorem takeBack_lend (hup : p.isShutDown = false) :
    (p.lend host slot file).2.takeBack host (p.lend host slot file).1 =
      (p.attemptIn host slot file).2 := by
  have hattempt : (p.attemptIn host slot file).2 = _ :=
    congrArg Prod.snd (attemptIn_eq_lend host p slot file rfl)
  obtain ⟨hslot, nextWorker, spawned, respawned, world, hlend⟩ := exists_lend_eq host p slot file
  rw [hattempt, takeBack, hslot, hlend]
  simp [giveBack, setSlot, checkout, hup]

/-- The attempt that a pool makes is the one in the slot that it chooses. -/
theorem attempt_eq_lend {p : State σ ω} {slot : Nat} {avoid : Option Nat}
    (hchoose : chooseSlot? avoid p.idle = some slot) : p.attempt host avoid file =
      ((p.lend host slot file).1.toTry.attempt, (p.attemptIn host slot file).2) := by
  have hsame := attemptIn_eq_lend host p slot file rfl
  have htry : (p.attemptIn host slot file).1 = (p.lend host slot file).1.toTry.attempt :=
    congrArg Prod.fst hsame
  rw [attempt, hchoose]
  exact Prod.ext htry rfl

end State

/-! ### A call on its own -/

namespace Crowd

variable {p : State σ ω} {file : SourceFile} {ticket : Nat}

theorem next?_of_waiting (hidle : p.idle ≠ []) (place : Nat)
    (failed? : Option (Nat × WorkerFailure)) :
    next? { pool := p, calls := [(file, .waiting place failed?)], ticket } = some 0 := by
  simp [next?, keyed, isOpen, hidle, Call.place?]

theorem next?_of_underway (failed? : Option (Nat × WorkerFailure)) (loan : Loan σ) :
    next? { pool := p, calls := [(file, .underway failed? loan)], ticket } = some 0 := by
  simp [next?, keyed, Call.place?, Call.loan?]

theorem next?_of_done (outcome : ParseOutcome) :
    next? { pool := p, calls := [(file, .done outcome)], ticket } = none := by
  simp [next?, keyed, Call.place?, Call.loan?]

variable (host : Host σ ω)

/-- **A call that nobody comes in between makes an attempt**, and goes on from what comes of it. -/
theorem serve_waiting (hup : p.isShutDown = false) {slot place : Nat}
    (failed? : Option (Nat × WorkerFailure))
    (hchoose : State.chooseSlot? (failed?.map (·.1)) p.idle = some slot) :
    serve host { pool := p, calls := [(file, .waiting place failed?)], ticket } =
      serve host (match (p.lend host slot file).1.result, failed? with
        | .ok o, _ =>
          { pool := ((p.attemptIn host slot file).2.conclude file o).2,
            calls := [(file, .done ((p.attemptIn host slot file).2.conclude file o).1)],
            ticket := ticket + 2 }
        | .error f, none =>
          { pool := (p.attemptIn host slot file).2,
            calls := [(file, .waiting (ticket + 1) (some (slot, f)))], ticket := ticket + 2 }
        | .error f, some (_, first) =>
          { pool := (p.attemptIn host slot file).2,
            calls := [(file, .done (.error (.workersFailed file.path first f)))],
            ticket := ticket + 2 }) := by
  have hidle : p.idle ≠ [] := fun hnil ↦ by
    rw [State.chooseSlot?_eq_none_iff.2 hnil] at hchoose
    cases hchoose
  have hboard : Call.board host p place file failed? =
      (.underway failed? (p.lend host slot file).1, (p.lend host slot file).2) := by
    rw [Call.board, if_neg (by rw [hup]; exact Bool.false_ne_true), hchoose]
  have hback := State.takeBack_lend host p slot file hup
  have hslot := (State.exists_lend_eq host p slot file).1
  rw [serve_of_next?_eq_some host (next?_of_waiting hidle place failed?)]
  simp only [turn, List.getElem?_cons_zero, Call.advance, hboard, List.set_cons_zero]
  rw [serve_of_next?_eq_some host (next?_of_underway failed? _)]
  simp only [turn, List.getElem?_cons_zero, Call.advance, Call.arrive, hback, hslot,
    List.set_cons_zero]
  rcases (p.lend host slot file).1.result with f | o <;> rcases failed? with - | ⟨_, first⟩ <;> rfl

/-- A call that is done stays as it is. -/
theorem serve_done (outcome : ParseOutcome) :
    serve host { pool := p, calls := [(file, .done outcome)], ticket } =
      { pool := p, calls := [(file, .done outcome)], ticket } :=
  serve_of_next?_eq_none host (next?_of_done outcome)

/-- **A file that is parsed alone** fares as one that is parsed among no others. -/
theorem serve_make (hidle : p.idle ≠ []) (file : SourceFile) :
    ((make { pool := p } file).serve host).pool = (p.parse host file).2 ∧
      ((make { pool := p } file).serve host).calls = [(file, .done (p.parse host file).1)] := by
  rw [make, Call.begin]
  by_cases hdown : p.isShutDown = true
  · rw [State.parse, State.first]
    simp only [if_pos hdown, List.nil_append, serve_done]
    exact ⟨rfl, rfl⟩
  have hup : p.isShutDown = false := by simpa using hdown
  simp only [if_neg hdown]
  rcases hmemo : p.remembered? file.stamp with - | facts
  case some =>
    rw [State.parse, State.first, if_neg hdown, hmemo]
    simp only [List.nil_append, serve_done]
    exact ⟨rfl, rfl⟩
  obtain ⟨slot, -, hchoose⟩ := State.exists_chooseSlot? none hidle
  rw [State.parse_of_attempt hup hmemo (State.attempt_eq_lend host file hchoose)]
  simp only [List.nil_append]
  rw [serve_waiting host hup none hchoose]
  have hslot := (State.exists_lend_eq host p slot file).1
  rcases hresult : (p.lend host slot file).1.result with f | o
  · -- the slot is idle again, so that the second attempt finds one
    have hattempts := State.attemptsIn_attemptIn host p slot file
    obtain ⟨slot', -, hchoose'⟩ := State.exists_chooseSlot? (some slot) hattempts.idle_ne_nil
    have hup' := hattempts.isShutDown.trans hup
    simp only [Loan.toTry, hresult, hslot]
    rw [serve_waiting host hup' (some (slot, f)) hchoose',
      State.second_of_attempt (State.attempt_eq_lend host file hchoose')]
    rcases hagain : ((p.attemptIn host slot file).2.lend host slot' file).1.result with f' | o' <;>
      simp only [Loan.toTry, hagain, serve_done, and_self]
  · simp only [Loan.toTry, hresult, serve_done, and_self]

end Crowd

/-- To hand in a single file is to have it parsed. -/
theorem State.parseAll_singleton (host : Host σ ω) {p : State σ ω} (hidle : p.idle ≠ [])
    (file : SourceFile) :
    State.parseAll host [file] p = ([(p.parse host file).1], (p.parse host file).2) := by
  obtain ⟨hpool, hcalls⟩ := Crowd.serve_make host hidle file
  rw [State.parseAll, List.foldl_cons, List.foldl_nil]
  simp only [Crowd.outcomes, hpool, hcalls]
  rfl

end JavaDeps.Pool
