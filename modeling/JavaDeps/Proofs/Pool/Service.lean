import JavaDeps.Proofs.Pool.Accounting
import JavaDeps.Proofs.Pool.Transcript
import JavaDeps.Proofs.Wire.RoundTrip

/-!
# What the workers of a pool have done

**A worker that is in a slot has answered all it was asked** (`Served`), and has counted its answers
right. For that, no worker may be asked after it failed once. The transcript shows this, with the
number of a worker telling its exchanges from those of others: numbers are not given twice, and the
processes that the host starts are numbered as the workers are (`Traced`).

Together with the books of the pool this is what all steps preserve (`run_accounted`).
-/

namespace JavaDeps.Pool

open Wire (Outcome Request Response)

/-! ### Exchanges -/

namespace Exchange

/-- Whether an exchange asks for a file to be parsed: what was sent is the line of a request for it,
under some number of 64 bits. -/
def Asks (e : Exchange) (file : SourceFile) : Prop :=
  ∃ id < Nat.pow 2 64, e.sent = (Request.ofFile id file).line

/-- Whether what came back answers the very request that was sent: it is a response with the same
number, and with this outcome. -/
def AnsweredWith (e : Exchange) (o : Outcome) : Prop :=
  ∃ request, Request.parse e.sent = .ok request ∧ e.received.Answers request.id o

/-- Whether an exchange ended with an answer to its own request, be it facts or a refusal. -/
def IsAnswered (e : Exchange) : Prop := ∃ o, e.AnsweredWith o

theorem answeredWith_ofFile {id : Nat} (hid : id < Nat.pow 2 64) (worker : Nat) (file : SourceFile)
    {received : Received} {o : Outcome} (h : received.Answers id o) :
    AnsweredWith ⟨worker, (Request.ofFile id file).line, received⟩ o :=
  ⟨_, Request.parse_line hid, h⟩

end Exchange

variable {σ ω : Type}

/-- Whether a worker has answered all that it was asked, and has counted its answers. -/
structure Served (exchanges : List Exchange) (h : Handle (Numbered σ)) : Prop where
  number : h.process.number = h.id
  answered : ∀ e ∈ exchanges, e.worker = h.id → e.IsAnswered
  count : exchanges.countP (·.worker = h.id) = h.served

namespace Served

variable {exchanges : List Exchange} {h : Handle (Numbered σ)} {e : Exchange}

/-- The exchanges of other workers do not matter. -/
theorem concat_other (hserved : Served exchanges h) (he : e.worker ≠ h.id) :
    Served (exchanges ++ [e]) h where
  number := hserved.number
  answered e' he' hworker := by
    rcases List.mem_append.1 he' with he' | he'
    · exact hserved.answered e' he' hworker
    · rw [List.mem_singleton.1 he'] at hworker
      exact absurd hworker he
  count := by
    rw [List.countP_append, hserved.count, List.countP_singleton, if_neg (by simpa using he),
      Nat.add_zero]

/-- One more answer. -/
theorem concat_answered (hserved : Served exchanges h) (he : e.worker = h.id)
    (hanswered : e.IsAnswered) {process : Numbered σ}
    (hnumber : process.number = h.process.number) :
    Served (exchanges ++ [e]) { h with process, inFlight := false, served := h.served + 1 } where
  number := hnumber.trans hserved.number
  answered e' he' hworker := by
    rcases List.mem_append.1 he' with he' | he'
    · exact hserved.answered e' he' hworker
    · rwa [List.mem_singleton.1 he']
  count := by
    rw [List.countP_append]
    show exchanges.countP (·.worker = h.id) + _ = h.served + 1
    rw [hserved.count, List.countP_singleton, if_pos (by simpa using he)]

end Served

/-! ### The recording host -/

section

variable {host : Host σ ω} {s s' : Numbered σ} {w w' : Recorded ω}

/-- Workers are numbered in the order in which they are started. -/
theorem recorded_start {command : Worker.Command} {started : Except String (Numbered σ)}
    (h : host.recorded.start command w = (started, w')) :
    w'.launches = w.launches + 1 ∧ w'.exchanges = w.exchanges ∧
      ∀ s, started = .ok s → s.number = w.launches + 1 := by
  obtain ⟨hstarted, hworld⟩ := Prod.mk.inj h
  rw [← hworld, ← hstarted]
  refine ⟨rfl, rfl, fun s hs ↦ ?_⟩
  rcases hplain : (host.start command w.world).1 with reason | process
  · rw [hplain] at hs
    cases hs
  · rw [hplain] at hs
    cases hs
    rfl

/-- An exchange is recorded behind the earlier ones, under the number of its worker. -/
theorem recorded_exchange {limit : Duration} {line : String} {received : Received}
    (h : host.recorded.exchange limit line s w = (received, s', w')) :
    s'.number = s.number ∧ w'.launches = w.launches ∧
      w'.exchanges = w.exchanges ++ [⟨s.number, line, received⟩] := by
  obtain ⟨hreceived, hrest⟩ := Prod.mk.inj h
  obtain ⟨hprocess, hworld⟩ := Prod.mk.inj hrest
  rw [← hworld, ← hprocess, ← hreceived]
  exact ⟨rfl, rfl, rfl⟩

/-- To wait for workers to exit adds nothing to the record. -/
theorem recorded_awaitExits (host : Host σ ω) (grace : Duration) (w : Recorded ω)
    (handles : List (Handle (Numbered σ))) :
    (State.awaitExits host.recorded grace w handles).2.launches = w.launches ∧
      (State.awaitExits host.recorded grace w handles).2.exchanges = w.exchanges := by
  induction handles generalizing w with
  | nil => exact ⟨rfl, rfl⟩
  | cons h rest ih => exact ih _

end

namespace State

/-- Shutting down adds nothing to the transcript. -/
theorem exchanges_shutdown (host : Host σ ω) (p : State (Numbered σ) (Recorded ω)) :
    (p.shutdown host.recorded).2.world.exchanges = p.world.exchanges := by
  by_cases hdown : p.isShutDown = true
  · rw [shutdown_of_isShutDown hdown]
  · rw [shutdown_of_running host.recorded (by simpa using hdown)]
    exact (recorded_awaitExits host p.options.shutdownTimeout p.world _).2

/-! ### The invariant -/

/-- **Whether the transcript of a pool shows** that its workers have answered all they were asked,
and that no worker was asked again after it failed. -/
structure Traced (p : State (Numbered σ) (Recorded ω)) : Prop where
  launches : p.nextWorker = p.world.launches + 1
  request : p.nextRequest < Nat.pow 2 64
  numbered : ∀ e ∈ p.world.exchanges, e.worker < p.nextWorker
  served : ∀ slot h, p.slot? slot = some h → Served p.world.exchanges h
  replaced : p.world.exchanges.Pairwise fun e e' ↦ e.worker = e'.worker → e.IsAnswered

namespace Traced

variable {host : Host σ ω} {p q : State (Numbered σ) (Recorded ω)} {size started slot : Nat}
  {g : Handle (Numbered σ)}

/-- A worker that is started was never asked anything. -/
theorem served_new (h : Traced p) {process : Numbered σ}
    (hnumber : process.number = p.world.launches + 1) :
    Served p.world.exchanges { id := p.nextWorker, process } where
  number := hnumber.trans h.launches.symm
  answered e he hworker := absurd hworker (Nat.ne_of_lt (h.numbered e he))
  count := List.countP_eq_zero.2 fun e he ↦ by simpa using Nat.ne_of_lt (h.numbered e he)

/-- Starting a worker, whether or not it succeeds, adds nothing to the transcript. -/
theorem launch (h : Traced p) (hslots : q.slots = p.slots)
    (hrequest : q.nextRequest = p.nextRequest) (hnext : q.nextWorker = p.nextWorker + 1)
    (hlaunches : q.world.launches = p.world.launches + 1)
    (hexchanges : q.world.exchanges = p.world.exchanges) : Traced q where
  launches := by rw [hnext, h.launches, hlaunches]
  request := by rw [hrequest]; exact h.request
  numbered e he := by
    rw [hnext]
    exact Nat.lt_succ_of_lt (h.numbered e (hexchanges ▸ he))
  served i g hg := by
    rw [slot?_congr hslots] at hg
    rw [hexchanges]
    exact h.served i g hg
  replaced := by
    rw [hexchanges]
    exact h.replaced

/-- A slot has a worker that answered all it was asked. -/
theorem employs (h : Traced p) (hemploys : Employs host.recorded p slot g q) :
    Traced q ∧ Served q.world.exchanges g ∧ q.world.exchanges = p.world.exchanges := by
  cases hemploys with
  | kept hslot => exact ⟨h, h.served slot g hslot, rfl⟩
  | @started process world hslot hstart =>
    obtain ⟨hlaunches, hexchanges, hnumber⟩ := recorded_start hstart
    refine ⟨h.launch (by rfl) (by rfl) (by rfl) hlaunches hexchanges, ?_, hexchanges⟩
    show Served world.exchanges _
    rw [hexchanges]
    exact h.served_new (hnumber process rfl)

/-- A slot can be filled with a worker that answered all it was asked. -/
theorem setSlot (h : Traced p) (hslot : slot < p.slots.length)
    {worker : Option (Handle (Numbered σ))}
    (hworker : ∀ g, worker = some g → Served p.world.exchanges g) :
    Traced (p.setSlot slot worker) where
  launches := h.launches
  request := h.request
  numbered := h.numbered
  served i g hg := by
    rcases slot?_setSlot_cases hslot hg with ⟨-, hnew⟩ | ⟨-, hold⟩
    · exact hworker g hnew
    · exact h.served i g hold
  replaced := h.replaced

/-- **A slot is given back** after its worker was asked, with the worker if it answered. -/
theorem giveBack (h : Traced p) (hslot : slot < p.slots.length) (hfits : Fits p slot g)
    (hserved : Served p.world.exchanges g) {w : Recorded ω} {e : Exchange}
    (hlaunches : w.launches = p.world.launches) (he : e.worker = g.id)
    (hexchanges : w.exchanges = p.world.exchanges ++ [e]) {back : Option (Handle (Numbered σ))}
    (hback : ∀ g', back = some g' → Served w.exchanges g') :
    Traced ({ p with world := w }.giveBack slot back) where
  launches := h.launches.trans (congrArg (· + 1) hlaunches.symm)
  request := h.request
  numbered e' he' := by
    have he' : e' ∈ w.exchanges := he'
    rw [hexchanges, List.mem_append, List.mem_singleton] at he'
    rcases he' with he' | rfl
    · exact h.numbered e' he'
    · exact he ▸ hfits.numbered
  served i g' hg' := by
    show Served w.exchanges g'
    rcases slot?_setSlot_cases (p := { p with world := w }) hslot hg' with ⟨-, hnew⟩ | ⟨hi, hold⟩
    · exact hback g' hnew
    · -- the worker of another slot has another number
      rw [hexchanges]
      exact (h.served i g' hold).concat_other fun hworker ↦
        hfits.distinct i g' hi hold (hworker.symm.trans he)
  replaced := by
    show w.exchanges.Pairwise _
    rw [hexchanges, List.pairwise_append]
    refine ⟨h.replaced, List.pairwise_singleton _ _, fun e₁ he₁ e₂ he₂ hsame ↦ ?_⟩
    -- all that the worker was asked before, it answered
    rw [List.mem_singleton.1 he₂, he] at hsame
    exact hserved.answered e₁ he₁ hsame

/-- Requests are numbered in 64 bits. -/
theorem checkout (h : Traced p) (slot : Nat) : Traced (p.checkout slot) :=
  { h with request := Nat.mod_lt _ (Nat.pow_pos (by decide)) }

/-- **An attempt** leaves a worker in the slot only if it answered. -/
theorem attemptsIn (h : Traced p) (hbooks : Accounted size started p) (hslot : slot ∈ p.idle)
    {file : SourceFile} {a : Attempt} (hattempts : AttemptsIn host.recorded p slot file a q) :
    Traced q := by
  have hlent := h.checkout slot
  have hlength : slot < p.slots.length := hbooks.slot_lt hslot
  cases hattempts with
  | @unstarted reason world _ hstart =>
    obtain ⟨hlaunches, hexchanges, -⟩ := recorded_start hstart
    have hlaunched : Traced { p.checkout slot with nextWorker := p.nextWorker + 1, world } :=
      hlent.launch (by rfl) (by rfl) (by rfl) hlaunches hexchanges
    have hempty : ∀ g, (none : Option (Handle (Numbered σ))) = some g → Served world.exchanges g :=
      nofun
    exact { hlaunched.setSlot hlength hempty with }
  | answered hemploys hexchange hanswers =>
    obtain ⟨hlends, hfits⟩ := hbooks.employs hemploys
    obtain ⟨hq, hserved, -⟩ := hlent.employs hemploys
    obtain ⟨hnumber, hlaunches, hexchanges⟩ := recorded_exchange hexchange
    refine hq.giveBack (by rwa [hlends.slots]) hfits hserved hlaunches hserved.number hexchanges ?_
    rintro g' ⟨⟩
    rw [hexchanges]
    exact hserved.concat_answered hserved.number
      ⟨_, Exchange.answeredWith_ofFile h.request _ file hanswers⟩ hnumber
  | failed hemploys hexchange _ =>
    obtain ⟨hlends, hfits⟩ := hbooks.employs hemploys
    obtain ⟨hq, hserved, -⟩ := hlent.employs hemploys
    obtain ⟨-, hlaunches, hexchanges⟩ := recorded_exchange hexchange
    refine hq.giveBack (by rwa [hlends.slots]) hfits hserved hlaunches hserved.number hexchanges ?_
    rintro g' ⟨⟩

theorem conclude (h : Traced p) (file : SourceFile) (o : Outcome) :
    Traced (p.conclude file o).2 := by
  cases o <;> exact { h with }

/-- A file that is parsed leaves the record one of the pool. -/
theorem parses (h : Traced p) (hbooks : Accounted size started p) {file : SourceFile}
    {outcome : ParseOutcome} (hparses : Parses host.recorded p file outcome q) : Traced q := by
  cases hparses with
  | shutDown _ => exact h
  | remembered _ _ => exact { h with }
  | answered _ hslot hfirst => exact (h.attemptsIn hbooks hslot hfirst).conclude _ _
  | retried hup hslot hfirst hslot' hsecond =>
    have hbooks' := hbooks.attemptsIn hup hslot hfirst
    exact ((h.attemptsIn hbooks hslot hfirst).attemptsIn hbooks' hslot' hsecond).conclude _ _
  | failed hup hslot hfirst hslot' hsecond =>
    have hbooks' := hbooks.attemptsIn hup hslot hfirst
    exact (h.attemptsIn hbooks hslot hfirst).attemptsIn hbooks' hslot' hsecond

/-- A shutdown leaves the record one of the pool. -/
theorem shutdown (h : Traced p) : Traced (p.shutdown host.recorded).2 := by
  by_cases hdown : p.isShutDown = true
  · rw [shutdown_of_isShutDown hdown]
    exact h
  have hup : p.isShutDown = false := by simpa using hdown
  obtain ⟨hlaunches, hexchanges⟩ := recorded_awaitExits host p.options.shutdownTimeout p.world
    (p.slots.filterMap id)
  have hvacant := slot?_shutdown host.recorded hup
  rw [shutdown_of_running host.recorded hup] at hvacant ⊢
  refine ⟨?_, h.request, ?_, fun slot g hg ↦ ?_, ?_⟩
  · exact h.launches.trans (congrArg (· + 1) hlaunches.symm)
  · exact fun e he ↦ h.numbered e (hexchanges ▸ he)
  · rw [hvacant slot] at hg
    cases hg
  · exact hexchanges ▸ h.replaced

/-- Each step leaves the record one of the pool. -/
theorem after (h : Traced p) (hbooks : Accounted size started p) (hsize : size ≠ 0) (step : Step) :
    Traced (p.after host.recorded step) := by
  cases step with
  | parse file =>
    exact h.parses hbooks (parses_parse host.recorded file (hbooks.idle_ne_nil hsize))
  | shutdown => exact h.shutdown

/-- **The record of a run is one of its pool.** -/
theorem run (h : Traced p) (hbooks : Accounted size started p) (hsize : size ≠ 0)
    (steps : List Step) : Traced (p.run host.recorded steps) := by
  induction steps generalizing p with
  | nil => exact h
  | cons step rest ih =>
    exact ih (h.after hbooks hsize step) (hbooks.after hsize host.recorded step)

/-- Filling slots adds nothing to the transcript. -/
theorem fill (h : Traced p) {slots : List Nat} (hslots : ∀ slot ∈ slots, slot < p.slots.length) :
    Traced (p.fill host.recorded slots).2 ∧
      (p.fill host.recorded slots).2.world.exchanges = p.world.exchanges := by
  induction slots generalizing p with
  | nil => exact ⟨h, rfl⟩
  | cons slot rest ih =>
    obtain ⟨hslot, hrest⟩ := List.forall_mem_cons.1 hslots
    rw [State.fill, spawn]
    rcases hstart : host.recorded.start p.options.command p.world with ⟨reason | process, world⟩
    · obtain ⟨hlaunches, hexchanges, -⟩ := recorded_start hstart
      have hq : Traced { p with nextWorker := p.nextWorker + 1, world } :=
        h.launch (by rfl) (by rfl) (by rfl) hlaunches hexchanges
      obtain ⟨htraced, hsame⟩ := ih hq hrest
      exact ⟨htraced, hsame.trans hexchanges⟩
    · obtain ⟨hlaunches, hexchanges, hnumber⟩ := recorded_start hstart
      have hq : Traced { p with
          nextWorker := p.nextWorker + 1, spawned := p.spawned + 1, world } :=
        h.launch (by rfl) (by rfl) (by rfl) hlaunches hexchanges
      have hnew : Served world.exchanges { id := p.nextWorker, process } := by
        rw [hexchanges]
        exact h.served_new (hnumber process rfl)
      have hset := hq.setSlot hslot fun g (hg : some _ = some g) ↦ Option.some.inj hg ▸ hnew
      obtain ⟨htraced, hsame⟩ := ih hset (by rwa [State.setSlot, List.length_set])
      exact ⟨htraced, hsame.trans hexchanges⟩

/-- A pool starts with an empty transcript. -/
theorem of_start {options : Options} {world : ω} {w : Recorded ω}
    (hstart : start host.recorded options { world } = (.ok p, w)) :
    Traced p ∧ p.world.exchanges = [] := by
  obtain ⟨-, rfl⟩ := eq_fill_of_start hstart
  refine fill ⟨rfl, by show 1 < _; decide, fun e he ↦ absurd he List.not_mem_nil,
    fun slot g hg ↦ ?_, .nil⟩ fun slot hslot ↦ ?_
  · rw [slot?_blank] at hg
    cases hg
  · rw [blank, List.length_map]
    exact List.length_range ▸ List.mem_range.1 hslot

end Traced

/-- **The books of a pool are right at all times**, whatever its workers do. After any steps each
slot is idle just once, so that a slot is found for every attempt, the second one for a file too.
The workers in slots are in step, have numbers of their own, and have answered all they were asked.
All workers but those of the start were started in place of others. The pool says that it was shut
down once it was, and from then on it stays as it is, with empty slots. -/
theorem run_accounted {host : Host σ ω} {options : Options} {world w : ω} {p : State σ ω}
    (hstart : start host options world = (.ok p, w)) (steps : List Step) :
    Accounted options.size (p.slots.countP (·.isSome)) (p.run host steps) ∧
    ((p.run host steps).isShutDown = true ↔ .shutdown ∈ steps) ∧
    (∀ file, ((p.run host steps).parse host file).1 = .error .shutDown ↔ .shutdown ∈ steps) ∧
    (∀ avoid file, ((p.run host steps).attempt host avoid file).1 ≠ .refused) ∧
    (∀ file again failure q, (p.run host steps).first host file = (.retry again failure, q) →
      ∀ avoid, (q.attempt host avoid file).1 ≠ .refused) ∧
    (.shutdown ∈ steps → ∀ more, p.run host (steps ++ more) = p.run host steps) ∧
    ∃ r w', start host.recorded options { world } = (.ok r, w') ∧
      (r.run host.recorded steps).plain = p.run host steps ∧
      ∀ slot h, (r.run host.recorded steps).slot? slot = some h →
        Served (r.run host.recorded steps).world.exchanges h := by
  obtain ⟨hsize, -⟩ := eq_fill_of_start hstart
  have hstarting := starting_of_start hstart
  have hbooks : Accounted options.size p.spawned p := hstarting.toAccounted
  have hrun := hbooks.run hsize host steps
  have hidle := hrun.idle_ne_nil hsize
  have hdown : (p.run host steps).isShutDown = true ↔ .shutdown ∈ steps := by
    rw [hbooks.isShutDown_run hsize, hstarting.isShutDown]
    simp
  refine ⟨hstarting.spawned_eq ▸ hrun, hdown, fun file ↦ ?_, fun avoid file ↦ ?_, ?_, ?_, ?_⟩
  · rw [← hdown]
    exact (parses_parse host file hidle).eq_shutDown_iff
  · exact attempt_ne_refused host avoid file hidle
  · intro file again failure q hfirst avoid
    rcases first_cases host file hidle with ⟨outcome, q', hdone, -⟩ |
      ⟨slot, -, again', failure', q', -, hretry, hattempts⟩
    · rw [hfirst] at hdone
      cases hdone
    · rw [hfirst] at hretry
      cases hretry
      exact attempt_ne_refused host avoid file hattempts.idle_ne_nil
  · intro hmem more
    rw [run_append]
    exact run_of_isShutDown (hdown.2 hmem) more
  · obtain ⟨r, w', hr, rfl⟩ := exists_start_recorded hstart
    obtain ⟨htraced, -⟩ := Traced.of_start hr
    refine ⟨r, w', hr, plain_run host r steps, ?_⟩
    exact (htraced.run (starting_of_start hr).toAccounted hsize steps).served

/-- Workers that send the lines of a script, whatever they are asked. -/
def scripted (lines : List String) : Host (List String) Unit where
  start _ w := (.ok lines, w)
  exchange _ _ s w :=
    match s with
    | [] => (.closed, [], w)
    | line :: rest => (.line line, rest, w)
  exits _ _ w := (true, w)

/-- Workers that answer the first request of a pool, and send the same line once more. -/
def repeating : Host (List String) Unit :=
  scripted ["\x7b\"id\":1,\"error\":\"no\"\x7d", "\x7b\"id\":1,\"error\":\"no\"\x7d"]

/-- Two workers, both of which fail on the second file. -/
theorem run_accounted_of_repeating :
    ∃ p, start repeating { command := { program := "worker" }, size := 2 } () = (.ok p, ()) ∧
      Accounted 2 (p.slots.countP (·.isSome)) (p.run repeating
        [.parse ⟨⟨"A.java"⟩, "a"⟩, .parse ⟨⟨"B.java"⟩, "b"⟩, .shutdown]) ∧
      ((p.run repeating [.parse ⟨⟨"A.java"⟩, "a"⟩, .parse ⟨⟨"B.java"⟩, "b"⟩, .shutdown]).parse
        repeating ⟨⟨"C.java"⟩, "c"⟩).1 = .error .shutDown := by
  obtain ⟨p, hstart⟩ :
      ∃ p, start repeating { command := { program := "worker" }, size := 2 } () = (.ok p, ()) :=
    ⟨_, rfl⟩
  obtain ⟨hbooks, -, hdown, -⟩ := run_accounted hstart
    [.parse ⟨⟨"A.java"⟩, "a"⟩, .parse ⟨⟨"B.java"⟩, "b"⟩, .shutdown]
  exact ⟨p, hstart, hbooks, (hdown _).2 (by decide)⟩

end State

end JavaDeps.Pool
