import JavaDeps.Pool.State

/-!
# The steps of a pool

What a pool can do in one step, whatever its workers do. An attempt ends in one of three ways
(`AttemptsIn`): no worker could be started, or a worker answered, or a worker was asked and did not
answer. A worker **answers** a request with one line, which is a response to that request with
either facts or an error (`Received.Answers`). Whatever else happens, the slot is left empty.

A pool that has an idle slot parses a file in one of five ways (`Parses`). Invariants of pools are
proved over these cases, and never look at how a pool goes about them.
-/

namespace JavaDeps.Pool

open Java (Facts)
open Wire (Outcome Request Response)

/-! ### Answers -/

/-- Whether what came back answers a request with an outcome: it is one line, and that line is a
response to the request which carries the outcome and nothing else. -/
def Received.Answers (received : Received) (request : Nat) (o : Outcome) : Prop :=
  ∃ text, received = .line text ∧ Response.parse text = .ok (.ofOutcome request o)

theorem outcome?_eq_some_iff {r : Response} {o : Outcome} :
    r.outcome? = some o ↔ r = .ofOutcome r.id o := by
  obtain ⟨id, result, error⟩ := r
  cases result <;> cases error <;> cases o <;> simp [Response.outcome?, Response.ofOutcome]

/-- What is made of a line is an outcome only if the line answers the request. -/
theorem readReply_cases (worker request : Nat) (text : String) :
    (∃ o, Response.parse text = .ok (.ofOutcome request o) ∧
      readReply worker request text = (.ok o, false)) ∨
    ∃ failure inFlight, (∀ o, Response.parse text ≠ .ok (.ofOutcome request o)) ∧
      readReply worker request text = (.error failure, inFlight) := by
  rw [readReply]
  rcases hparse : Response.parse text with e | response
  · exact .inr ⟨_, _, fun o ↦ nofun, rfl⟩
  by_cases hid : response.id = request
  · simp only [if_pos hid]
    rcases houtcome : response.outcome? with - | o
    · refine .inr ⟨_, _, fun o h ↦ ?_, rfl⟩
      have hresponse : response = .ofOutcome response.id o := by rw [hid]; exact Except.ok.inj h
      rw [outcome?_eq_some_iff.2 hresponse] at houtcome
      cases houtcome
    · refine .inl ⟨o, ?_, rfl⟩
      rw [← hid, ← outcome?_eq_some_iff.1 houtcome]
  · -- a response with another number answers another request, whatever it carries
    simp only [if_neg hid]
    refine .inr ⟨_, _, fun o h ↦ hid ?_, rfl⟩
    rw [Except.ok.inj h]
    cases o <;> rfl

/-- **What comes back counts as an outcome exactly if it answers the request**, and the worker is
then in step. -/
theorem readReceived_cases (limit : Duration) (worker request : Nat) (received : Received) :
    (∃ o, received.Answers request o ∧
      readReceived limit worker request received = (.ok o, false)) ∨
    ∃ failure inFlight, (∀ o, ¬ received.Answers request o) ∧
      readReceived limit worker request received = (.error failure, inFlight) := by
  have hnone {received : Received} (hline : ∀ text, received ≠ .line text) (o : Outcome) :
      ¬ received.Answers request o := fun ⟨text, h, _⟩ ↦ hline text h
  cases received with
  | closed => exact .inr ⟨_, _, hnone nofun, rfl⟩
  | failed reason => exact .inr ⟨_, _, hnone nofun, rfl⟩
  | silence => exact .inr ⟨_, _, hnone nofun, rfl⟩
  | line text =>
    rcases readReply_cases worker request text with ⟨o, hparse, hread⟩ |
      ⟨failure, inFlight, hparse, hread⟩
    · exact .inl ⟨o, ⟨text, rfl, hparse⟩, hread⟩
    · refine .inr ⟨failure, inFlight, ?_, hread⟩
      rintro o ⟨_, ⟨⟩, h⟩
      exact hparse o h

variable {σ ω : Type}

/-- **A worker is asked**, and it answers or else fails. -/
theorem Handle.request_cases (host : Host σ ω) (limit : Duration) (h : Handle σ) (id : Nat)
    (file : SourceFile) (w : ω) :
    ∃ received process world,
      host.exchange limit (Request.ofFile id file).line h.process w = (received, process, world) ∧
      ((∃ o, received.Answers id o ∧ h.request host limit id file w =
        (.ok o, { h with process, inFlight := false, served := h.served + 1 }, world)) ∨
      ∃ failure h', (∀ o, ¬ received.Answers id o) ∧
        h.request host limit id file w = (.error failure, h', world)) := by
  rcases hexchange : host.exchange limit (Request.ofFile id file).line h.process w with
    ⟨received, process, world⟩
  refine ⟨received, process, world, rfl, ?_⟩
  rw [Handle.request, hexchange]
  rcases readReceived_cases limit h.id id received with ⟨o, hanswers, hread⟩ |
    ⟨failure, inFlight, hanswers, hread⟩
  · refine .inl ⟨o, hanswers, ?_⟩
    simp only [hread]
    rfl
  · refine .inr ⟨failure, { h with process, inFlight }, hanswers, ?_⟩
    simp only [hread]
    rfl

namespace State

/-! ### Attempts -/

variable (host : Host σ ω)

/-- Whether a slot has a worker for a request: the one that is in it, or else one that is started
now. -/
inductive Employs (p : State σ ω) (slot : Nat) : Handle σ → State σ ω → Prop
  | kept {h : Handle σ} (hslot : p.slot? slot = some h) : Employs p slot h p
  | started {process : σ} {world : ω} (hslot : p.slot? slot = none)
    (hstart : host.start p.options.command p.world = (.ok process, world)) :
    Employs p slot { id := p.nextWorker, process }
      { p with
        nextWorker := p.nextWorker + 1, spawned := p.spawned + 1, respawned := p.respawned + 1,
        world }

/-- **How an attempt ends** that is made in a slot. -/
inductive AttemptsIn (p : State σ ω) (slot : Nat) (file : SourceFile) :
    Attempt → State σ ω → Prop
  | unstarted {reason : String} {world : ω} (hslot : p.slot? slot = none)
    (hstart : host.start p.options.command p.world = (.error reason, world)) :
    AttemptsIn p slot file (.failed slot (.spawn reason))
      ({ p.checkout slot with nextWorker := p.nextWorker + 1, world }.giveBack slot none)
  | answered {h : Handle σ} {q : State σ ω} {received : Received} {process : σ} {world : ω}
    {o : Outcome} (hemploys : Employs host (p.checkout slot) slot h q)
    (hexchange : host.exchange q.options.requestTimeout (Request.ofFile p.nextRequest file).line
      h.process q.world = (received, process, world))
    (hanswers : received.Answers p.nextRequest o) :
    AttemptsIn p slot file (.answered o) ({ q with world }.giveBack slot
      (some { h with process, inFlight := false, served := h.served + 1 }))
  | failed {h : Handle σ} {q : State σ ω} {received : Received} {process : σ} {world : ω}
    {failure : WorkerFailure} (hemploys : Employs host (p.checkout slot) slot h q)
    (hexchange : host.exchange q.options.requestTimeout (Request.ofFile p.nextRequest file).line
      h.process q.world = (received, process, world))
    (hanswers : ∀ o, ¬ received.Answers p.nextRequest o) :
    AttemptsIn p slot file (.failed slot failure) ({ q with world }.giveBack slot none)

variable {host} {p q : State σ ω} {slot : Nat} {file : SourceFile}

/-- The worker of a slot is one that the slot has, or it could not be started. -/
theorem workerFor_cases (host : Host σ ω) (p : State σ ω) (slot : Nat) :
    (∃ h q, p.workerFor host slot = (.ok h, q) ∧ Employs host p slot h q) ∨
    ∃ reason world, p.slot? slot = none ∧
      host.start p.options.command p.world = (.error reason, world) ∧
      p.workerFor host slot =
        (.error (.spawn reason), { p with nextWorker := p.nextWorker + 1, world }) := by
  rcases hslot : p.slot? slot with - | h
  · rcases hstart : host.start p.options.command p.world with ⟨reason | process, world⟩
    · refine .inr ⟨reason, world, rfl, rfl, ?_⟩
      rw [workerFor, hslot]
      simp only [spawn, hstart]
    · refine .inl ⟨_, _, ?_, .started hslot hstart⟩
      rw [workerFor, hslot]
      simp only [spawn, hstart]
  · exact .inl ⟨h, p, by rw [workerFor, hslot], .kept hslot⟩

/-- Every attempt in a slot ends in one of these ways. -/
theorem attemptsIn_attemptIn (host : Host σ ω) (p : State σ ω) (slot : Nat) (file : SourceFile) :
    AttemptsIn host p slot file (p.attemptIn host slot file).1 (p.attemptIn host slot file).2 := by
  rw [attemptIn]
  rcases workerFor_cases host (p.checkout slot) slot with ⟨h, q, hworker, hemploys⟩ |
    ⟨reason, world, hslot, hstart, hworker⟩
  · obtain ⟨received, process, world, hexchange, hrequest⟩ :=
      h.request_cases host q.options.requestTimeout p.nextRequest file q.world
    rcases hrequest with ⟨o, hanswers, hrequest⟩ | ⟨failure, h', hanswers, hrequest⟩
    · simp only [hworker, hrequest]
      exact .answered hemploys hexchange hanswers
    · simp only [hworker, hrequest]
      exact .failed hemploys hexchange hanswers
  · simp only [hworker]
    exact .unstarted hslot hstart

/-- After an attempt a slot is idle: the one that it was made in. -/
theorem AttemptsIn.idle_ne_nil {a : Attempt} (h : AttemptsIn host p slot file a q) :
    q.idle ≠ [] := by
  cases h <;> exact List.append_ne_nil_of_right_ne_nil _ (List.cons_ne_nil _ _)

/-- **An idle slot is found where there is one**, whichever is to be avoided. -/
theorem exists_chooseSlot? (avoid : Option Nat) {idle : List Nat} (hidle : idle ≠ []) :
    ∃ slot ∈ idle, chooseSlot? avoid idle = some slot := by
  obtain ⟨first, rest, rfl⟩ := List.exists_cons_of_ne_nil hidle
  rw [chooseSlot?]
  rcases hfind : (first :: rest).find? fun slot ↦ some slot != avoid with - | slot
  · exact ⟨first, List.mem_cons_self, rfl⟩
  · exact ⟨slot, List.mem_of_find?_eq_some hfind, rfl⟩

/-- **An attempt is made in an idle slot** where there is one. -/
theorem exists_attemptsIn (host : Host σ ω) (avoid : Option Nat) (file : SourceFile)
    (hidle : p.idle ≠ []) :
    ∃ slot ∈ p.idle, ∃ a q, p.attempt host avoid file = (a, q) ∧
      AttemptsIn host p slot file a q := by
  obtain ⟨slot, hslot, hchoose⟩ := exists_chooseSlot? avoid hidle
  refine ⟨slot, hslot, _, _, ?_, attemptsIn_attemptIn host p slot file⟩
  rw [attempt, hchoose]

/-- An attempt is never refused while a slot is idle. -/
theorem attempt_ne_refused (host : Host σ ω) (avoid : Option Nat) (file : SourceFile)
    (hidle : p.idle ≠ []) : (p.attempt host avoid file).1 ≠ .refused := by
  obtain ⟨slot, -, a, q, hattempt, hattempts⟩ := exists_attemptsIn host avoid file hidle
  rw [hattempt]
  rintro rfl
  cases hattempts

/-! ### Parsing -/

variable (host) in
/-- **How a file is parsed.** -/
inductive Parses (p : State σ ω) (file : SourceFile) : ParseOutcome → State σ ω → Prop
  | shutDown (hdown : p.isShutDown = true) : Parses p file (.error .shutDown) p
  | remembered {facts : Facts} (hup : p.isShutDown = false)
    (hmemo : p.remembered? file.stamp = some facts) :
    Parses p file (.ok facts) { p with memoHits := p.memoHits + 1 }
  | answered {slot : Nat} {q : State σ ω} {o : Outcome} (hup : p.isShutDown = false)
    (hslot : slot ∈ p.idle) (hfirst : AttemptsIn host p slot file (.answered o) q) :
    Parses p file (q.conclude file o).1 (q.conclude file o).2
  | retried {slot slot' again : Nat} {failure : WorkerFailure} {q r : State σ ω} {o : Outcome}
    (hup : p.isShutDown = false) (hslot : slot ∈ p.idle)
    (hfirst : AttemptsIn host p slot file (.failed again failure) q) (hslot' : slot' ∈ q.idle)
    (hsecond : AttemptsIn host q slot' file (.answered o) r) :
    Parses p file (r.conclude file o).1 (r.conclude file o).2
  | failed {slot slot' again last : Nat} {failure failure' : WorkerFailure} {q r : State σ ω}
    (hup : p.isShutDown = false) (hslot : slot ∈ p.idle)
    (hfirst : AttemptsIn host p slot file (.failed again failure) q) (hslot' : slot' ∈ q.idle)
    (hsecond : AttemptsIn host q slot' file (.failed last failure') r) :
    Parses p file (.error (.workersFailed file.path failure failure')) r

/-- The first step of parsing a file, in a pool that has an idle slot. -/
theorem first_cases (host : Host σ ω) (file : SourceFile) (hidle : p.idle ≠ []) :
    (∃ outcome q, p.first host file = (.done outcome, q) ∧ Parses host p file outcome q) ∨
    ∃ slot ∈ p.idle, ∃ again failure q, p.isShutDown = false ∧
      p.first host file = (.retry again failure, q) ∧
      AttemptsIn host p slot file (.failed again failure) q := by
  rw [first]
  by_cases hdown : p.isShutDown = true
  · rw [if_pos hdown]
    exact .inl ⟨_, _, rfl, .shutDown hdown⟩
  rw [if_neg hdown]
  have hup : p.isShutDown = false := by simpa using hdown
  rcases hmemo : p.remembered? file.stamp with - | facts
  · obtain ⟨slot, hslot, a, q, hattempt, hattempts⟩ := exists_attemptsIn host none file hidle
    simp only [hattempt]
    cases a with
    | answered o => exact .inl ⟨_, _, rfl, .answered hup hslot hattempts⟩
    | failed again failure => exact .inr ⟨slot, hslot, again, failure, q, hup, rfl, hattempts⟩
    | refused => cases hattempts
  · exact .inl ⟨_, _, rfl, .remembered hup hmemo⟩

/-- Every file is parsed in one of these ways, if a slot is idle. -/
theorem parses_parse (host : Host σ ω) (file : SourceFile) (hidle : p.idle ≠ []) :
    Parses host p file (p.parse host file).1 (p.parse host file).2 := by
  rw [parse]
  rcases first_cases host file hidle with ⟨outcome, q, hfirst, hparses⟩ |
    ⟨slot, hslot, again, failure, q, hup, hfirst, hattempts⟩
  · simp only [hfirst, second]
    exact hparses
  · -- the slot of the first attempt at least is idle again
    obtain ⟨slot', hslot', a, r, hattempt, hattempts'⟩ :=
      exists_attemptsIn host (some again) file hattempts.idle_ne_nil
    simp only [hfirst, second, hattempt]
    cases a with
    | answered o => exact .retried hup hslot hattempts hslot' hattempts'
    | failed last failure' => exact .failed hup hslot hattempts hslot' hattempts'
    | refused => cases hattempts'

/-! ### Starting -/

/-- A pool before its slots are filled: all of them are idle and empty, and nothing is counted
yet. -/
def blank (options : Options) (world : ω) : State σ ω where
  options
  idle := List.range options.size
  slots := (List.range options.size).map fun _ ↦ none
  world

theorem slot?_blank (options : Options) (world : ω) (slot : Nat) :
    (blank options world : State σ ω).slot? slot = none := by
  rw [slot?, blank, List.getElem?_map]
  cases (List.range options.size)[slot]? <;> rfl

/-- Filling slots is no request. -/
theorem fill_requests (host : Host σ ω) (p : State σ ω) (slots : List Nat) :
    (p.fill host slots).2.memo = p.memo ∧ (p.fill host slots).2.nextRequest = p.nextRequest := by
  induction slots generalizing p with
  | nil => exact ⟨rfl, rfl⟩
  | cons slot rest ih =>
    rw [fill, spawn]
    rcases host.start p.options.command p.world with ⟨reason | process, world⟩
    · exact ih _
    · exact ih _

/-- A pool that starts has slots, and is what filling them leaves. -/
theorem eq_fill_of_start {options : Options} {world w : ω}
    (hstart : start host options world = (.ok p, w)) :
    options.size ≠ 0 ∧ p = ((blank options world).fill host (List.range options.size)).2 := by
  rw [start] at hstart
  rcases hfault : options.fault? with - | fault
  · rw [hfault] at hstart
    dsimp only at hstart
    constructor
    · intro hzero
      rw [Options.fault?, if_pos hzero] at hfault
      cases hfault
    · split at hstart
      · cases hstart
      · exact (Except.ok.inj (Prod.mk.inj hstart).1).symm
  · rw [hfault] at hstart
    cases hstart

/-! ### Runs -/

/-- What can be asked of a pool: to parse a file, or to shut down. Both may be asked of a pool that
was shut down. -/
inductive Step where
  | parse (file : SourceFile)
  | shutdown
  deriving DecidableEq

/-- The pool after a step. -/
def after (host : Host σ ω) (p : State σ ω) : Step → State σ ω
  | .parse file => (p.parse host file).2
  | .shutdown => (p.shutdown host).2

/-- The pool after steps, taken one after another, whatever their outcomes are. -/
def run (host : Host σ ω) (p : State σ ω) (steps : List Step) : State σ ω :=
  steps.foldl (after host) p

theorem run_append (host : Host σ ω) (p : State σ ω) (steps more : List Step) :
    p.run host (steps ++ more) = (p.run host steps).run host more :=
  List.foldl_append

end State

end JavaDeps.Pool
