import JavaDeps.Proofs.Pool.Crowds

/-!
# How often a file is tried among others

**What holds of the tries of a file holds among others, too**, in whatever order calls take turns
and whatever workers do (`call_retries`). The tries of a call are its departures. A call that waits
a second time keeps the failure of the first try, so that its state tells which tries it has made
(`Tried`), and a turn adds a try just if the call departs (`Tried.turn`).

Two clauses look at what others do in between. A call avoids the slot of its first try if it finds
another one idle, and has no choice if the others are out on loan (`chooseSlot?_eq_avoided_iff`): so
in a pool with two slots both tries can be made in the same one (`not_forall_nodup_slots`). But no
two departures of a whole crowd name the same worker (`nodup_blamed_log`), since a worker that was
named is retired from then on.
-/

namespace JavaDeps.Pool

open Wire (Outcome)

variable {σ ω : Type}

namespace State

/-- A pool avoids a slot unless it is the only idle one. -/
theorem chooseSlot?_eq_avoided_iff {avoid slot : Nat} {idle : List Nat}
    (hslot : slot ∈ idle) (hchoose : chooseSlot? (some avoid) idle = some slot) :
    slot = avoid ↔ ∀ other ∈ idle, other = avoid := by
  refine ⟨fun heq other hother ↦ ?_, fun hall ↦ hall slot hslot⟩
  by_contra hne
  exact chooseSlot?_ne hother hne hchoose heq

end State

namespace Crowd

variable {host : Host σ ω} {c q : Crowd σ ω} {d? : Option Departure} {size started i j : Nat}
  {file : SourceFile} {call : Call σ}

/-! ### The tries behind a call -/

/-- **How far the call for a file has come with some tries.** The failure of a first try is kept,
and a call that is done has had its tries. -/
inductive Tried (file : SourceFile) : Call σ → List Try → Prop
  | waiting (place : Nat) : Tried file (.waiting place none) []
  | underway (loan : Loan σ) : Tried file (.underway none loan) [loan.toTry]
  | failed (place slot : Nat) (f : WorkerFailure) :
    Tried file (.waiting place (some (slot, f))) [⟨slot, .error f⟩]
  | again (slot : Nat) (f : WorkerFailure) (loan : Loan σ) :
    Tried file (.underway (some (slot, f)) loan) [⟨slot, .error f⟩, loan.toTry]
  | done {tries : List Try} {outcome : ParseOutcome} (h : Retries file tries outcome) :
    Tried file (.done outcome) tries

namespace Tried

variable {tries : List Try}

/-- A call makes at most two attempts. -/
theorem length_le (h : Tried file call tries) : tries.length ≤ 2 := by
  cases h with
  | waiting _ | underway _ | failed _ _ _ | again _ _ _ => simp
  | done h =>
    obtain ⟨t, -, hcount⟩ := h.count
    rw [hcount]
    split <;> decide

/-- A call that takes a slot begins a try. -/
theorem departs {place : Nat} {failed? : Option (Nat × WorkerFailure)}
    (h : Tried file (.waiting place failed? : Call σ) tries) (loan : Loan σ) :
    Tried file (.underway failed? loan) (tries ++ [loan.toTry]) := by
  cases h with
  | waiting _ => exact .underway loan
  | failed _ slot f => exact .again slot f loan

/-- An answer ends the tries of a call. -/
theorem answered {failed? : Option (Nat × WorkerFailure)} {loan : Loan σ} {o : Outcome}
    (h : Tried file (.underway failed? loan) tries) (hresult : loan.result = .ok o) :
    Tried file (.done (o.mapError (.refused file.path)) : Call σ) tries := by
  cases h with
  | underway _ =>
    rw [Loan.toTry, hresult]
    exact .done (retries_answered file loan.slot o)
  | again slot f _ =>
    have hretries := retries_failed file slot f loan.slot loan.result
    rw [hresult] at hretries
    rw [Loan.toTry, hresult]
    exact .done hretries

/-- A first failure is kept for the second try. -/
theorem failedOnce {loan : Loan σ} {f : WorkerFailure}
    (h : Tried file (.underway none loan) tries) (hresult : loan.result = .error f) (place : Nat) :
    Tried file (.waiting place (some (loan.slot, f)) : Call σ) tries := by
  cases h
  rw [Loan.toTry, hresult]
  exact .failed place loan.slot f

/-- A second failure ends the tries of a call. -/
theorem failedAgain {slot : Nat} {loan : Loan σ} {first f : WorkerFailure}
    (h : Tried file (.underway (some (slot, first)) loan) tries)
    (hresult : loan.result = .error f) :
    Tried file (.done (.error (.workersFailed file.path first f)) : Call σ) tries := by
  cases h
  have hretries := retries_failed file slot first loan.slot loan.result
  rw [hresult] at hretries
  rw [Loan.toTry, hresult]
  exact .done hretries

end Tried

/-! ### Turns of one call -/

/-- The tries of a call among departures, in the order in which they were made. -/
def triesOf (i : Nat) (departures : List Departure) : List Departure :=
  departures.filter (·.call = i)

theorem triesOf_singleton {d : Departure} (h : d.call = i) : triesOf i [d] = [d] :=
  List.filter_cons_of_pos (decide_eq_true h)

/-- The turn of a call leaves the others alone. -/
theorem Turns.getElem?_of_ne (h : Turns host c j q d?) (hne : j ≠ i) :
    q.calls[i]? = c.calls[i]? ∧ triesOf i d?.toList = [] := by
  cases h with
  | rests hpool hcalls => exact ⟨by rw [hcalls], rfl⟩
  | departs hcall hchoose => exact ⟨List.getElem?_set_ne hne, by simp [triesOf, hne]⟩
  | answered _ _ | failed _ _ | failedAgain _ _ => exact ⟨List.getElem?_set_ne hne, rfl⟩

/-- **A turn adds a try to those of a call just if the call departs.** -/
theorem Tried.turn {tries : List Try} (h : Tried file call tries)
    (hcall : c.calls[i]? = some (file, call)) (hturns : Turns host c j q d?) :
    ∃ call', q.calls[i]? = some (file, call') ∧
      Tried file call' (tries ++ (triesOf i d?.toList).map (·.toTry)) := by
  by_cases hne : j = i
  case neg =>
    obtain ⟨hsame, hnone⟩ := hturns.getElem?_of_ne hne
    exact ⟨call, hsame.trans hcall, by rwa [hnone, List.map_nil, List.append_nil]⟩
  subst hne
  have hset : ∀ call' : Call σ, (c.calls.set j (file, call'))[j]? = some (file, call') :=
    fun call' ↦ List.getElem?_set_self (List.getElem?_eq_some_iff.1 hcall).1
  have hnone : tries ++ (triesOf j (none : Option Departure).toList).map (·.toTry) = tries :=
    List.append_nil tries
  cases hturns with
  | rests hpool hcalls => exact ⟨call, by rwa [hcalls], by rwa [hnone]⟩
  | departs hcall' _ =>
    obtain ⟨rfl, rfl⟩ := eq_of_getElem? hcall hcall'
    exact ⟨_, hset _, by simpa [triesOf] using h.departs _⟩
  | answered hcall' hresult =>
    obtain ⟨rfl, rfl⟩ := eq_of_getElem? hcall hcall'
    refine ⟨_, hset _, ?_⟩
    rw [hnone, State.conclude_fst]
    exact h.answered hresult
  | failed hcall' hresult =>
    obtain ⟨rfl, rfl⟩ := eq_of_getElem? hcall hcall'
    exact ⟨_, hset _, by rw [hnone]; exact h.failedOnce hresult _⟩
  | failedAgain hcall' hresult =>
    obtain ⟨rfl, rfl⟩ := eq_of_getElem? hcall hcall'
    exact ⟨_, hset _, by rw [hnone]; exact h.failedAgain hresult⟩

/-! ### The history of a call -/

/-- A call departs from the line, with a slot that it chooses among the idle ones. -/
theorem Turns.departure {d : Departure} (h : Turns host c j q (some d)) :
    d.call = j ∧ d.slot ∈ d.idle ∧ ∃ file place failed?,
      c.calls[j]? = some (file, .waiting place failed?) ∧
      State.chooseSlot? (failed?.map (·.1)) d.idle = some d.slot := by
  cases h with
  | @departs file place slot failed? hcall hchoose =>
    have hslot := (State.exists_lend_eq host c.pool slot file).1
    have hdeparts : (c.pool.lend host slot file).1.toTry.slot = slot := hslot
    dsimp only
    rw [hdeparts]
    exact ⟨rfl, mem_of_chooseSlot? hchoose, file, place, failed?, hcall, hchoose⟩

/-- **The tries of a call, and how far it has come with them.** Each is made in an idle slot, and
the second one elsewhere if another slot is idle. -/
structure History (c : Crowd σ ω) (i : Nat) (file : SourceFile) (tries : List Departure) :
    Prop where
  reached : ∃ call, c.calls[i]? = some (file, call) ∧ Tried file call (tries.map (·.toTry))
  idle : ∀ d ∈ tries, d.slot ∈ d.idle
  elsewhere : tries.Pairwise fun d e ↦ e.slot = d.slot ↔ ∀ other ∈ e.idle, other = d.slot

namespace History

variable {tries : List Departure}

/-- A call that waits once more has tried the slot that it avoids. -/
theorem slot_eq (h : History c i file tries) {place : Nat} {failed? : Option (Nat × WorkerFailure)}
    (hcall : c.calls[i]? = some (file, .waiting place failed?)) :
    ∀ d ∈ tries, failed?.map (·.1) = some d.slot := by
  obtain ⟨call, hcall', htried⟩ := h.reached
  obtain ⟨-, rfl⟩ := eq_of_getElem? hcall hcall'
  intro d hd
  have hmem := List.mem_map_of_mem (f := (·.toTry)) hd
  generalize tries.map (·.toTry) = made at htried hmem
  cases htried with
  | waiting _ => cases hmem
  | failed _ slot f =>
    have hslot := congrArg Try.slot (List.mem_singleton.1 hmem)
    exact congrArg some hslot.symm

/-- **A turn adds to the history of a call.** -/
theorem turn (h : History c i file tries) (hturns : Turns host c j q d?) :
    History q i file (tries ++ triesOf i d?.toList) := by
  obtain ⟨call, hcall, htried⟩ := h.reached
  have hreached := htried.turn hcall hturns
  rw [← List.map_append] at hreached
  rcases d? with - | d
  · exact ⟨hreached, by simpa [triesOf] using h.idle, by simpa [triesOf] using h.elsewhere⟩
  obtain ⟨rfl, hslot, file', place, failed?, hcall', hchoose⟩ := hturns.departure
  by_cases hne : d.call = i
  case neg =>
    have hnone := (hturns.getElem?_of_ne hne).2
    rw [hnone, List.append_nil] at hreached ⊢
    exact ⟨hreached, h.idle, h.elsewhere⟩
  subst hne
  obtain ⟨rfl, rfl⟩ := eq_of_getElem? hcall' hcall
  rw [Option.toList_some, triesOf_singleton rfl] at hreached ⊢
  refine ⟨hreached, fun e he ↦ ?_, ?_⟩
  · rcases List.mem_append.1 he with hold | hnew
    · exact h.idle e hold
    · rwa [List.mem_singleton.1 hnew]
  · refine List.pairwise_append.2 ⟨h.elsewhere, List.pairwise_singleton _ _, fun e he d' hd' ↦ ?_⟩
    obtain rfl := List.mem_singleton.1 hd'
    rw [h.slot_eq hcall' e he] at hchoose
    exact State.chooseSlot?_eq_avoided_iff hslot hchoose

/-- **A move adds to the history of a call.** -/
theorem after (h : History c i file tries) (hup : c.pool.isShutDown = false) {m : Move}
    (hm : m ≠ .shutdown) :
    History (c.after host m) i file (tries ++ triesOf i (c.departure? host m).toList) := by
  cases m with
  | turn j => exact h.turn (turns_turn host hup j)
  | shutdown => exact absurd rfl hm
  | call other =>
    obtain ⟨call, hcall, htried⟩ := h.reached
    have hlt := (List.getElem?_eq_some_iff.1 hcall).1
    have hcall' : (c.make other).calls[i]? = some (file, call) := by
      rw [make, List.getElem?_append_left hlt, hcall]
    have hnone : tries ++ triesOf i (c.departure? host (.call other)).toList = tries :=
      List.append_nil tries
    rw [hnone]
    exact ⟨⟨call, hcall', htried⟩, h.idle, h.elsewhere⟩

/-- A call that begins where no facts are kept has no history. -/
theorem make (hup : c.pool.isShutDown = false) (hmemo : c.pool.remembered? file.stamp = none) :
    History (c.make file) c.calls.length file [] := by
  refine ⟨⟨.waiting c.ticket none, ?_, .waiting c.ticket⟩, nofun, .nil⟩
  rw [Crowd.make, Call.begin, hup, hmemo]
  exact List.getElem?_concat_length

/-- **Any moves add to the history of a call**, as long as the pool has not been shut down. -/
theorem run (h : History c i file tries) (hbooks : c.home.Accounted size started)
    (hup : c.pool.isShutDown = false) {moves : List Move} (hmoves : .shutdown ∉ moves) :
    History (c.run host moves) i file (tries ++ triesOf i (c.log host moves)) := by
  induction moves generalizing c tries with
  | nil => rwa [log, triesOf, List.filter_nil, List.append_nil]
  | cons m rest ih =>
    obtain ⟨hm, hrest, -, hbooks', hup'⟩ := comesHome_cons hbooks hup host hmoves
    have hrun := ih (h.after hup hm) hbooks' hup' hrest
    rwa [List.append_assoc, triesOf, triesOf, ← List.filter_append] at hrun

end History

/-! ### Whom departures name -/

namespace ComesHome

variable {r : State σ ω} {d : Departure} {n : Nat}

/-- A worker that a departure names is retired. -/
theorem retired_of_blamed (h : ComesHome host c r (some d))
    (hbooks : c.home.Accounted size started) (hblamed : d.blamed? = some n) : r.Retired n := by
  cases h with
  | attempts hslot hidle hattempt hlike =>
    have hslot : d.slot ∈ c.home.idle := List.mem_append_left _ (hidle ▸ hslot)
    exact (hbooks.retired hslot hattempt hblamed).like hlike

/-- A departure names no worker that was retired. -/
theorem blamed_ne (h : ComesHome host c r d?) (hretired : c.home.Retired n) :
    ∀ d ∈ d?.toList, d.blamed? ≠ some n := by
  rintro d hd hblamed
  obtain rfl := Option.mem_toList.1 hd
  cases h with
  | attempts _ _ hattempt _ => exact hretired.ne_of_blamed hattempt hblamed rfl

end ComesHome

section

variable (hbooks : c.home.Accounted size started) (hup : c.pool.isShutDown = false)

include hbooks hup

/-- No departure names a worker that was retired before. -/
theorem blamed_ne_of_mem_log (host : Host σ ω) {n : Nat} (hretired : c.home.Retired n)
    {moves : List Move} (hmoves : .shutdown ∉ moves) :
    ∀ d ∈ c.log host moves, d.blamed? ≠ some n := by
  induction moves generalizing c with
  | nil => exact nofun
  | cons m rest ih =>
    obtain ⟨-, hrest, hhome, hbooks', hup'⟩ := comesHome_cons hbooks hup host hmoves
    intro d hd
    rcases List.mem_append.1 hd with hnow | hlater
    · exact hhome.blamed_ne hretired d hnow
    · exact ih hbooks' hup' (hhome.retired hbooks hretired) hrest d hlater

/-- **No two departures name the same worker**, of whatever calls they are. -/
theorem nodup_blamed_log (host : Host σ ω) {moves : List Move} (hmoves : .shutdown ∉ moves) :
    ((c.log host moves).filterMap (·.blamed?)).Nodup := by
  induction moves generalizing c with
  | nil => exact List.nodup_nil
  | cons m rest ih =>
    obtain ⟨-, hrest, hhome, hbooks', hup'⟩ := comesHome_cons hbooks hup host hmoves
    rw [log, List.filterMap_append]
    refine List.nodup_append.2 ⟨?_, ih hbooks' hup' hrest, ?_⟩
    · refine List.pairwise_filterMap.2 ?_
      cases c.departure? host m <;> simp
    · rintro n hnow _ hlater rfl
      obtain ⟨d, hd, hblamed⟩ := List.mem_filterMap.1 hnow
      obtain ⟨e, he, hblamed'⟩ := List.mem_filterMap.1 hlater
      rw [Option.mem_toList.1 hd] at hhome
      have hretired := hhome.retired_of_blamed hbooks hblamed
      exact blamed_ne_of_mem_log hbooks' hup' host hretired hrest e he hblamed'

end

/-! ### The law -/

/-- **The law of retries** for the call with a number, which is made for a file in some moves. -/
structure RetryLaw (host : Host σ ω) (c : Crowd σ ω) (i : Nat) (file : SourceFile)
    (moves : List Move) : Prop where
  /-- The log misses no request: each departure takes the number of one, and nothing else does. -/
  numbers : (c.run host moves).pool.nextRequest ≡
    c.pool.nextRequest + (c.log host moves).length [MOD Nat.pow 2 64]
  /-- Whether or not the call is done, it has not made more than two tries. -/
  count : (triesOf i (c.log host moves)).length ≤ 2
  /-- Each try is made in a slot that is idle at that time. -/
  idle : ∀ d ∈ triesOf i (c.log host moves), d.slot ∈ d.idle
  /-- The second try is made in the slot of the first one just if no other slot is idle then. -/
  elsewhere : (triesOf i (c.log host moves)).Pairwise fun d e ↦
    e.slot = d.slot ↔ ∀ other ∈ e.idle, other = d.slot
  /-- No two tries name the same worker, not even tries of different calls. -/
  another : ((c.log host moves).filterMap (·.blamed?)).Nodup
  /-- Once the call is done, its outcome is what the tries come to. -/
  outcome : ∀ outcome, (c.run host moves).calls[i]? = some (file, .done outcome) →
    Retries file ((triesOf i (c.log host moves)).map (·.toTry)) outcome
  /-- The call gets done if calls have their turns. -/
  done : ∃ (turns : List Nat) (outcome : ParseOutcome),
    (c.run host (moves ++ turns.map .turn)).calls[i]? = some (file, .done outcome)

section

variable (hbooks : c.home.Accounted size started) (hsize : size ≠ 0)
  (hup : c.pool.isShutDown = false)

include hbooks hup

/-- **A call for a file of which no facts are kept has a history**, from when it is made. -/
theorem history_call (host : Host σ ω) (hmemo : c.pool.remembered? file.stamp = none)
    {after : List Move} (hafter : .shutdown ∉ after) :
    History (c.run host (.call file :: after)) c.calls.length file
      (triesOf c.calls.length (c.log host (.call file :: after))) := by
  obtain ⟨hbooks', hup'⟩ :=
    (comesHome_after hbooks hup host (m := .call file) nofun).accounted hbooks hup
  exact (History.make hup hmemo).run hbooks' hup' hafter

include hsize

/-- **After any moves there are turns by which the call is done.** -/
theorem exists_turns_done (host : Host σ ω) (hmemo : c.pool.remembered? file.stamp = none)
    {after : List Move} (hafter : .shutdown ∉ after) :
    ∃ (turns : List Nat) (outcome : ParseOutcome),
      (c.run host (.call file :: after ++ turns.map .turn)).calls[c.calls.length]? =
        some (file, .done outcome) := by
  have hmoves : .shutdown ∉ Move.call file :: after :=
    List.not_mem_cons_of_ne_of_not_mem nofun hafter
  obtain ⟨hserved, hopen⟩ := accounted_run hbooks hup host hmoves
  obtain ⟨turns, hserve, hdone⟩ := exists_serve_isDone host hserved hsize hopen
  have hturns : .shutdown ∉ after ++ turns.map Move.turn := by simp [hafter]
  obtain ⟨call, hcall, -⟩ := (history_call hbooks hup host hmemo hturns).reached
  rw [hserve, run, run, ← List.foldl_append] at hdone
  obtain ⟨outcome, rfl⟩ := hdone _ (List.mem_of_getElem? hcall)
  exact ⟨turns, outcome, hcall⟩

/-- A call for a file of which no facts are kept follows the law of retries. -/
theorem retryLaw (host : Host σ ω) (hmemo : c.pool.remembered? file.stamp = none)
    {after : List Move} (hafter : .shutdown ∉ after) :
    RetryLaw host c c.calls.length file (.call file :: after) := by
  have hmoves : .shutdown ∉ Move.call file :: after :=
    List.not_mem_cons_of_ne_of_not_mem nofun hafter
  have hhistory := history_call hbooks hup host hmemo hafter
  obtain ⟨call, hcall, htried⟩ := hhistory.reached
  refine
    { numbers := nextRequest_run hbooks hup host hmoves
      count := by simpa using htried.length_le
      idle := hhistory.idle
      elsewhere := hhistory.elsewhere
      another := nodup_blamed_log hbooks hup host hmoves
      outcome := fun outcome hdone ↦ ?_
      done := exists_turns_done hbooks hsize hup host hmemo hafter }
  obtain ⟨-, rfl⟩ := eq_of_getElem? hcall hdone
  cases htried with
  | done hretries => exact hretries

end

/-- **A file is tried once if a worker answers, and exactly twice otherwise**, whatever else a pool
is asked for at the same time. For a pool that was started and has had any calls since, with any
turns, whatever its workers do: a call for a file of which no facts are kept follows the law of
retries, whatever calls are made and have turns after it, as long as the pool is not shut down. -/
theorem call_retries {host : Host σ ω} {options : Options} {world w : ω} {p₀ : State σ ω}
    (hstart : State.start host options world = (.ok p₀, w)) {before after : List Move}
    (hup : .shutdown ∉ before ++ after) {file : SourceFile}
    (hmemo : (run host { pool := p₀ } before).pool.remembered? file.stamp = none) :
    RetryLaw host (run host { pool := p₀ } before) (run host { pool := p₀ } before).calls.length
      file (.call file :: after) := by
  obtain ⟨hbefore, hafter⟩ := not_or.1 (mt List.mem_append.2 hup)
  obtain ⟨hsize, hbooks, hup⟩ := accounted_run_of_start hstart hbefore
  generalize run host { pool := p₀ } before = c at hmemo hbooks hup ⊢
  exact retryLaw hbooks hsize hup host hmemo hafter

/-- Workers that exit as soon as they are asked for anything. -/
def fleeting : Host Unit Unit where
  start _ w := (.ok (), w)
  exchange _ _ s w := (.closed, s, w)
  exits _ _ w := (true, w)

/-- In a pool of two slots, one is on loan when a file is asked for and stays so. The file is tried
twice in the other slot, with a worker that was there and with one that was started for it. -/
theorem call_retries_of_fleeting :
    ∃ p₀, State.start fleeting { command := { program := "worker" }, size := 2 } () = (.ok p₀, ()) ∧
      let c := run fleeting { pool := p₀ } [.call ⟨⟨"B.java"⟩, "b"⟩, .turn 0]
      let moves := [.call ⟨⟨"A.java"⟩, "a"⟩, .turn 1, .turn 1, .turn 1, .turn 1]
      c.pool.remembered? (SourceFile.mk ⟨"A.java"⟩ "a").stamp = none ∧
        RetryLaw fleeting c 1 ⟨⟨"A.java"⟩, "a"⟩ moves ∧
        (triesOf 1 (c.log fleeting moves)).map (·.slot) = [1, 1] ∧
        (c.run fleeting moves).outcomes[1]? =
          some (.error (.workersFailed ⟨"A.java"⟩ (.crashed 2) (.crashed 3))) := by
  have hstart : State.start fleeting { command := { program := "worker" }, size := 2 } () =
      (.ok _, ()) := rfl
  have hup : Move.shutdown ∉ [.call ⟨⟨"B.java"⟩, "b"⟩, .turn 0] ++
      [.turn 1, .turn 1, .turn 1, .turn 1] := by decide
  exact ⟨_, hstart, rfl, call_retries hstart hup rfl, by decide +kernel, by decide +kernel⟩

/-- **A pool with two slots may try a file twice in the same one**: the other slot can be on loan to
another call when the second try begins. -/
theorem not_forall_nodup_slots :
    ¬ ∀ (host : Host Unit Unit) (options : Options) (p₀ : State Unit Unit)
        (before after : List Move) (file : SourceFile), 2 ≤ options.size →
      State.start host options () = (.ok p₀, ()) → .shutdown ∉ before ++ after →
      (run host { pool := p₀ } before).pool.remembered? file.stamp = none →
      ((triesOf (run host { pool := p₀ } before).calls.length
        ((run host { pool := p₀ } before).log host (.call file :: after))).map (·.slot)).Nodup := by
  intro hall
  have hslots := hall fleeting { command := { program := "worker" }, size := 2 } _
    [.call ⟨⟨"B.java"⟩, "b"⟩, .turn 0] [.turn 1, .turn 1, .turn 1] ⟨⟨"A.java"⟩, "a"⟩ (by decide)
    rfl (by decide) rfl
  have hsame : ¬ ([1, 1] : List Nat).Nodup := by decide
  exact hsame hslots

end Crowd

end JavaDeps.Pool
