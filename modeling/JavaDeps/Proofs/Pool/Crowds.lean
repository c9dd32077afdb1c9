import JavaDeps.Proofs.Pool.Loans
import Mathlib.Data.Nat.ModEq

/-!
# What a crowd does to its pool

**A crowd does to its pool what attempts do that are made one after another.** To see it, look at
the pool as it would be if all loans were given back (`Crowd.home`). A call that takes a slot does
to that pool what an attempt in the slot does on its own; from then on the call does nothing to it
until it is done, and then it keeps facts at most (`Crowd.comesHome`). All that the others make a
difference to is the order in which slots are idle.

So whatever attempts preserve is preserved by crowds. Their books are right (`Crowd.accounted_run`),
workers that were retired stay so (`ComesHome.retired`), and their counts do not go further than
they have had moves (`Crowd.countsWithin_run`). And since a slot that is not idle is on loan, the
calls of a crowd get done (`Crowd.exists_serve_isDone`), and files that are handed in at once all
have an outcome (`exists_parseAll_eq`).
-/

namespace JavaDeps.Pool

open Wire (Outcome)

variable {σ ω : Type}

namespace State

/-! ### Giving loans back -/

/-- Whether a pool is another one with its idle slots in some order, in some world. -/
def Like (p q : State σ ω) : Prop := ∃ idle world, idle.Perm p.idle ∧ q = { p with idle, world }

/-- The slots, with the worker of a loan put back. -/
def putBack (slots : List (Option (Handle σ))) (loan : Loan σ) : List (Option (Handle σ)) :=
  slots.set loan.slot loan.worker

/-- The pool as it would be if loans were given back. -/
def settled (p : State σ ω) (loans : List (Loan σ)) : State σ ω :=
  { p with idle := p.idle ++ loans.map (·.slot), slots := loans.foldl putBack p.slots }

variable {host : Host σ ω} {p q : State σ ω} {size started slot : Nat} {file : SourceFile}

/-- To put workers back leaves the other slots alone. -/
theorem foldl_putBack_set {loans : List (Loan σ)} (hslot : slot ∉ loans.map (·.slot))
    (slots : List (Option (Handle σ))) (worker : Option (Handle σ)) :
    loans.foldl putBack (slots.set slot worker) = (loans.foldl putBack slots).set slot worker := by
  induction loans generalizing slots with
  | nil => rfl
  | cons loan rest ih =>
    obtain ⟨hne, hrest⟩ := not_or.1 (mt List.mem_cons.2 hslot)
    rw [List.foldl_cons, List.foldl_cons, putBack, putBack, List.set_comm _ _ hne, ih hrest]

/-- A slot that is not on loan holds what it held before. -/
theorem slot?_settled {loans : List (Loan σ)} (hslot : slot ∉ loans.map (·.slot)) :
    (p.settled loans).slot? slot = p.slot? slot := by
  have hsame : ∀ slots : List (Option (Handle σ)),
      (loans.foldl putBack slots)[slot]? = slots[slot]? := by
    induction loans with
    | nil => exact fun slots ↦ rfl
    | cons loan rest ih =>
      obtain ⟨hne, hrest⟩ := not_or.1 (mt List.mem_cons.2 hslot)
      intro slots
      rw [List.foldl_cons, ih hrest, putBack, List.getElem?_set_ne (Ne.symm hne)]
  rw [slot?, slot?, settled, hsame]

/-- To put back a worker beside others comes to the same as to put it back last. -/
theorem foldl_putBack_cons {front back : List (Loan σ)} {loan : Loan σ}
    (hback : loan.slot ∉ back.map (·.slot)) (slots : List (Option (Handle σ))) :
    (front ++ loan :: back).foldl putBack slots =
      ((front ++ back).foldl putBack slots).set loan.slot loan.worker := by
  rw [List.foldl_append, List.foldl_cons, putBack, foldl_putBack_set hback, List.foldl_append]

/-- **To lend a slot is to make an attempt in it**, in the pool with all loans given back. -/
theorem exists_attemptIn_settled (host : Host σ ω) (file : SourceFile) {front back : List (Loan σ)}
    (hslot : slot ∈ p.idle) (hfresh : slot ∉ (front ++ back).map (·.slot)) :
    ∃ r, (p.settled (front ++ back)).attemptIn host slot file =
        ((p.lend host slot file).1.toTry.attempt, r) ∧
      r.Like ((p.lend host slot file).2.settled (front ++ (p.lend host slot file).1 :: back)) := by
  refine ⟨_, attemptIn_eq_lend host p slot file (slot?_settled hfresh), ?_⟩
  obtain ⟨hloan, nextWorker, spawned, respawned, world, hlend⟩ := exists_lend_eq host p slot file
  generalize p.lend host slot file = lent at hloan hlend ⊢
  obtain ⟨loan, q⟩ := lent
  dsimp only at hloan hlend
  subst hlend
  have hback : loan.slot ∉ back.map (·.slot) := fun hmem ↦ hfresh <| by
    rw [← hloan, List.map_append]
    exact List.mem_append_right _ hmem
  refine ⟨p.idle.erase slot ++ (front ++ loan :: back).map (·.slot), world, ?_, ?_⟩
  · show List.Perm _ ((p.idle ++ (front ++ back).map (·.slot)).erase slot ++ [slot])
    rw [List.erase_append_left _ hslot, List.append_assoc, List.map_append, List.map_append,
      List.map_cons, hloan, List.append_assoc]
    exact (List.perm_append_left_iff _).2
      ((List.perm_append_left_iff _).2 (List.perm_append_singleton slot _).symm)
  · simp only [settled, giveBack, setSlot, checkout]
    rw [foldl_putBack_cons hback, foldl_putBack_set hfresh, hloan, List.set_set]

/-- **To take a loan back changes nothing** in the pool with all loans given back. -/
theorem like_settled_takeBack (host : Host σ ω) (hup : p.isShutDown = false)
    {front back : List (Loan σ)} {loan : Loan σ}
    (hfresh : loan.slot ∉ (front ++ back).map (·.slot)) :
    (p.settled (front ++ loan :: back)).Like ((p.takeBack host loan).settled (front ++ back)) := by
  have hback : loan.slot ∉ back.map (·.slot) := fun hmem ↦ hfresh <| by
    rw [List.map_append]
    exact List.mem_append_right _ hmem
  refine ⟨p.idle ++ [loan.slot] ++ (front ++ back).map (·.slot), host.setClock loan.due p.world,
    ?_, ?_⟩
  · show List.Perm _ (p.idle ++ (front ++ loan :: back).map (·.slot))
    rw [List.append_assoc, List.singleton_append, List.map_append, List.map_append, List.map_cons]
    exact (List.perm_append_left_iff _).2 List.perm_middle.symm
  · simp only [settled, takeBack, giveBack, setSlot, hup, Bool.false_eq_true, if_false]
    rw [foldl_putBack_cons hback, foldl_putBack_set hfresh]

/-! ### What pools that are alike share -/

theorem Like.refl (p : State σ ω) : p.Like p := ⟨p.idle, p.world, .refl _, rfl⟩

theorem Like.isShutDown (h : p.Like q) : q.isShutDown = p.isShutDown := by
  obtain ⟨idle, world, -, rfl⟩ := h
  rfl

theorem Like.nextRequest (h : p.Like q) : q.nextRequest = p.nextRequest := by
  obtain ⟨idle, world, -, rfl⟩ := h
  rfl

/-- Facts that are kept make no difference. -/
theorem Like.withMemo (h : p.Like q) (memo : List (Stamp × Java.Facts)) (memoHits : Nat) :
    ({ p with memo, memoHits } : State σ ω).Like { q with memo, memoHits } := by
  obtain ⟨idle, world, hperm, rfl⟩ := h
  exact ⟨idle, world, hperm, rfl⟩

theorem Accounted.like (h : Accounted size started p) (hlike : p.Like q) :
    Accounted size started q := by
  obtain ⟨idle, world, hperm, rfl⟩ := hlike
  exact { h with idle := hperm.trans h.idle }

theorem Retired.like {n : Nat} (h : Retired n p) (hlike : p.Like q) : Retired n q := by
  obtain ⟨idle, world, -, rfl⟩ := hlike
  exact { h with }

theorem CountsWithin.like {n : Nat} {r : State σ ω} (h : CountsWithin n p q) (hlike : q.Like r) :
    CountsWithin n p r := by
  obtain ⟨idle, world, -, rfl⟩ := hlike
  exact { h with }

end State

namespace Crowd

/-- The loans of the calls that are under way. -/
def loans (c : Crowd σ ω) : List (Loan σ) := c.calls.filterMap (·.2.loan?)

/-- **The pool of a crowd, with all loans given back.** -/
def home (c : Crowd σ ω) : State σ ω := c.pool.settled c.loans

variable {host : Host σ ω} {c : Crowd σ ω} {size started : Nat}

/-- Without calls nothing is on loan. -/
theorem home_mk (p : State σ ω) : ({ pool := p } : Crowd σ ω).home = p := by
  simp [home, loans, State.settled]

/-! ### Departures -/

/-- The loan of a call, if it has one. -/
def loan? (c : Crowd σ ω) (i : Nat) : Option (Loan σ) := (c.calls[i]?).bind (·.2.loan?)

theorem loan?_eq_of_getElem? {i : Nat} {file : SourceFile} {call : Call σ}
    (hcall : c.calls[i]? = some (file, call)) : c.loan? i = call.loan? := by
  rw [loan?, hcall]
  rfl

/-- After its turn a call has the loan that it has then. -/
theorem loan?_set {i : Nat} {entry : SourceFile × Call σ} (hcall : c.calls[i]? = some entry)
    (pool : State σ ω) (file : SourceFile) (call : Call σ) (ticket : Nat) :
    ({ pool, calls := c.calls.set i (file, call), ticket } : Crowd σ ω).loan? i = call.loan? := by
  obtain ⟨hlt, -⟩ := List.getElem?_eq_some_iff.1 hcall
  rw [loan?, List.getElem?_set_self hlt]
  rfl

/-- A call takes a slot: the try that it makes there, and which slots it found idle. -/
structure Departure extends Try where
  call : Nat
  idle : List Nat

/-- The departure in a move: a call has a loan after it, and had none before. -/
def departure? (host : Host σ ω) (c : Crowd σ ω) : Move → Option Departure
  | .turn i =>
    match c.loan? i, (c.turn host i).loan? i with
    | none, some loan => some { loan.toTry with call := i, idle := c.pool.idle }
    | _, _ => none
  | .call _ | .shutdown => none

/-! ### Turns -/

variable (host c) in
/-- **What happens when it is the turn of a call**, in a pool that has not been shut down: what the
crowd is then, and whether the call departs. -/
inductive Turns (i : Nat) : Crowd σ ω → Option Departure → Prop
  /-- The call does nothing. It is done, or it waits and no slot is idle. -/
  | rests {d : Crowd σ ω} (hpool : d.pool = c.pool) (hcalls : d.calls = c.calls) :
    Turns i d none
  | departs {file : SourceFile} {place slot : Nat} {failed? : Option (Nat × WorkerFailure)}
    (hcall : c.calls[i]? = some (file, .waiting place failed?))
    (hchoose : State.chooseSlot? (failed?.map (·.1)) c.pool.idle = some slot) :
    Turns i { pool := (c.pool.lend host slot file).2,
              calls := c.calls.set i (file, .underway failed? (c.pool.lend host slot file).1),
              ticket := c.ticket + 1 }
      (some { (c.pool.lend host slot file).1.toTry with call := i, idle := c.pool.idle })
  | answered {file : SourceFile} {failed? : Option (Nat × WorkerFailure)} {loan : Loan σ}
    {o : Outcome} (hcall : c.calls[i]? = some (file, .underway failed? loan))
    (hresult : loan.result = .ok o) :
    Turns i { pool := ((c.pool.takeBack host loan).conclude file o).2,
              calls := c.calls.set i (file, .done ((c.pool.takeBack host loan).conclude file o).1),
              ticket := c.ticket + 1 } none
  | failed {file : SourceFile} {loan : Loan σ} {f : WorkerFailure}
    (hcall : c.calls[i]? = some (file, .underway none loan)) (hresult : loan.result = .error f) :
    Turns i { pool := c.pool.takeBack host loan,
              calls := c.calls.set i (file, .waiting c.ticket (some (loan.slot, f))),
              ticket := c.ticket + 1 } none
  | failedAgain {file : SourceFile} {slot : Nat} {loan : Loan σ} {first f : WorkerFailure}
    (hcall : c.calls[i]? = some (file, .underway (some (slot, first)) loan))
    (hresult : loan.result = .error f) :
    Turns i { pool := c.pool.takeBack host loan,
              calls := c.calls.set i (file, .done (.error (.workersFailed file.path first f))),
              ticket := c.ticket + 1 } none

/-- To set an item of a list to what it is changes nothing. -/
theorem set_eq_self {α : Type} {l : List α} {i : Nat} {a : α} (h : l[i]? = some a) :
    l.set i a = l := by
  obtain ⟨hlt, rfl⟩ := List.getElem?_eq_some_iff.1 h
  exact List.set_getElem_self hlt

/-- **A turn is one of these five things**, and a call departs in no other one than the second. -/
theorem turns_turn (host : Host σ ω) (hup : c.pool.isShutDown = false) (i : Nat) :
    Turns host c i (c.turn host i) (c.departure? host (.turn i)) := by
  rw [departure?, turn]
  rcases hcall : c.calls[i]? with - | ⟨file, ⟨place, failed?⟩ | ⟨failed?, loan⟩ | outcome⟩
  · dsimp only
    rw [show c.loan? i = none by rw [loan?, hcall]; rfl]
    exact .rests rfl rfl
  · rw [loan?_eq_of_getElem? hcall]
    simp only [Call.advance, Call.board, hup, Bool.false_eq_true, if_false, loan?_set hcall]
    rcases hchoose : State.chooseSlot? (failed?.map (·.1)) c.pool.idle with - | slot <;>
      simp only [hchoose]
    · exact .rests rfl (set_eq_self hcall)
    · exact .departs hcall hchoose
  · rw [loan?_eq_of_getElem? hcall]
    simp only [Call.advance, Call.arrive, loan?_set hcall]
    rcases hresult : loan.result with f | o
    · rcases failed? with - | ⟨slot, first⟩
      · exact .failed hcall hresult
      · exact .failedAgain hcall hresult
    · exact .answered hcall hresult
  · rw [loan?_eq_of_getElem? hcall]
    simp only [Call.advance, loan?_set hcall]
    exact .rests rfl (set_eq_self hcall)

/-! ### Loans -/

/-- What the loans are once a call has got further: those of the other calls stay as they are. -/
theorem exists_loans_set {i : Nat} {file : SourceFile} {call : Call σ}
    (hcall : c.calls[i]? = some (file, call)) :
    ∃ front back, c.loans = front ++ call.loan?.toList ++ back ∧
      ∀ pool ticket call', ({ pool, calls := c.calls.set i (file, call'), ticket } :
        Crowd σ ω).loans = front ++ call'.loan?.toList ++ back := by
  obtain ⟨hlt, hself⟩ := List.getElem?_eq_some_iff.1 hcall
  have hset : ∀ call', (c.calls.set i (file, call')).filterMap (·.2.loan?) =
      (c.calls.take i).filterMap (·.2.loan?) ++ call'.loan?.toList ++
        (c.calls.drop (i + 1)).filterMap (·.2.loan?) := by
    intro call'
    rw [List.set_eq_take_append_cons_drop, if_pos hlt, List.filterMap_append, List.filterMap_cons]
    cases call'.loan? <;> simp
  refine ⟨_, _, ?_, fun _ _ ↦ hset⟩
  rw [← hset, ← hself, List.set_getElem_self]
  rfl

variable (host c) in
/-- **What a move does to the pool with all loans given back**: an attempt that is made in an idle
slot, or nothing but to keep facts or to find them kept. -/
inductive ComesHome (q : State σ ω) : Option Departure → Prop
  | rests {memo : List (Stamp × Java.Facts)} {memoHits : Nat}
    (hhits : memoHits ≤ c.pool.memoHits + 1)
    (hlike : ({ c.home with memo, memoHits } : State σ ω).Like q) : ComesHome q none
  | attempts {d : Departure} {file : SourceFile} {r : State σ ω} (hslot : d.slot ∈ d.idle)
    (hidle : d.idle = c.pool.idle)
    (hattempt : c.home.attemptIn host d.slot file = (d.attempt, r)) (hlike : r.Like q) :
    ComesHome q (some d)

theorem comesHome_of_eq {q : State σ ω} (h : q = c.home) : ComesHome host c q none :=
  h ▸ .rests (Nat.le_succ _) (.refl _)

/-- A call begins without a loan, and does nothing to the pool but to find facts kept. -/
theorem exists_begin_eq (p : State σ ω) (ticket : Nat) (file : SourceFile) :
    (Call.begin p ticket file).1.loan? = none ∧
      ∃ memoHits ≤ p.memoHits + 1, (Call.begin p ticket file).2 = { p with memoHits } := by
  rw [Call.begin]
  split
  · exact ⟨rfl, _, Nat.le_succ _, rfl⟩
  · split
    · exact ⟨rfl, _, Nat.le_refl _, rfl⟩
    · exact ⟨rfl, _, Nat.le_succ _, rfl⟩

/-- To make a call does nothing to the pool, or counts one hit. -/
theorem comesHome_make (host : Host σ ω) (c : Crowd σ ω) (file : SourceFile) :
    ComesHome host c (c.make file).home none := by
  obtain ⟨hnone, memoHits, hhits, hpool⟩ := exists_begin_eq c.pool c.ticket file
  have hloans : (c.make file).loans = c.loans := by
    rw [loans, make, List.filterMap_append]
    simp only [List.filterMap_cons, hnone, List.filterMap_nil, List.append_nil]
    rfl
  have hhome : (c.make file).home = { c.home with memoHits } := by
    rw [home, hloans, make]
    simp only [hpool]
    rfl
  rw [hhome]
  exact .rests hhits (.refl _)

/-- A call that gives its slot back does nothing to the pool with all loans given back. -/
theorem like_home_takeBack (host : Host σ ω) (hup : c.pool.isShutDown = false)
    (hnodup : c.home.idle.Nodup) {i : Nat} {file : SourceFile}
    {failed? : Option (Nat × WorkerFailure)} {loan : Loan σ}
    (hcall : c.calls[i]? = some (file, .underway failed? loan)) {call : Call σ}
    (hnone : call.loan? = none) (ticket : Nat) :
    c.home.Like
      ({ pool := c.pool.takeBack host loan, calls := c.calls.set i (file, call), ticket } :
        Crowd σ ω).home := by
  obtain ⟨front, back, hloans, hset⟩ := exists_loans_set hcall
  have hloans : c.loans = front ++ loan :: back := by
    rw [hloans, Call.loan?, Option.toList_some, List.append_assoc, List.singleton_append]
  have hfresh : loan.slot ∉ (front ++ back).map (·.slot) := by
    have hlent : ((front ++ loan :: back).map (·.slot)).Nodup :=
      hloans ▸ (List.nodup_append.1 hnodup).2.1
    rw [(List.perm_middle.map _).nodup_iff, List.map_cons] at hlent
    exact (List.nodup_cons.1 hlent).1
  rw [home, home, hset, hnone, Option.toList_none, List.append_nil, hloans]
  exact State.like_settled_takeBack host hup hfresh

/-- **A call that takes a slot makes an attempt** in the pool with all loans given back. -/
theorem exists_attemptIn_home (host : Host σ ω) (hnodup : c.home.idle.Nodup) {i slot place : Nat}
    {file : SourceFile} {failed? : Option (Nat × WorkerFailure)}
    (hcall : c.calls[i]? = some (file, .waiting place failed?)) (hslot : slot ∈ c.pool.idle)
    (ticket : Nat) :
    ∃ r, c.home.attemptIn host slot file =
        ((c.pool.lend host slot file).1.toTry.attempt, r) ∧
      r.Like ({ pool := (c.pool.lend host slot file).2,
                calls := c.calls.set i
                  (file, .underway failed? (c.pool.lend host slot file).1), ticket } :
        Crowd σ ω).home := by
  obtain ⟨front, back, hloans, hset⟩ := exists_loans_set hcall
  have hloans : c.loans = front ++ back := by
    rw [hloans, Call.loan?, Option.toList_none, List.append_nil]
  have hfresh : slot ∉ (front ++ back).map (·.slot) := fun hmem ↦
    (List.nodup_append.1 hnodup).2.2 slot hslot slot (hloans ▸ hmem) rfl
  rw [home, home, hset, Call.loan?, Option.toList_some, List.append_assoc, List.singleton_append,
    hloans]
  exact State.exists_attemptIn_settled host file hslot hfresh

/-- A slot is chosen among the idle ones. -/
theorem mem_of_chooseSlot? {avoid : Option Nat} {idle : List Nat} {slot : Nat}
    (h : State.chooseSlot? avoid idle = some slot) : slot ∈ idle := by
  have hidle : idle ≠ [] := fun hnil ↦ by
    rw [State.chooseSlot?_eq_none_iff.2 hnil] at h
    cases h
  obtain ⟨slot', hslot', hchoose⟩ := State.exists_chooseSlot? avoid hidle
  rwa [Option.some.inj (h.symm.trans hchoose)]

/-- **A crowd does to its pool what attempts do.** -/
theorem comesHome (host : Host σ ω) (hup : c.pool.isShutDown = false) (hnodup : c.home.idle.Nodup)
    {m : Move} (hm : m ≠ .shutdown) :
    ComesHome host c (c.after host m).home (c.departure? host m) := by
  cases m with
  | call file => exact comesHome_make host c file
  | shutdown => exact absurd rfl hm
  | turn i =>
    have hturns := turns_turn host hup i
    show ComesHome host c (c.turn host i).home _
    generalize c.turn host i = q, c.departure? host (.turn i) = d? at hturns
    cases hturns with
    | rests hpool hcalls =>
      exact comesHome_of_eq (by rw [home, home, loans, loans, hpool, hcalls])
    | @departs file place slot failed? hcall hchoose =>
      have hidle := mem_of_chooseSlot? hchoose
      obtain ⟨r, hattempt, hlike⟩ := exists_attemptIn_home host hnodup hcall hidle (c.ticket + 1)
      have hslot := (State.exists_lend_eq host c.pool slot file).1
      generalize c.pool.lend host slot file = lent at hattempt hlike hslot ⊢
      subst hslot
      exact .attempts hidle rfl hattempt hlike
    | @answered file _ loan o hcall hresult =>
      have hlike := like_home_takeBack host hup hnodup hcall
        (by rfl : (Call.done ((c.pool.takeBack host loan).conclude file o).1).loan? = none)
        (c.ticket + 1)
      obtain ⟨memo, hmemo⟩ := State.exists_conclude_snd (c.pool.takeBack host loan) file o
      rw [hmemo]
      exact .rests (Nat.le_succ _) (hlike.withMemo memo c.home.memoHits)
    | failed hcall hresult =>
      exact .rests (Nat.le_succ _) (like_home_takeBack host hup hnodup hcall rfl _)
    | failedAgain hcall hresult =>
      exact .rests (Nat.le_succ _) (like_home_takeBack host hup hnodup hcall rfl _)

/-! ### What moves preserve -/

namespace ComesHome

variable {q : State σ ω} {d? : Option Departure}

/-- **A move keeps the books right.** -/
theorem accounted (h : ComesHome host c q d?) (hbooks : c.home.Accounted size started)
    (hup : c.pool.isShutDown = false) : q.Accounted size started ∧ q.isShutDown = false := by
  cases h with
  | @rests memo memoHits _ hlike =>
    have hhome : ({ c.home with memo, memoHits } : State σ ω).Accounted size started :=
      { hbooks with }
    exact ⟨hhome.like hlike, hlike.isShutDown.trans hup⟩
  | @attempts d _ _ hslot hidle hattempt hlike =>
    have hslot : d.slot ∈ c.home.idle := List.mem_append_left _ (hidle ▸ hslot)
    obtain ⟨hr, hup⟩ := hbooks.attemptIn hup hslot hattempt
    exact ⟨hr.like hlike, hlike.isShutDown.trans hup⟩

/-- **A worker that was retired stays so.** -/
theorem retired {n : Nat} (h : ComesHome host c q d?) (hbooks : c.home.Accounted size started)
    (hretired : c.home.Retired n) : q.Retired n := by
  cases h with
  | @rests memo memoHits _ hlike =>
    have hhome : ({ c.home with memo, memoHits } : State σ ω).Retired n := { hretired with }
    exact hhome.like hlike
  | @attempts d _ _ hslot hidle hattempt hlike =>
    have hslot : d.slot ∈ c.home.idle := List.mem_append_left _ (hidle ▸ hslot)
    exact (hretired.attemptIn (hbooks.slot_lt hslot) hattempt).like hlike

/-- **A departure takes the number of one request**, and nothing else does. -/
theorem nextRequest (h : ComesHome host c q d?) :
    q.nextRequest ≡ c.home.nextRequest + d?.toList.length [MOD Nat.pow 2 64] := by
  cases h with
  | rests _ hlike =>
    rw [hlike.nextRequest]
    exact .refl _
  | attempts _ _ hattempt hlike =>
    rw [hlike.nextRequest, State.nextRequest_attemptIn hattempt]
    exact Nat.mod_modEq _ _

/-- A move counts one worker at most, and one hit. -/
theorem countsWithin (h : ComesHome host c q d?) : State.CountsWithin 1 c.home q := by
  cases h with
  | rests hhits hlike =>
    refine State.CountsWithin.like ?_ hlike
    exact ⟨Nat.le_succ _, Nat.le_succ _, Nat.le_succ _, hhits⟩
  | @attempts d file _ _ _ hattempt hlike =>
    have hattempts := State.attemptsIn_attemptIn host c.home d.slot file
    rw [hattempt] at hattempts
    exact hattempts.countsWithin.like hlike

end ComesHome

/-- The departures in moves, the first one first. Every slot that a call takes makes one, whichever
call it is. -/
def log (host : Host σ ω) : Crowd σ ω → List Move → List Departure
  | _, [] => []
  | c, m :: moves => (c.departure? host m).toList ++ (c.after host m).log host moves

section

variable (hbooks : c.home.Accounted size started) (hup : c.pool.isShutDown = false)

include hbooks hup

theorem comesHome_after (host : Host σ ω) {m : Move} (hm : m ≠ .shutdown) :
    ComesHome host c (c.after host m).home (c.departure? host m) :=
  comesHome host hup (hbooks.idle.nodup_iff.2 List.nodup_range) hm

/-- What the first one of some moves does, and what it leaves for the rest of them. All inductions
on moves go by this. -/
theorem comesHome_cons (host : Host σ ω) {m : Move} {rest : List Move}
    (hmoves : .shutdown ∉ m :: rest) :
    m ≠ .shutdown ∧ .shutdown ∉ rest ∧
      ComesHome host c (c.after host m).home (c.departure? host m) ∧
      (c.after host m).home.Accounted size started ∧
      (c.after host m).pool.isShutDown = false := by
  obtain ⟨hm, hrest⟩ := not_or.1 (mt List.mem_cons.2 hmoves)
  have hhome := comesHome_after hbooks hup host (Ne.symm hm)
  exact ⟨Ne.symm hm, hrest, hhome, hhome.accounted hbooks hup⟩

/-- **The books are right after any moves**, as long as the pool has not been shut down. -/
theorem accounted_run (host : Host σ ω) {moves : List Move} (hmoves : .shutdown ∉ moves) :
    (c.run host moves).home.Accounted size started ∧
      (c.run host moves).pool.isShutDown = false := by
  induction moves generalizing c with
  | nil => exact ⟨hbooks, hup⟩
  | cons m rest ih =>
    obtain ⟨-, hrest, -, hbooks', hup'⟩ := comesHome_cons hbooks hup host hmoves
    exact ih hbooks' hup' hrest

omit hbooks hup in
/-- The books of a pool that was started are right, and stay so after any moves. -/
theorem accounted_run_of_start {options : Options} {world w : ω} {p₀ : State σ ω}
    (hstart : State.start host options world = (.ok p₀, w)) {moves : List Move}
    (hmoves : .shutdown ∉ moves) :
    options.size ≠ 0 ∧ (run host { pool := p₀ } moves).home.Accounted options.size p₀.spawned ∧
      (run host { pool := p₀ } moves).pool.isShutDown = false := by
  have hstarting := State.starting_of_start hstart
  have hbooks := home_mk p₀ ▸ hstarting.toAccounted
  exact ⟨(State.eq_fill_of_start hstart).1, accounted_run hbooks hstarting.isShutDown host hmoves⟩

/-- **The log misses no request.** -/
theorem nextRequest_run (host : Host σ ω) {moves : List Move} (hmoves : .shutdown ∉ moves) :
    (c.run host moves).pool.nextRequest ≡
      c.pool.nextRequest + (c.log host moves).length [MOD Nat.pow 2 64] := by
  induction moves generalizing c with
  | nil => exact .refl _
  | cons m rest ih =>
    obtain ⟨-, hrest, hhome, hbooks', hup'⟩ := comesHome_cons hbooks hup host hmoves
    rw [log, List.length_append, ← Nat.add_assoc]
    exact (ih hbooks' hup' hrest).trans (hhome.nextRequest.add_right _)

/-- **A crowd counts one worker at most in each move**, and one hit. -/
theorem countsWithin_run (host : Host σ ω) {moves : List Move} (hmoves : .shutdown ∉ moves) :
    State.CountsWithin moves.length c.home (c.run host moves).home := by
  induction moves generalizing c with
  | nil => exact .refl _
  | cons m rest ih =>
    obtain ⟨-, hrest, hhome, hbooks', hup'⟩ := comesHome_cons hbooks hup host hmoves
    rw [List.length_cons, Nat.add_comm]
    exact hhome.countsWithin.trans (ih hbooks' hup' hrest)

end

/-! ### Getting done -/

theorem mem_keyed {key? : Call σ → Option Nat} {i key : Nat} {file : SourceFile} {call : Call σ}
    (hcall : c.calls[i]? = some (file, call)) (hkey : key? call = some key) :
    (i, key) ∈ c.keyed key? :=
  List.mem_filterMap.2 ⟨((file, call), i), List.mem_zipIdx_iff_getElem?.2 hcall, by simp [hkey]⟩

theorem minOn?_keyed_ne_none {key? : Call σ → Option Nat} {i key : Nat} {file : SourceFile}
    {call : Call σ} (hcall : c.calls[i]? = some (file, call)) (hkey : key? call = some key) :
    (c.keyed key?).minOn? (·.2) ≠ none :=
  Option.isSome_iff_ne_none.1 (List.isSome_minOn?_of_mem (mem_keyed hcall hkey))

/-- **As long as a call is not done, it is somebody's turn.** -/
theorem eq_done_of_next?_eq_none (hbooks : c.home.Accounted size started) (hsize : size ≠ 0)
    (h : c.next? = none) {i : Nat} {file : SourceFile} {call : Call σ}
    (hcall : c.calls[i]? = some (file, call)) : ∃ outcome, call = .done outcome := by
  obtain ⟨hhead, hfirst⟩ := Option.or_eq_none_iff.1 (Option.map_eq_none_iff.1 h)
  have hloan : ∀ (j : Nat) (file : SourceFile) (call : Call σ),
      c.calls[j]? = some (file, call) → call.loan? = none := by
    intro j file call hcall
    by_contra hloan
    obtain ⟨loan, hloan⟩ := Option.ne_none_iff_exists'.1 hloan
    exact minOn?_keyed_ne_none hcall (by rw [hloan]; rfl) hfirst
  -- nothing is on loan, so that all slots are idle
  have hloans : c.loans = [] := List.filterMap_eq_nil_iff.2 fun entry hentry ↦ by
    obtain ⟨j, hj⟩ := List.mem_iff_getElem?.1 hentry
    exact hloan j entry.1 entry.2 hj
  have hidle : c.pool.idle ≠ [] := by
    have hidle := hbooks.idle_ne_nil hsize
    rwa [home, State.settled, hloans, List.map_nil, List.append_nil] at hidle
  rw [if_pos (by simp [isOpen, hidle])] at hhead
  cases call with
  | waiting place failed? => exact absurd hhead (minOn?_keyed_ne_none hcall rfl)
  | underway failed? loan => exact absurd (hloan i file _ hcall) (Option.some_ne_none loan)
  | done outcome => exact ⟨outcome, rfl⟩

/-- To serve a crowd is to let calls have their turns, until it is nobody's turn any more. -/
theorem exists_serve_eq (host : Host σ ω) (c : Crowd σ ω) :
    ∃ turns : List Nat, c.serve host = c.run host (turns.map .turn) ∧
      (c.serve host).next? = none := by
  induction c using serve.induct host with
  | case1 c hnone =>
    rw [serve_of_next?_eq_none host hnone]
    exact ⟨[], rfl, hnone⟩
  | case2 c i hnext ih =>
    obtain ⟨turns, hserve, hnone⟩ := ih
    rw [serve_of_next?_eq_some host hnext]
    exact ⟨i :: turns, hserve, hnone⟩

/-- **Calls get done if they are served.** -/
theorem exists_serve_isDone (host : Host σ ω) (hbooks : c.home.Accounted size started)
    (hsize : size ≠ 0) (hup : c.pool.isShutDown = false) :
    ∃ turns : List Nat, c.serve host = c.run host (turns.map .turn) ∧
      ∀ entry ∈ (c.serve host).calls, ∃ outcome, entry.2 = .done outcome := by
  obtain ⟨turns, hserve, hnone⟩ := exists_serve_eq host c
  refine ⟨turns, hserve, fun entry hentry ↦ ?_⟩
  obtain ⟨i, hcall⟩ := List.mem_iff_getElem?.1 hentry
  have hturns : Move.shutdown ∉ turns.map Move.turn := by simp
  have hserved := (accounted_run hbooks hup host hturns).1
  rw [← hserve] at hserved
  exact eq_done_of_next?_eq_none hserved hsize hnone hcall

/-! ### Files that are handed in at once -/

/-- A turn leaves each call with its file. -/
theorem map_fst_turn (host : Host σ ω) (c : Crowd σ ω) (i : Nat) :
    (c.turn host i).calls.map (·.1) = c.calls.map (·.1) := by
  rw [turn]
  rcases hcall : c.calls[i]? with - | ⟨file, call⟩
  · rfl
  · have hfile : (c.calls.map (·.1))[i]? = some file := by rw [List.getElem?_map, hcall]; rfl
    dsimp only
    rw [List.map_set, set_eq_self hfile]

theorem map_fst_turns (host : Host σ ω) (c : Crowd σ ω) (turns : List Nat) :
    (c.run host (turns.map .turn)).calls.map (·.1) = c.calls.map (·.1) := by
  induction turns generalizing c with
  | nil => rfl
  | cons i rest ih => exact (ih (c.turn host i)).trans (map_fst_turn host c i)

/-- Calls are for the files for which they are made, in this order. -/
theorem map_fst_calls (host : Host σ ω) (c : Crowd σ ω) (files : List SourceFile) :
    (c.run host (files.map .call)).calls.map (·.1) = c.calls.map (·.1) ++ files := by
  induction files generalizing c with
  | nil => exact (List.append_nil _).symm
  | cons file rest ih =>
    have hmade : (c.make file).calls.map (·.1) = c.calls.map (·.1) ++ [file] := List.map_append
    rw [List.append_cons, ← hmade]
    exact ih (c.make file)

/-- **Files that are handed in at once are calls that have turns until all of them are done.** -/
theorem exists_parseAll_eq (host : Host σ ω) {p : State σ ω} (hbooks : p.Accounted size started)
    (hsize : size ≠ 0) (hup : p.isShutDown = false) (files : List SourceFile) :
    ∃ turns : List Nat, ∃ c : Crowd σ ω,
      c = run host { pool := p } (files.map .call ++ turns.map .turn) ∧
      State.parseAll host files p = (c.outcomes, c.pool) ∧ c.calls.map (·.1) = files ∧
      ∀ entry ∈ c.calls, ∃ outcome, entry.2 = .done outcome := by
  have hmade : files.foldl make { pool := p } = run host { pool := p } (files.map .call) :=
    (List.foldl_map (f := Move.call) (g := after host)).symm
  have hcalls : Move.shutdown ∉ files.map Move.call := by simp
  obtain ⟨hserved, hopen⟩ :=
    accounted_run (c := { pool := p }) (home_mk p ▸ hbooks) hup host hcalls
  obtain ⟨turns, hserve, hdone⟩ := exists_serve_isDone host hserved hsize hopen
  refine ⟨turns, _, ?_, ?_, ?_, hdone⟩
  · rw [hserve, run, run, run, List.foldl_append]
  · rw [State.parseAll, hmade]
  · rw [hserve, map_fst_turns, map_fst_calls]
    rfl

end Crowd

end JavaDeps.Pool
