import JavaDeps.Proofs.Pool.Accounting

/-!
# How often a file is tried

**A file is tried once if a worker answers, and exactly twice otherwise**, whatever workers do. An
answer ends it, whether it carries facts or an error; only workers that fail are worth another try.
What a list of tries comes to is said once (`Retries`), so that it holds for a file that is parsed
alone and for one that is parsed among others.

The second try goes to another worker even if the pool has a single slot. A worker that failed is in
no slot any more, and no new worker has its number (`Retired`); that is never undone by what the
pool does afterwards (`Retired.attemptIn`). A file that is parsed alone is tried in two slots where
the pool has them, since all other slots are idle by then (`Accounted.exists_attempt`).
-/

namespace JavaDeps.Pool

open Wire (Outcome Request Response)

/-! ### Whom a failure names -/

/-- A failure to read what a worker sent names that worker. -/
theorem worker?_readReceived {limit : Duration} {worker request : Nat} {received : Received}
    {failure : WorkerFailure}
    (h : (readReceived limit worker request received).1 = .error failure) :
    failure.worker? = some worker := by
  cases received with
  | closed | failed _ | silence =>
    cases h
    rfl
  | line text =>
    rw [readReceived, readReply] at h
    rcases hparse : Response.parse text with e | response <;> simp only [hparse] at h
    · cases h
      rfl
    split at h
    · split at h
      · cases h
      · cases h
        rfl
    · cases h
      rfl

/-- A failed request names the worker that was asked. -/
theorem Handle.worker?_request {σ ω : Type} {host : Host σ ω} {limit : Duration} {h h' : Handle σ}
    {id : Nat} {file : SourceFile} {w w' : ω} {failure : WorkerFailure}
    (hrequest : h.request host limit id file w = (.error failure, h', w')) :
    failure.worker? = some h.id :=
  worker?_readReceived (Prod.mk.inj hrequest).1

/-! ### Tries -/

/-- One try of a file: the slot, and the answer of the worker or how it failed. -/
structure Try where
  slot : Nat
  result : Except WorkerFailure Outcome

namespace Try

/-- What the attempt comes to. -/
def attempt (t : Try) : State.Attempt :=
  match t.result with
  | .ok o => .answered o
  | .error failure => .failed t.slot failure

/-- The worker that a try names as failed. There is none if it was answered, or if no worker could
be started for it. -/
def blamed? (t : Try) : Option Nat :=
  match t.result with
  | .ok _ => none
  | .error failure => failure.worker?

end Try

/-- **What the tries of a file come to.** How many there are, which of them the outcome is taken
from, and when it says that workers failed. -/
structure Retries (file : SourceFile) (tries : List Try) (outcome : ParseOutcome) : Prop where
  /-- There is one try if it is answered, and there are two otherwise. -/
  count : ∃ t, tries.head? = some t ∧ tries.length = if t.result.isOk then 1 else 2
  /-- The last try decides if it is answered. -/
  answer : ∀ t o, tries.getLast? = some t → t.result = .ok o →
    outcome = o.mapError (.refused file.path)
  /-- A file that a worker refuses is not tried again. -/
  refused : ∀ t ∈ tries, ∀ message, t.result = .ok (.error message) →
    tries.getLast? = some t ∧ outcome = .error (.refused file.path message)
  /-- Workers are said to have failed just if both tries did, in this order. -/
  failed : ∀ path f g, outcome = .error (.workersFailed path f g) ↔
    path = file.path ∧ tries.map (·.result) = [.error f, .error g]

namespace State

variable {σ ω : Type} {host : Host σ ω} {p q r : State σ ω} {size started slot : Nat}
  {file : SourceFile}

variable (host file) in
/-- Whether a pool makes some tries of a file, one after another, each in an idle slot. -/
inductive Tries : State σ ω → List Try → State σ ω → Prop
  | nil {p : State σ ω} : Tries p [] p
  | cons {p q r : State σ ω} {t : Try} {ts : List Try} (hslot : t.slot ∈ p.idle)
    (hattempt : p.attemptIn host t.slot file = (t.attempt, q)) (hrest : Tries q ts r) :
    Tries p (t :: ts) r

/-! ### One try -/

/-- A slot to avoid is avoided where another one is idle. -/
theorem chooseSlot?_ne {avoid other : Nat} {idle : List Nat} (hother : other ∈ idle)
    (hne : other ≠ avoid) (hchoose : chooseSlot? (some avoid) idle = some slot) : slot ≠ avoid := by
  rw [chooseSlot?] at hchoose
  rcases hfind : idle.find? fun slot ↦ some slot != some avoid with - | found
  · have hall := List.find?_eq_none.1 hfind other hother
    simp [hne] at hall
  · rw [hfind] at hchoose
    have hfound := List.find?_some hfind
    rw [← Option.some.inj hchoose]
    simpa using hfound

/-- Among two slots or more, one other than a given one is idle. -/
theorem Accounted.exists_idle_ne (h : Accounted size started p) (hsize : 2 ≤ size) (avoid : Nat) :
    ∃ other ∈ p.idle, other ≠ avoid := by
  have hidle : ∀ slot < size, slot ∈ p.idle := fun slot hslot ↦
    h.idle.symm.subset (List.mem_range.2 hslot)
  by_cases hzero : avoid = 0
  · exact ⟨1, hidle 1 (by omega), by omega⟩
  · exact ⟨0, hidle 0 (by omega), Ne.symm hzero⟩

/-- An attempt in a slot is a try there. -/
theorem exists_attemptIn (host : Host σ ω) (p : State σ ω) (slot : Nat) (file : SourceFile) :
    ∃ t : Try, ∃ q, t.slot = slot ∧ p.attemptIn host slot file = (t.attempt, q) := by
  have hattempts := attemptsIn_attemptIn host p slot file
  rcases hattempt : p.attemptIn host slot file with ⟨a, q⟩
  rw [hattempt] at hattempts
  cases hattempts with
  | unstarted _ _ => exact ⟨⟨slot, .error _⟩, _, rfl, rfl⟩
  | answered _ _ _ => exact ⟨⟨slot, .ok _⟩, _, rfl, rfl⟩
  | failed _ _ _ => exact ⟨⟨slot, .error _⟩, _, rfl, rfl⟩

/-- **An attempt is a try in an idle slot**, and not in the one to avoid where there are others. -/
theorem Accounted.exists_attempt (h : Accounted size started p) (hsize : size ≠ 0)
    (host : Host σ ω) (avoid : Option Nat) (file : SourceFile) :
    ∃ t : Try, ∃ q, t.slot ∈ p.idle ∧ p.attempt host avoid file = (t.attempt, q) ∧
      p.attemptIn host t.slot file = (t.attempt, q) ∧
      (2 ≤ size → avoid ≠ some t.slot) := by
  obtain ⟨slot, hslot, hchoose⟩ := exists_chooseSlot? avoid (h.idle_ne_nil hsize)
  obtain ⟨t, q, rfl, hattempt⟩ := exists_attemptIn host p slot file
  refine ⟨t, q, hslot, ?_, hattempt, ?_⟩
  · rw [attempt, hchoose]
    exact hattempt
  · rintro hsize rfl
    obtain ⟨other, hother, hne⟩ := h.exists_idle_ne hsize t.slot
    exact chooseSlot?_ne hother hne hchoose rfl

/-- A try keeps the books right. -/
theorem Accounted.attemptIn (h : Accounted size started p) (hup : p.isShutDown = false)
    {a : Attempt} (hslot : slot ∈ p.idle) (hattempt : p.attemptIn host slot file = (a, q)) :
    Accounted size started q ∧ q.isShutDown = false := by
  have hattempts := attemptsIn_attemptIn host p slot file
  rw [hattempt] at hattempts
  exact ⟨h.attemptsIn hup hslot hattempts, hattempts.isShutDown.trans hup⟩

/-! ### The worker that failed -/

/-- A try that names a worker was made with that worker, and left its slot empty. -/
theorem employs_of_blamed {t : Try} {n : Nat}
    (hattempt : p.attemptIn host t.slot file = (t.attempt, q)) (hblamed : t.blamed? = some n) :
    ∃ g r world, Employs host (p.checkout t.slot) t.slot g r ∧ g.id = n ∧
      q = ({ r with world } : State σ ω).giveBack t.slot none := by
  obtain ⟨slot, result⟩ := t
  rcases result with failure | o
  · rw [State.attemptIn] at hattempt
    rcases workerFor_cases host (p.checkout slot) slot with ⟨g, r, hworker, hemploys⟩ |
      ⟨reason, world, -, -, hworker⟩
    · simp only [hworker] at hattempt
      rcases hrequest : g.request host r.options.requestTimeout p.nextRequest file r.world with
        ⟨failure' | o, g', world⟩
      · rw [hrequest] at hattempt
        obtain ⟨hfailed, rfl⟩ := Prod.mk.inj hattempt
        cases hfailed
        refine ⟨g, r, world, hemploys, Option.some.inj ?_, rfl⟩
        exact (Handle.worker?_request hrequest).symm.trans hblamed
      · rw [hrequest] at hattempt
        cases (Prod.mk.inj hattempt).1
    · -- a worker that could not be started has no number
      simp only [hworker] at hattempt
      cases (Prod.mk.inj hattempt).1
      cases hblamed
  · cases hblamed

/-- **Whether a number is that of a worker that is never asked again**: it is used up, and no slot
has a worker with it. -/
structure Retired (n : Nat) (p : State σ ω) : Prop where
  numbered : n < p.nextWorker
  gone : ∀ slot g, p.slot? slot = some g → g.id ≠ n

/-- **A worker that failed is not used again.** -/
theorem Accounted.retired (h : Accounted size started p) {t : Try} (hslot : t.slot ∈ p.idle)
    (hattempt : p.attemptIn host t.slot file = (t.attempt, q)) {n : Nat}
    (hblamed : t.blamed? = some n) : Retired n q := by
  obtain ⟨g, r, world, hemploys, rfl, rfl⟩ := employs_of_blamed hattempt hblamed
  obtain ⟨hlends, hfits⟩ := h.employs hemploys
  refine ⟨hfits.numbered, fun i g' hg' ↦ ?_⟩
  have hlength : t.slot < r.slots.length := hlends.slots ▸ h.slot_lt hslot
  rcases slot?_setSlot_cases (p := { r with world }) hlength hg' with ⟨-, hnone⟩ | ⟨hi, hold⟩
  · cases hnone
  · exact hfits.distinct i g' hi hold

/-- A worker that is named was in the slot, or has the next number. -/
theorem blamed_attemptIn {t : Try} {n : Nat}
    (hattempt : p.attemptIn host t.slot file = (t.attempt, q)) (hblamed : t.blamed? = some n) :
    (∃ g, p.slot? t.slot = some g ∧ g.id = n) ∨ n = p.nextWorker := by
  obtain ⟨g, r, world, hemploys, rfl, -⟩ := employs_of_blamed hattempt hblamed
  cases hemploys with
  | kept hslot => exact .inl ⟨g, hslot, rfl⟩
  | started _ _ => exact .inr rfl

/-- A worker that was retired is not the one that a try names. -/
theorem Retired.ne_of_blamed {n m : Nat} (h : Retired n p) {t : Try}
    (hattempt : p.attemptIn host t.slot file = (t.attempt, q)) (hblamed : t.blamed? = some m) :
    n ≠ m := by
  rcases blamed_attemptIn hattempt hblamed with ⟨g, hg, rfl⟩ | rfl
  · exact (h.gone _ g hg).symm
  · exact Nat.ne_of_lt h.numbered

/-- To have a worker for a request takes the next number at most. -/
theorem Employs.id_cases {g : Handle σ} (hemploys : Employs host p slot g q) :
    q.slots = p.slots ∧ p.nextWorker ≤ q.nextWorker ∧
      (p.slot? slot = some g ∨ g.id = p.nextWorker) := by
  cases hemploys with
  | kept hslot => exact ⟨rfl, Nat.le_refl _, .inl hslot⟩
  | started _ _ => exact ⟨rfl, Nat.le_succ _, .inr rfl⟩

/-- What is in the slots after an attempt was there before, or has the number of the worker that was
there before, or the next one. -/
theorem AttemptsIn.workers {a : Attempt} (h : AttemptsIn host p slot file a q)
    (hslot : slot < p.slots.length) :
    p.nextWorker ≤ q.nextWorker ∧ ∀ i g, q.slot? i = some g →
      g.id = p.nextWorker ∨ ∃ g', p.slot? i = some g' ∧ g'.id = g.id := by
  cases h with
  | unstarted _ _ =>
    refine ⟨Nat.le_succ _, fun i g hg ↦ ?_⟩
    rcases slot?_setSlot_cases (p := { p.checkout slot with nextWorker := _, world := _ }) hslot hg
      with ⟨-, hnone⟩ | ⟨-, hold⟩
    · cases hnone
    · exact .inr ⟨g, hold, rfl⟩
  | @answered h r _ _ world _ hemploys _ _ =>
    obtain ⟨hslots, hnext, hid⟩ := hemploys.id_cases
    have hlength : slot < r.slots.length := hslots ▸ hslot
    refine ⟨hnext, fun i g hg ↦ ?_⟩
    rcases slot?_setSlot_cases (p := { r with world }) hlength hg with ⟨rfl, hnew⟩ | ⟨-, hold⟩
    · obtain rfl := Option.some.inj hnew
      exact hid.symm.imp_right fun hkept ↦ ⟨h, hkept, rfl⟩
    · exact .inr ⟨g, (slot?_congr hslots i).symm.trans hold, rfl⟩
  | @failed _ r _ _ world _ hemploys _ _ =>
    obtain ⟨hslots, hnext, -⟩ := hemploys.id_cases
    have hlength : slot < r.slots.length := hslots ▸ hslot
    refine ⟨hnext, fun i g hg ↦ ?_⟩
    rcases slot?_setSlot_cases (p := { r with world }) hlength hg with ⟨-, hnone⟩ | ⟨-, hold⟩
    · cases hnone
    · exact .inr ⟨g, (slot?_congr hslots i).symm.trans hold, rfl⟩

/-- **A worker that was retired stays so**, whatever is tried afterwards. -/
theorem Retired.attemptIn {n : Nat} (h : Retired n p) (hslot : slot < p.slots.length) {a : Attempt}
    (hattempt : p.attemptIn host slot file = (a, q)) : Retired n q := by
  have hattempts := attemptsIn_attemptIn host p slot file
  rw [hattempt] at hattempts
  obtain ⟨hnext, hworkers⟩ := hattempts.workers hslot
  refine ⟨Nat.lt_of_lt_of_le h.numbered hnext, fun i g hg ↦ ?_⟩
  rcases hworkers i g hg with hnew | ⟨g', hg', hid⟩
  · rw [hnew]
    exact (Nat.ne_of_lt h.numbered).symm
  · rw [← hid]
    exact h.gone i g' hg'

/-- **An attempt uses up one number of a request.** -/
theorem nextRequest_attemptIn {a : Attempt} (hattempt : p.attemptIn host slot file = (a, q)) :
    q.nextRequest = (p.nextRequest + 1) % Nat.pow 2 64 := by
  have hattempts := attemptsIn_attemptIn host p slot file
  rw [hattempt] at hattempts
  cases hattempts with
  | unstarted _ _ => rfl
  | answered hemploys _ _ => exact hemploys.nextRequest.1
  | failed hemploys _ _ => exact hemploys.nextRequest.1

/-! ### Parsing -/

/-- **A file that is not remembered is parsed by an attempt**, and by a second one if that fails. -/
theorem parse_of_attempt (hup : p.isShutDown = false) (hmemo : p.remembered? file.stamp = none)
    {t : Try} (hattempt : p.attempt host none file = (t.attempt, q)) :
    p.parse host file = match t.result with
      | .ok o => q.conclude file o
      | .error failure => q.second host file (.retry t.slot failure) := by
  obtain ⟨slot, failure | o⟩ := t <;>
    rw [parse, first, if_neg (by rw [hup]; exact Bool.false_ne_true), hmemo] <;>
    simp only [hattempt, Try.attempt, second]

/-- The second attempt decides: what comes of it is concluded, or both failures are reported. -/
theorem second_of_attempt {first : WorkerFailure} {t : Try}
    (hattempt : p.attempt host (some slot) file = (t.attempt, q)) :
    p.second host file (.retry slot first) = match t.result with
      | .ok o => q.conclude file o
      | .error failure => (.error (.workersFailed file.path first failure), q) := by
  obtain ⟨slot', failure | o⟩ := t <;> simp only [second, hattempt, Try.attempt]

/-- What is said of a file that a worker answered for is the answer. -/
theorem conclude_fst (p : State σ ω) (file : SourceFile) (o : Outcome) :
    (p.conclude file o).1 = o.mapError (.refused file.path) := by
  cases o <;> rfl

/-- Taking in an answer changes nothing but the facts that are kept. -/
theorem exists_conclude_snd (p : State σ ω) (file : SourceFile) (o : Outcome) :
    ∃ memo, (p.conclude file o).2 = { p with memo } := by
  cases o <;> exact ⟨_, rfl⟩

theorem mapError_ne_workersFailed (o : Outcome) (path path' : Path) (f g : WorkerFailure) :
    o.mapError (ParseFailure.refused path) ≠ .error (ParseFailure.workersFailed path' f g) := by
  cases o <;> exact nofun

end State

/-! ### The law -/

section

variable {slot slot' : Nat}

/-- An answer ends the tries of a file with the first of them. -/
theorem retries_answered (file : SourceFile) (slot : Nat) (o : Outcome) :
    Retries file [⟨slot, .ok o⟩] (o.mapError (.refused file.path)) where
  count := ⟨_, rfl, rfl⟩
  answer := by
    rintro _ o' ⟨⟩ ⟨⟩
    rfl
  refused t ht message hresult := by
    cases List.mem_singleton.1 ht
    cases hresult
    exact ⟨rfl, rfl⟩
  failed path f g :=
    ⟨fun h ↦ absurd h (State.mapError_ne_workersFailed o _ path f g), fun ⟨_, h⟩ ↦ by cases h⟩

/-- A second try ends the tries of a file, whether or not it is answered. -/
theorem retries_failed (file : SourceFile) (slot : Nat) (f : WorkerFailure) (slot' : Nat)
    (result : Except WorkerFailure Outcome) :
    Retries file [⟨slot, .error f⟩, ⟨slot', result⟩] (match result with
      | .ok o => o.mapError (.refused file.path)
      | .error g => .error (.workersFailed file.path f g)) where
  count := ⟨_, rfl, rfl⟩
  answer := by
    rintro _ o ⟨⟩ ⟨⟩
    rfl
  refused t ht message hresult := by
    rcases List.mem_pair.1 ht with rfl | rfl
    · cases hresult
    · cases hresult
      exact ⟨rfl, rfl⟩
  failed path f' g := by
    rcases result with g' | o
    · simp only [Except.error.injEq, ParseFailure.workersFailed.injEq, List.map_cons,
        List.map_nil, List.cons.injEq, and_true, eq_comm (a := path)]
    · simp only [List.map_cons, List.map_nil, List.cons.injEq, reduceCtorEq, and_false, false_and,
        iff_false]
      exact State.mapError_ne_workersFailed o _ path f' g

end

namespace State

variable {σ ω : Type} {host : Host σ ω} {p : State σ ω} {size started : Nat} {file : SourceFile}

/-- **A file that is parsed alone is tried once or twice, and nothing else happens** but for the
facts that are kept. No two tries name the same worker, and both are made in different slots if the
pool has them. -/
theorem Accounted.exists_tries (h : Accounted size started p) (hsize : size ≠ 0)
    (host : Host σ ω) (hup : p.isShutDown = false) (hmemo : p.remembered? file.stamp = none) :
    ∃ tries q, Tries host file p tries q ∧ (∃ memo, (p.parse host file).2 = { q with memo }) ∧
      Retries file tries (p.parse host file).1 ∧ (tries.filterMap (·.blamed?)).Nodup ∧
      (2 ≤ size → (tries.map (·.slot)).Nodup) := by
  obtain ⟨t, q, hslot, hattempt, htry, -⟩ := h.exists_attempt hsize host none file
  rw [parse_of_attempt hup hmemo hattempt]
  obtain ⟨slot, failure | o⟩ := t
  · obtain ⟨hq, hup'⟩ := h.attemptIn hup hslot htry
    obtain ⟨t', r, hslot', hattempt', htry', hne⟩ := hq.exists_attempt hsize host (some slot) file
    have hanother : (List.filterMap Try.blamed? [⟨slot, .error failure⟩, t']).Nodup := by
      rw [List.Nodup, List.pairwise_filterMap, List.pairwise_pair]
      exact fun n hn m hm ↦ (h.retired hslot htry hn).ne_of_blamed htry' hm
    have helsewhere : 2 ≤ size → ([slot, t'.slot] : List Nat).Nodup := fun htwo ↦ by
      simpa using fun heq ↦ hne htwo (congrArg some heq)
    have hretries := retries_failed file slot failure t'.slot t'.result
    dsimp only
    rw [second_of_attempt hattempt']
    refine ⟨_, r, .cons hslot htry (.cons hslot' htry' .nil), ?_⟩
    obtain ⟨slot', failure' | o⟩ := t'
    · exact ⟨⟨r.memo, rfl⟩, hretries, hanother, helsewhere⟩
    · exact ⟨exists_conclude_snd r file o, conclude_fst r file o ▸ hretries, hanother, helsewhere⟩
  · refine ⟨_, q, .cons hslot htry .nil, exists_conclude_snd q file o, ?_, List.nodup_nil,
      fun _ ↦ List.pairwise_singleton _ _⟩
    dsimp only
    rw [conclude_fst]
    exact retries_answered file slot o

end State

end JavaDeps.Pool
