import JavaDeps.Proofs.Pool.Service

/-!
# Whose answer a pool gives

**What a pool says of a file is what a worker said of that file**, in the one line that came back
for the request. This holds whatever lines workers send, and whenever they send them: an old line, a
line sent twice or a line sent too early has another number than the request it is taken for, or it
is the last line that is taken from its worker.

Requests are numbered in the order of attempts, so that no number comes twice as long as 64 bits are
enough (`Counted`). An attempt adds one exchange to the transcript at most, and counts as answered
by that exchange only (`Adds`). Facts that are kept were an answer when they were taken in
(`Recalls`).
-/

namespace JavaDeps.Pool

open Java (Facts)
open Wire (Outcome Request Response)

namespace Exchange

/-- The number of the request that was sent. -/
def requestId? (e : Exchange) : Option Nat := (Request.parse e.sent).toOption.map (·.id)

/-- The id of a request can be read off the line that was sent. -/
theorem requestId?_of_sent {e : Exchange} {id : Nat} {file : SourceFile}
    (hid : id < Nat.pow 2 64) (h : e.sent = (Request.ofFile id file).line) :
    e.requestId? = some id := by
  rw [requestId?, h, Request.parse_line hid]
  rfl

/-- An exchange is answered with an outcome if the response has the id that was sent. -/
theorem answeredWith_iff {e : Exchange} {id : Nat} {file : SourceFile} {o : Outcome}
    (hid : id < Nat.pow 2 64) (h : e.sent = (Request.ofFile id file).line) :
    e.AnsweredWith o ↔ e.received.Answers id o := by
  rw [AnsweredWith, h, Request.parse_line hid]
  constructor
  · rintro ⟨request, hrequest, hanswers⟩
    cases hrequest
    exact hanswers
  · exact fun hanswers ↦ ⟨_, rfl, hanswers⟩

end Exchange

/-- **What the transcript shows of a file that was parsed**, with the exchanges that were made for
it and those that were made before. -/
structure Shows (before : List Exchange) (file : SourceFile) (outcome : ParseOutcome)
    (new : List Exchange) : Prop where
  length_le : new.length ≤ 2
  asks : ∀ e ∈ new, e.Asks file
  /-- A file is not asked for again once there is an answer. -/
  retried : ∀ e ∈ new.dropLast, ¬ e.IsAnswered
  /-- Facts are those of the last answer, or else of an answer for a file with the same stamp. -/
  facts : ∀ facts, outcome = .ok facts →
    (∃ e, new.getLast? = some e ∧ e.AnsweredWith (.ok facts)) ∨
      new = [] ∧ ∃ e ∈ before, ∃ f, f.stamp = file.stamp ∧ e.Asks f ∧ e.AnsweredWith (.ok facts)
  /-- A refusal is that of the last answer. -/
  refused : ∀ path message, outcome = .error (.refused path message) →
    path = file.path ∧ ∃ e, new.getLast? = some e ∧ e.AnsweredWith (.error message)

variable {σ ω : Type}

namespace State

variable {host : Host σ ω} {p q : State (Numbered σ) (Recorded ω)} {size started slot : Nat}
  {file : SourceFile}

/-! ### What an attempt adds -/

/-- **What an attempt adds to the transcript** whose request has a number: no exchange if no worker
was there to be asked, and one exchange otherwise, which is answered just if the attempt is. -/
inductive Adds (id : Nat) (file : SourceFile) : Attempt → List Exchange → Prop
  | unsent {slot : Nat} {failure : WorkerFailure} : Adds id file (.failed slot failure) []
  | unanswered {slot : Nat} {failure : WorkerFailure} {e : Exchange}
    (hsent : e.sent = (Request.ofFile id file).line) (hanswered : ¬ e.IsAnswered) :
    Adds id file (.failed slot failure) [e]
  | answered {o : Outcome} {e : Exchange} (hsent : e.sent = (Request.ofFile id file).line)
    (hanswered : e.AnsweredWith o) : Adds id file (.answered o) [e]

/-- An attempt uses up the number of a request, and adds what it adds. -/
theorem Traced.exists_adds (h : Traced p) {a : Attempt}
    (hattempts : AttemptsIn host.recorded p slot file a q) :
    q.nextRequest = (p.nextRequest + 1) % Nat.pow 2 64 ∧ q.memo = p.memo ∧
      ∃ new, q.world.exchanges = p.world.exchanges ++ new ∧ Adds p.nextRequest file a new := by
  cases hattempts with
  | unstarted _ hstart =>
    obtain ⟨-, hexchanges, -⟩ := recorded_start hstart
    exact ⟨rfl, rfl, [], by rw [List.append_nil]; exact hexchanges, .unsent⟩
  | answered hemploys hexchange hanswers =>
    obtain ⟨hrequest, hmemo⟩ := hemploys.nextRequest
    obtain ⟨-, -, hsame⟩ := (h.checkout slot).employs hemploys
    obtain ⟨-, -, hexchanges⟩ := recorded_exchange hexchange
    rw [hsame] at hexchanges
    exact ⟨hrequest, hmemo, _, hexchanges,
      .answered rfl (Exchange.answeredWith_ofFile h.request _ file hanswers)⟩
  | failed hemploys hexchange hanswers =>
    obtain ⟨hrequest, hmemo⟩ := hemploys.nextRequest
    obtain ⟨-, -, hsame⟩ := (h.checkout slot).employs hemploys
    obtain ⟨-, -, hexchanges⟩ := recorded_exchange hexchange
    rw [hsame] at hexchanges
    refine ⟨hrequest, hmemo, _, hexchanges, .unanswered rfl ?_⟩
    rintro ⟨o, hanswered⟩
    exact hanswers o ((Exchange.answeredWith_iff h.request rfl).1 hanswered)

/-! ### Numbers of requests -/

/-- Whether the requests in the transcript of a pool are numbered in the order of its attempts. -/
structure Counted (attempts : Nat) (p : State (Numbered σ) (Recorded ω)) : Prop where
  nextRequest : p.nextRequest = (attempts + 1) % Nat.pow 2 64
  ids : ∃ numbers : List Nat, numbers.Pairwise (· < ·) ∧ (∀ n ∈ numbers, 0 < n ∧ n ≤ attempts) ∧
    p.world.exchanges.map (·.requestId?) = numbers.map fun n ↦ some (n % Nat.pow 2 64)

namespace Counted

variable {attempts : Nat}

theorem congr (h : Counted attempts p) (hrequest : q.nextRequest = p.nextRequest)
    (hexchanges : q.world.exchanges = p.world.exchanges) : Counted attempts q :=
  ⟨hrequest.trans h.nextRequest, hexchanges ▸ h.ids⟩

/-- An attempt has the next number. -/
theorem attemptsIn (h : Counted attempts p) (htraced : Traced p) {a : Attempt}
    (hattempts : AttemptsIn host.recorded p slot file a q) : Counted (attempts + 1) q := by
  obtain ⟨hrequest, -, new, hexchanges, hadds⟩ := htraced.exists_adds hattempts
  obtain ⟨numbers, hincreasing, hbounds, hids⟩ := h.ids
  have hnext : q.nextRequest = (attempts + 1 + 1) % Nat.pow 2 64 := by
    rw [hrequest, h.nextRequest, Nat.mod_add_mod]
  have hsent : ∀ e : Exchange, e.sent = (Request.ofFile p.nextRequest file).line →
      q.world.exchanges = p.world.exchanges ++ [e] → Counted (attempts + 1) q := by
    intro e hsent hexchanges
    refine ⟨hnext, numbers ++ [attempts + 1], ?_, fun n hn ↦ ?_, ?_⟩
    · rw [List.pairwise_append]
      refine ⟨hincreasing, List.pairwise_singleton _ _, fun n hn m hm ↦ ?_⟩
      rw [List.mem_singleton.1 hm]
      exact Nat.lt_succ_of_le (hbounds n hn).2
    · rcases List.mem_append.1 hn with hn | hn
      · exact ⟨(hbounds n hn).1, Nat.le_succ_of_le (hbounds n hn).2⟩
      · rw [List.mem_singleton.1 hn]
        exact ⟨Nat.succ_pos _, Nat.le_refl _⟩
    · rw [hexchanges, List.map_append, List.map_append, hids, List.map_singleton,
        List.map_singleton, Exchange.requestId?_of_sent htraced.request hsent, h.nextRequest]
  cases hadds with
  | unsent =>
    -- the number of the attempt is used up, but no request has it
    rw [List.append_nil] at hexchanges
    refine ⟨hnext, numbers, hincreasing, fun n hn ↦ ?_, hexchanges ▸ hids⟩
    exact ⟨(hbounds n hn).1, Nat.le_succ_of_le (hbounds n hn).2⟩
  | unanswered hline _ => exact hsent _ hline hexchanges
  | answered hline _ => exact hsent _ hline hexchanges

theorem conclude (h : Counted attempts p) (file : SourceFile) (o : Outcome) :
    Counted attempts (p.conclude file o).2 := by
  cases o <;> exact h.congr rfl rfl

/-- Two attempts at most are made for a file. -/
theorem parses (h : Counted attempts p) (htraced : Traced p) (hbooks : Accounted size started p)
    {outcome : ParseOutcome} (hparses : Parses host.recorded p file outcome q) :
    ∃ n ≤ 2, Counted (attempts + n) q := by
  cases hparses with
  | shutDown _ => exact ⟨0, by omega, h⟩
  | remembered _ _ => exact ⟨0, by omega, h.congr rfl rfl⟩
  | answered _ _ hfirst => exact ⟨1, by omega, (h.attemptsIn htraced hfirst).conclude _ _⟩
  | retried _ hslot hfirst _ hsecond =>
    have htraced' := htraced.attemptsIn hbooks hslot hfirst
    exact ⟨2, by omega, ((h.attemptsIn htraced hfirst).attemptsIn htraced' hsecond).conclude _ _⟩
  | failed _ hslot hfirst _ hsecond =>
    have htraced' := htraced.attemptsIn hbooks hslot hfirst
    exact ⟨2, by omega, (h.attemptsIn htraced hfirst).attemptsIn htraced' hsecond⟩

/-- **Requests are numbered in the order of attempts** in any run. -/
theorem run (h : Counted attempts p) (htraced : Traced p) (hbooks : Accounted size started p)
    (hsize : size ≠ 0) (steps : List Step) :
    ∃ n ≤ 2 * steps.length, Counted (attempts + n) (p.run host.recorded steps) := by
  induction steps generalizing attempts p with
  | nil => exact ⟨0, by omega, h⟩
  | cons step rest ih =>
    have hafter : ∃ n ≤ 2, Counted (attempts + n) (p.after host.recorded step) := by
      cases step with
      | parse file =>
        exact h.parses htraced hbooks
          (parses_parse host.recorded file (hbooks.idle_ne_nil hsize))
      | shutdown =>
        exact ⟨0, by omega, h.congr (nextRequest_shutdown _ _) (exchanges_shutdown _ _)⟩
    obtain ⟨n, hn, hafter⟩ := hafter
    obtain ⟨m, hm, hrest⟩ := ih hafter (htraced.after hbooks hsize step)
      (hbooks.after hsize host.recorded step)
    refine ⟨n + m, ?_, Nat.add_assoc attempts n m ▸ hrest⟩
    rw [List.length_cons]
    omega

/-- No number comes twice as long as 64 bits are enough. -/
theorem nodup (h : Counted attempts p) (hattempts : attempts < Nat.pow 2 64) :
    (p.world.exchanges.map (·.requestId?)).Nodup := by
  obtain ⟨numbers, hincreasing, hbounds, hids⟩ := h.ids
  have hexact : numbers.map (fun n ↦ some (n % Nat.pow 2 64)) = numbers.map some := by
    refine List.map_congr_left fun n hn ↦ ?_
    rw [Nat.mod_eq_of_lt (Nat.lt_of_le_of_lt (hbounds n hn).2 hattempts)]
  rw [hids, hexact]
  exact (hincreasing.imp Nat.ne_of_lt).map some fun _ _ hne heq ↦ hne (Option.some.inj heq)

end Counted

/-! ### Facts that are kept -/

/-- Whether a pool keeps only facts that a worker answered with, when it was asked for a file with
the stamp under which they are kept. -/
def Recalls (p : State (Numbered σ) (Recorded ω)) : Prop :=
  ∀ stamp facts, p.remembered? stamp = some facts →
    ∃ e ∈ p.world.exchanges, ∃ f, f.stamp = stamp ∧ e.Asks f ∧ e.AnsweredWith (.ok facts)

/-- More exchanges change nothing. -/
theorem Recalls.append (h : Recalls p) (hmemo : q.memo = p.memo) {new : List Exchange}
    (hexchanges : q.world.exchanges = p.world.exchanges ++ new) : Recalls q := by
  intro stamp facts hkept
  rw [remembered?, hmemo] at hkept
  obtain ⟨e, he, hfacts⟩ := h stamp facts hkept
  refine ⟨e, ?_, hfacts⟩
  rw [hexchanges]
  exact List.mem_append_left _ he

/-- Facts are kept that were answered. -/
theorem Recalls.conclude (h : Recalls p) {e : Exchange} {o : Outcome}
    (he : e ∈ p.world.exchanges) (hasks : e.Asks file) (hanswered : e.AnsweredWith o) :
    Recalls (p.conclude file o).2 := by
  cases o with
  | error message => exact h
  | ok facts =>
    intro stamp facts' hkept
    have hkept : ((file.stamp, facts) :: p.memo).lookup stamp = some facts' := hkept
    by_cases hstamp : file.stamp = stamp
    · -- facts kept before for this stamp are no longer found
      subst hstamp
      rw [List.lookup_cons_self] at hkept
      cases hkept
      exact ⟨e, he, file, rfl, hasks, hanswered⟩
    · rw [List.lookup_cons, beq_eq_false_iff_ne.2 (Ne.symm hstamp)] at hkept
      exact h stamp facts' hkept

/-! ### What the transcript shows -/

/-- A failed attempt adds one exchange at most, without an answer. -/
theorem Adds.of_failed {id : Nat} {failure : WorkerFailure} {new : List Exchange}
    (h : Adds id file (.failed slot failure) new) (hid : id < Nat.pow 2 64) :
    new.length ≤ 1 ∧ ∀ e ∈ new, e.Asks file ∧ ¬ e.IsAnswered := by
  cases h with
  | unsent => exact ⟨Nat.zero_le 1, by simp⟩
  | unanswered hsent hanswered =>
    refine ⟨Nat.le_refl 1, fun e he ↦ ?_⟩
    rw [List.mem_singleton.1 he]
    exact ⟨⟨id, hid, hsent⟩, hanswered⟩

/-- An attempt that is answered adds the exchange with the answer. -/
theorem Adds.of_answered {id : Nat} {o : Outcome} {new : List Exchange}
    (h : Adds id file (.answered o) new) (hid : id < Nat.pow 2 64) :
    ∃ e, new = [e] ∧ e.Asks file ∧ e.AnsweredWith o := by
  cases h with
  | answered hsent hanswered => exact ⟨_, rfl, ⟨id, hid, hsent⟩, hanswered⟩

theorem world_conclude (p : State σ ω) (file : SourceFile) (o : Outcome) :
    (p.conclude file o).2.world = p.world := by
  cases o <;> rfl

/-- The last exchange shows what a pool that takes in an answer says. -/
theorem shows_conclude (r : State (Numbered σ) (Recorded ω)) (before earlier : List Exchange)
    {e : Exchange} {o : Outcome} (hlength : earlier.length ≤ 1)
    (hearlier : ∀ e' ∈ earlier, e'.Asks file ∧ ¬ e'.IsAnswered) (hasks : e.Asks file)
    (hanswered : e.AnsweredWith o) :
    Shows before file (r.conclude file o).1 (earlier ++ [e]) where
  length_le := by
    rw [List.length_append, List.length_singleton]
    omega
  asks e' he' := by
    rcases List.mem_append.1 he' with he' | he'
    · exact (hearlier e' he').1
    · rwa [List.mem_singleton.1 he']
  retried e' he' := by
    rw [List.dropLast_concat] at he'
    exact (hearlier e' he').2
  facts facts' houtcome := by
    cases o with
    | error message => cases houtcome
    | ok facts =>
      cases houtcome
      exact .inl ⟨e, List.getLast?_concat, hanswered⟩
  refused path message houtcome := by
    cases o with
    | ok facts => cases houtcome
    | error message' =>
      cases houtcome
      exact ⟨rfl, e, List.getLast?_concat, hanswered⟩

/-- **Parsing a file** adds exchanges that show what comes of it. -/
theorem Traced.exists_shows (h : Traced p) (hbooks : Accounted size started p)
    (hrecalls : Recalls p) {outcome : ParseOutcome}
    (hparses : Parses host.recorded p file outcome q) :
    ∃ new, q.world.exchanges = p.world.exchanges ++ new ∧
      Shows p.world.exchanges file outcome new ∧ Recalls q := by
  cases hparses with
  | shutDown _ =>
    exact ⟨[], (List.append_nil _).symm, ⟨by simp, by simp, by simp, nofun, nofun⟩, hrecalls⟩
  | @remembered facts _ hkept =>
    refine ⟨[], (List.append_nil _).symm, ⟨by simp, by simp, by simp, ?_, nofun⟩, hrecalls⟩
    rintro _ ⟨⟩
    exact .inr ⟨rfl, hrecalls file.stamp facts hkept⟩
  | @answered slot q o _ _ hfirst =>
    obtain ⟨-, hmemo, new, hexchanges, hadds⟩ := h.exists_adds hfirst
    obtain ⟨e, rfl, hasks, hanswered⟩ := hadds.of_answered h.request
    have hq : Recalls q := hrecalls.append hmemo hexchanges
    refine ⟨[e], ?_, ?_, hq.conclude (by rw [hexchanges]; simp) hasks hanswered⟩
    · rw [world_conclude, hexchanges]
    · exact shows_conclude q _ [] (Nat.zero_le 1) (by simp) hasks hanswered
  | @retried slot slot' again failure q r o _ hslot hfirst _ hsecond =>
    have hq := h.attemptsIn hbooks hslot hfirst
    obtain ⟨-, hmemo, earlier, hexchanges, hadds⟩ := h.exists_adds hfirst
    obtain ⟨-, hmemo', new, hexchanges', hadds'⟩ := hq.exists_adds hsecond
    obtain ⟨hlength, hearlier⟩ := hadds.of_failed h.request
    obtain ⟨e, rfl, hasks, hanswered⟩ := hadds'.of_answered hq.request
    rw [hexchanges, List.append_assoc] at hexchanges'
    have hr : Recalls r := hrecalls.append (hmemo'.trans hmemo) hexchanges'
    refine ⟨earlier ++ [e], ?_, ?_, hr.conclude (by rw [hexchanges']; simp) hasks hanswered⟩
    · rw [world_conclude, hexchanges']
    · exact shows_conclude r _ earlier hlength hearlier hasks hanswered
  | @failed slot slot' again last failure failure' q _ _ hslot hfirst _ hsecond =>
    have hq := h.attemptsIn hbooks hslot hfirst
    obtain ⟨-, hmemo, earlier, hexchanges, hadds⟩ := h.exists_adds hfirst
    obtain ⟨-, hmemo', new, hexchanges', hadds'⟩ := hq.exists_adds hsecond
    obtain ⟨hlength, hearlier⟩ := hadds.of_failed h.request
    obtain ⟨hlength', hnew⟩ := hadds'.of_failed hq.request
    rw [hexchanges, List.append_assoc] at hexchanges'
    refine ⟨earlier ++ new, hexchanges', ⟨?_, fun e he ↦ ?_, fun e he ↦ ?_, nofun, nofun⟩,
      hrecalls.append (hmemo'.trans hmemo) hexchanges'⟩
    · rw [List.length_append]
      omega
    · rcases List.mem_append.1 he with he | he
      · exact (hearlier e he).1
      · exact (hnew e he).1
    · rcases List.mem_append.1 (List.dropLast_subset _ he) with he | he
      · exact (hearlier e he).2
      · exact (hnew e he).2

/-- **A pool keeps only facts that a worker answered with**, in any run. -/
theorem Recalls.run (h : Recalls p) (htraced : Traced p) (hbooks : Accounted size started p)
    (hsize : size ≠ 0) (steps : List Step) : Recalls (p.run host.recorded steps) := by
  induction steps generalizing p with
  | nil => exact h
  | cons step rest ih =>
    refine ih ?_ (htraced.after hbooks hsize step) (hbooks.after hsize host.recorded step)
    cases step with
    | parse file =>
      have hparses := parses_parse host.recorded file (hbooks.idle_ne_nil hsize)
      obtain ⟨-, -, -, hafter⟩ := htraced.exists_shows hbooks h hparses
      exact hafter
    | shutdown =>
      have hsame := exchanges_shutdown host p
      exact h.append (memo_shutdown _ _) (hsame.trans (List.append_nil _).symm)

/-- A pool starts without facts and without requests. -/
theorem requests_of_start {options : Options} {world : ω} {w : Recorded ω}
    (hstart : start host.recorded options { world } = (.ok p, w))
    (hempty : p.world.exchanges = []) :
    Counted 0 p ∧ Recalls p := by
  obtain ⟨-, hp⟩ := eq_fill_of_start hstart
  obtain ⟨hmemo, hrequest⟩ := fill_requests host.recorded (blank options { world })
    (List.range options.size)
  rw [← hp] at hmemo hrequest
  refine ⟨⟨hrequest.trans ?_, [], .nil, by simp, by rw [hempty]; rfl⟩, ?_⟩
  · show 1 = (0 + 1) % Nat.pow 2 64
    decide
  · intro stamp facts hkept
    rw [remembered?, hmemo] at hkept
    cases hkept

/-- **No response is taken for the answer to another request**, whatever lines workers send. In the
transcript of any run requests are numbered in the order of attempts, so that no number comes twice
as long as 64 bits are enough. A worker that did not answer is asked nothing more, and is in no
slot. And what the pool says of a file next is what the last exchange for the file shows, or else
what an earlier one showed for a file with the same stamp. -/
theorem run_attributed {host : Host σ ω} {options : Options} {world w : ω} {p : State σ ω}
    (hstart : start host options world = (.ok p, w)) (steps : List Step) :
    ∃ r w', start host.recorded options { world } = (.ok r, w') ∧
      (r.run host.recorded steps).plain = p.run host steps ∧
      ∃ exchanges, (r.run host.recorded steps).world.exchanges = exchanges ∧
        (∃ numbers : List Nat, numbers.Pairwise (· < ·) ∧
          (∀ n ∈ numbers, 0 < n ∧ n ≤ 2 * steps.length) ∧
          exchanges.map (·.requestId?) = numbers.map fun n ↦ some (n % Nat.pow 2 64)) ∧
        (2 * steps.length < Nat.pow 2 64 → (exchanges.map (·.requestId?)).Nodup) ∧
        exchanges.Pairwise (fun e e' ↦ e.worker = e'.worker → e.IsAnswered) ∧
        (∀ slot h, (r.run host.recorded steps).slot? slot = some h →
          ∀ e ∈ exchanges, e.worker = h.id → e.IsAnswered) ∧
        ∀ file, ∃ new,
          ((r.run host.recorded steps).parse host.recorded file).2.world.exchanges =
            exchanges ++ new ∧
          Shows exchanges file ((p.run host steps).parse host file).1 new := by
  obtain ⟨hsize, -⟩ := eq_fill_of_start hstart
  obtain ⟨r, w', hr, rfl⟩ := exists_start_recorded hstart
  obtain ⟨htraced, hempty⟩ := Traced.of_start hr
  have hbooks : Accounted options.size r.spawned r := (starting_of_start hr).toAccounted
  have hrun := hbooks.run hsize host.recorded steps
  have hsteps : Traced (r.run host.recorded steps) := htraced.run hbooks hsize steps
  obtain ⟨hnone, hblank⟩ := requests_of_start hr hempty
  have hrecalls : Recalls (r.run host.recorded steps) := hblank.run htraced hbooks hsize steps
  obtain ⟨n, hn, hcounted⟩ : ∃ n ≤ 2 * steps.length, Counted (0 + n) (r.run host.recorded steps) :=
    hnone.run htraced hbooks hsize steps
  refine ⟨r, w', hr, plain_run host r steps, _, rfl, ?_, fun hfew ↦ ?_, hsteps.replaced,
    fun slot h hh ↦ (hsteps.served slot h hh).answered, fun file ↦ ?_⟩
  · obtain ⟨numbers, hincreasing, hbounds, hids⟩ := hcounted.ids
    refine ⟨numbers, hincreasing, fun m hm ↦ ⟨(hbounds m hm).1, ?_⟩, hids⟩
    have hle := (hbounds m hm).2
    omega
  · exact hcounted.nodup (by omega)
  · have hparses := parses_parse host.recorded file (hrun.idle_ne_nil hsize)
    obtain ⟨new, hexchanges, hshows, -⟩ := hsteps.exists_shows hrun hrecalls hparses
    refine ⟨new, hexchanges, ?_⟩
    rwa [parse_recorded, plain_run] at hshows

/-- A worker that sends its first line twice: the second time it is not taken for an answer. -/
theorem run_attributed_of_repeating :
    ∃ r w', start repeating.recorded { command := { program := "worker" }, size := 1 }
        { world := () } = (.ok r, w') ∧
      ∃ exchanges, (r.run repeating.recorded
          [.parse ⟨⟨"A.java"⟩, "a"⟩, .parse ⟨⟨"B.java"⟩, "b"⟩]).world.exchanges = exchanges ∧
        exchanges.map (·.worker) = [1, 1, 2] ∧
        exchanges.Pairwise (fun e e' ↦ e.worker = e'.worker → e.IsAnswered) := by
  obtain ⟨p, hstart⟩ :
      ∃ p, start repeating { command := { program := "worker" }, size := 1 } () = (.ok p, ()) :=
    ⟨_, rfl⟩
  obtain ⟨r, w', hr, -, exchanges, hexchanges, -, -, hreplaced, -⟩ := run_attributed hstart
    [.parse ⟨⟨"A.java"⟩, "a"⟩, .parse ⟨⟨"B.java"⟩, "b"⟩]
  refine ⟨r, w', hr, exchanges, hexchanges, ?_, hreplaced⟩
  rw [← hexchanges]
  cases hr
  decide +kernel

end State

end JavaDeps.Pool
