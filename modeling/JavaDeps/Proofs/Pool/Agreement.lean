import JavaDeps.Proofs.Pool.Crowds
import JavaDeps.Proofs.Worker.Exchange

/-!
# A pool agrees with the scanner

**A pool of reference workers answers every call as the scanner does**, whatever was asked of it
before and is asked of it meanwhile (`parse_eq_scan`). A call goes through two encodings, two
decodings and a process, or is answered with facts that are kept for its stamp; neither makes a
difference.

The invariant is that of a `Faithful` crowd. In the pool, the workers are reference workers with
nothing left unread, and facts are kept only for stamps of requested files that hold them. Of the
calls, none has failed, and those under way or done have what the scanner says about their files.
Stamps stand for contents among the requested files; this is asked of those files alone.
-/

namespace JavaDeps.Pool

open Java (Facts)
open Wire (Outcome Request Response)
open Worker (Instance)

variable {σ ω : Type}

/-- What a worker should say about a file: the facts that the scanner finds, or the text of its
refusal. -/
def verdict (file : SourceFile) : Outcome :=
  (Java.scan file.contents).mapError (·.message)

/-- A worker of the reference kind, with nothing left unread: what it sends next answers the next
line that it is sent. -/
def IsReference (h : Handle (Instance σ)) : Prop := h.process = .reference false []

/-! ### One exchange -/

/-- A response to the request that was sent is taken for what it says. -/
theorem readReply_line {request : Nat} (hid : request < Nat.pow 2 64) (worker : Nat) (o : Outcome) :
    readReply worker request (Response.ofOutcome request o).line = (.ok o, false) := by
  have hparse : Response.parse (Response.ofOutcome request o).line = .ok (.ofOutcome request o) :=
    Response.parse_line (by cases o <;> exact hid)
  rw [readReply, hparse]
  cases o <;> simp [Response.ofOutcome, Response.outcome?]

/-- A reference worker answers a request with its verdict, and is as it was. -/
theorem request_isReference (names : List String) (others : Host σ ω) {h : Handle (Instance σ)}
    (hreference : IsReference h) {id : Nat} (hid : id < Nat.pow 2 64) (limit : Duration)
    (file : SourceFile) (w : ω) :
    ∃ h', h.request (Worker.host names others) limit id file w = (.ok (verdict file), h', w) ∧
      IsReference h' := by
  have hexchange : (Worker.host names others).exchange limit (Request.ofFile id file).line
      h.process w = (.line (Worker.respond (.ofFile id file)).line, .reference false [], w) := by
    rw [hreference, Worker.exchange_line names others (q := .ofFile id file) hid]
  have hreply : readReceived limit h.id id (.line (Worker.respond (.ofFile id file)).line) =
      (.ok (verdict file), false) := readReply_line hid h.id (verdict file)
  refine ⟨{ h with process := .reference false [], inFlight := false, served := h.served + 1 },
    ?_, rfl⟩
  rw [Handle.request, hexchange]
  simp only [hreply]
  rfl

namespace State

/-! ### Faithful pools -/

/-- Whether a pool has reference workers only, and keeps only facts that some of the files hold. -/
structure Faithful (names : List String) (files : List SourceFile) (p : State (Instance σ) ω) :
    Prop where
  running : p.isShutDown = false
  workers : ∀ h, some h ∈ p.slots → IsReference h
  command : names.contains p.options.command.program = true
  number : p.nextRequest < Nat.pow 2 64
  memo : ∀ stamp facts, p.remembered? stamp = some facts →
    ∃ f ∈ files, f.stamp = stamp ∧ Java.scan f.contents = .ok facts

variable {names : List String} {files : List SourceFile} {p : State (Instance σ) ω}
  {file : SourceFile}

/-- A pool starts reference workers if their program has one of the names. -/
theorem spawn_reference (hcommand : names.contains p.options.command.program = true)
    (others : Host σ ω) : p.spawn (Worker.host names others) =
      (.ok { id := p.nextWorker, process := .reference false [] },
        { p with nextWorker := p.nextWorker + 1, spawned := p.spawned + 1 }) := by
  have hstart : (Worker.host names others).start p.options.command p.world =
      (.ok (.reference false []), p.world) := by
    simp only [Worker.host, Worker.startInstance, hcommand, if_true]
  rw [spawn, hstart]

namespace Faithful

/-- A slot may be given a worker that is a reference worker, or none. -/
theorem setSlot (h : Faithful names files p) (slot : Nat) {back : Option (Handle (Instance σ))}
    (hback : ∀ g, back = some g → IsReference g) : Faithful names files (p.setSlot slot back) where
  running := h.running
  workers g hg := (List.mem_or_eq_of_mem_set hg).elim (h.workers g) fun heq ↦ hback g heq.symm
  command := h.command
  number := h.number
  memo := h.memo

/-- The worker of a slot is a reference worker, started just now or before. -/
theorem workerFor (h : Faithful names files p) (others : Host σ ω) (slot : Nat) :
    ∃ worker p', p.workerFor (Worker.host names others) slot = (.ok worker, p') ∧
      IsReference worker ∧ Faithful names files p' := by
  rcases hslot : p.slot? slot with - | worker
  · refine ⟨{ id := p.nextWorker, process := .reference false [] }, { p with
      nextWorker := p.nextWorker + 1, spawned := p.spawned + 1, respawned := p.respawned + 1 },
      ?_, rfl, { h with }⟩
    rw [State.workerFor, hslot, spawn_reference h.command]
  · refine ⟨worker, p, by rw [State.workerFor, hslot], ?_, h⟩
    exact h.workers worker (List.mem_of_getElem? (Option.join_eq_some_iff.1 hslot))

/-- **A slot on loan comes back with the verdict on the file**, and with a reference worker. -/
theorem lend (h : Faithful names files p) (others : Host σ ω) (slot : Nat) (file : SourceFile) :
    (p.lend (Worker.host names others) slot file).1.result = .ok (verdict file) ∧
      (∀ g, (p.lend (Worker.host names others) slot file).1.worker = some g → IsReference g) ∧
      Faithful names files (p.lend (Worker.host names others) slot file).2 := by
  have hchecked : Faithful names files (p.checkout slot) :=
    { h with number := Nat.mod_lt _ (Nat.pow_pos (by decide)) }
  obtain ⟨worker, p', hworker, hreference, hp'⟩ := hchecked.workerFor others slot
  obtain ⟨worker', hrequest, hreference'⟩ := request_isReference names others hreference h.number
    p'.options.requestTimeout file p'.world
  have hempty : Faithful names files (p'.setSlot slot none) := hp'.setSlot slot fun _ h ↦ by cases h
  rw [State.lend, hworker]
  dsimp only
  rw [hrequest]
  refine ⟨rfl, fun g hg ↦ ?_, { hempty with }⟩
  rw [← Option.some.inj hg]
  exact hreference'

theorem takeBack (h : Faithful names files p) (others : Host σ ω) {loan : Loan (Instance σ)}
    (hback : ∀ g, loan.worker = some g → IsReference g) :
    Faithful names files (p.takeBack (Worker.host names others) loan) := by
  rw [State.takeBack, if_neg (by rw [h.running]; exact Bool.false_ne_true)]
  exact { h.setSlot loan.slot hback with }

/-- A pool that takes in the verdict on one of the files answers as the scanner does. -/
theorem conclude (h : Faithful names files p) (hfile : file ∈ files) :
    (p.conclude file (verdict file)).1 = file.scan ∧
      Faithful names files (p.conclude file (verdict file)).2 := by
  rcases hscan : Java.scan file.contents with e | facts
  · have hverdict : verdict file = .error e.message := by rw [verdict, hscan]; rfl
    rw [hverdict, SourceFile.scan, hscan]
    exact ⟨rfl, h⟩
  · have hverdict : verdict file = .ok facts := by rw [verdict, hscan]; rfl
    rw [hverdict, SourceFile.scan, hscan]
    refine ⟨rfl, { h with memo := fun stamp facts' hmemo ↦ ?_ }⟩
    have hmemo : ((file.stamp, facts) :: p.memo).lookup stamp = some facts' := hmemo
    by_cases hstamp : file.stamp = stamp
    · -- what was kept just now is what the scanner found
      subst hstamp
      rw [List.lookup_cons_self] at hmemo
      exact ⟨file, hfile, rfl, by rw [hscan, Option.some.inj hmemo]⟩
    · rw [List.lookup_cons, beq_eq_false_iff_ne.2 (Ne.symm hstamp)] at hmemo
      exact h.memo stamp facts' hmemo

end Faithful

end State

/-! ### Faithful crowds -/

/-- Whether a call for a file has come no further than the scanner would let it. -/
inductive Call.Agrees (file : SourceFile) : Call (Instance σ) → Prop
  | waiting (place : Nat) : Agrees file (.waiting place none)
  | underway {loan : Loan (Instance σ)} (hresult : loan.result = .ok (verdict file))
    (hback : ∀ g, loan.worker = some g → IsReference g) : Agrees file (.underway none loan)
  | done : Agrees file (.done file.scan)

theorem Call.Agrees.eq_scan {file : SourceFile} {outcome : ParseOutcome}
    (h : Agrees file (.done outcome : Call (Instance σ))) : outcome = file.scan := by
  cases h
  rfl

namespace Crowd

/-- Whether a crowd has a faithful pool, and calls for some of the files that agree with it. -/
structure Faithful (names : List String) (files : List SourceFile) (c : Crowd (Instance σ) ω) :
    Prop where
  pool : c.pool.Faithful names files
  calls : ∀ entry ∈ c.calls, entry.1 ∈ files ∧ entry.2.Agrees entry.1

namespace Faithful

variable {names : List String} {files : List SourceFile} {c q : Crowd (Instance σ) ω}
  {file : SourceFile}

/-- A call that gets further in agreement keeps a crowd faithful. -/
theorem set (h : Faithful names files c) {pool : State (Instance σ) ω}
    (hpool : pool.Faithful names files) {i : Nat} {call call' : Call (Instance σ)}
    (hcall : c.calls[i]? = some (file, call)) (hagrees : call'.Agrees file) (ticket : Nat) :
    Faithful names files { pool, calls := c.calls.set i (file, call'), ticket } := by
  refine ⟨hpool, fun entry hentry ↦ ?_⟩
  rcases List.mem_or_eq_of_mem_set hentry with hold | rfl
  · exact h.calls entry hold
  · exact ⟨(h.calls _ (List.mem_of_getElem? hcall)).1, hagrees⟩

/-- **A turn keeps a crowd faithful.** -/
theorem turn {others : Host σ ω} (h : Faithful names files c) {i : Nat} {d? : Option Departure}
    (hturns : Turns (Worker.host names others) c i q d?) : Faithful names files q := by
  cases hturns with
  | rests hpool hcalls => exact ⟨hpool ▸ h.pool, hcalls ▸ h.calls⟩
  | @departs file place slot failed? hcall _ =>
    obtain ⟨hresult, hback, hlent⟩ := h.pool.lend others slot file
    cases (h.calls _ (List.mem_of_getElem? hcall)).2
    exact h.set hlent hcall (.underway hresult hback) _
  | @answered file failed? loan o hcall hresult =>
    obtain ⟨hfile, hagrees⟩ := h.calls _ (List.mem_of_getElem? hcall)
    rcases hagrees with - | ⟨hverdict, hback⟩
    obtain rfl := Except.ok.inj (hresult.symm.trans hverdict)
    obtain ⟨hscan, hpool⟩ := (h.pool.takeBack others hback).conclude hfile
    exact h.set hpool hcall (hscan ▸ .done) _
  | failed hcall hresult =>
    rcases (h.calls _ (List.mem_of_getElem? hcall)).2 with - | ⟨hverdict, -⟩
    cases hresult.symm.trans hverdict
  | failedAgain hcall _ => cases (h.calls _ (List.mem_of_getElem? hcall)).2

section

variable (hstamps : ∀ f ∈ files, ∀ g ∈ files, f.stamp = g.stamp → f.contents = g.contents)

include hstamps

/-- A call that begins waits, or has facts of a file with the same contents. -/
theorem make (h : Faithful names files c) (hfile : file ∈ files) :
    Faithful names files (c.make file) := by
  obtain ⟨hpool, hagrees⟩ : (Call.begin c.pool c.ticket file).2.Faithful names files ∧
      (Call.begin c.pool c.ticket file).1.Agrees file := by
    rw [Call.begin, if_neg (by rw [h.pool.running]; exact Bool.false_ne_true)]
    rcases hmemo : c.pool.remembered? file.stamp with - | facts <;> dsimp only
    · exact ⟨h.pool, .waiting _⟩
    · obtain ⟨f, hf, hstamp, hscan⟩ := h.pool.memo file.stamp facts hmemo
      rw [hstamps f hf file hfile hstamp] at hscan
      have hfacts : file.scan = .ok facts := by rw [SourceFile.scan, hscan]
      exact ⟨{ h.pool with }, hfacts ▸ .done⟩
  refine ⟨hpool, fun entry hentry ↦ ?_⟩
  rcases List.mem_append.1 hentry with hold | hnew
  · exact h.calls entry hold
  · rw [List.mem_singleton.1 hnew]
    exact ⟨hfile, hagrees⟩

/-- **Calls for some of the files keep a crowd faithful**, with any turns. -/
theorem run (h : Faithful names files c) (others : Host σ ω) {moves : List Move}
    (hup : .shutdown ∉ moves) (hfiles : ∀ file, .call file ∈ moves → file ∈ files) :
    Faithful names files (c.run (Worker.host names others) moves) := by
  induction moves generalizing c with
  | nil => exact h
  | cons m rest ih =>
    obtain ⟨hm, hrest⟩ := not_or.1 (mt List.mem_cons.2 hup)
    have hlater : ∀ file, .call file ∈ rest → file ∈ files :=
      fun file hmem ↦ hfiles file (List.mem_cons_of_mem _ hmem)
    refine ih ?_ hrest hlater
    cases m with
    | call file => exact h.make hstamps (hfiles file List.mem_cons_self)
    | turn i => exact h.turn (turns_turn (Worker.host names others) h.pool.running i)
    | shutdown => exact absurd rfl hm

end

end Faithful

end Crowd

/-! ### Many calls -/

namespace State

variable {names : List String} {files : List SourceFile} {p : State (Instance σ) ω}
  {file : SourceFile} {size started : Nat}

/-- A pool without calls is faithful if it is. -/
theorem Faithful.crowd (h : Faithful names files p) : Crowd.Faithful names files { pool := p } :=
  ⟨h, nofun⟩

section

variable (hstamps : ∀ f ∈ files, ∀ g ∈ files, f.stamp = g.stamp → f.contents = g.contents)

include hstamps

/-- **Files that are handed in at once are answered as the scanner answers them.** -/
theorem Faithful.parseAll (h : Faithful names files p) (hbooks : p.Accounted size started)
    (hsize : size ≠ 0) (others : Host σ ω) {requests : List SourceFile}
    (hrequests : requests ⊆ files) :
    (State.parseAll (Worker.host names others) requests p).1 = requests.map (·.scan) ∧
      Faithful names files (State.parseAll (Worker.host names others) requests p).2 := by
  obtain ⟨turns, c, hc, hparse, hfiles, hdone⟩ :=
    Crowd.exists_parseAll_eq (Worker.host names others) hbooks hsize h.running requests
  have hfaithful : c.Faithful names files :=
    hc ▸ h.crowd.run hstamps others (by simp) fun file hfile ↦ hrequests (by simpa using hfile)
  rw [hparse]
  refine ⟨?_, hfaithful.pool⟩
  have hanswers : ∀ entry ∈ c.calls, entry.2.outcome?.getD (.error .shutDown) = entry.1.scan := by
    rintro ⟨file, call⟩ hentry
    obtain ⟨outcome, rfl⟩ := hdone _ hentry
    exact (hfaithful.calls _ hentry).2.eq_scan
  rw [Crowd.outcomes, List.map_congr_left hanswers, ← hfiles, List.map_map]
  rfl

/-- The same holds for a file that is parsed on its own. -/
theorem Faithful.parse (h : Faithful names files p) (hbooks : p.Accounted size started)
    (hsize : size ≠ 0) (others : Host σ ω) (hfile : file ∈ files) :
    (p.parse (Worker.host names others) file).1 = file.scan ∧
      Faithful names files (p.parse (Worker.host names others) file).2 := by
  obtain ⟨hanswer, hfaithful⟩ :=
    h.parseAll hstamps hbooks hsize others (List.cons_subset.2 ⟨hfile, List.nil_subset _⟩)
  rw [parseAll_singleton (Worker.host names others) (hbooks.idle_ne_nil hsize)] at hanswer hfaithful
  exact ⟨List.singleton_inj.1 hanswer, hfaithful⟩

end

/-- The outcomes of files that are parsed one after another, each in the pool that the one before it
left. -/
def parseInTurn (host : Host σ ω) (p : State σ ω) :
    List SourceFile → List ParseOutcome × State σ ω
  | [] => ([], p)
  | file :: rest =>
    let (outcome, p) := p.parse host file
    let (others, p) := p.parseInTurn host rest
    (outcome :: others, p)

/-- **Files that are parsed one after another are answered as the scanner answers them.** -/
theorem Faithful.parseInTurn (h : Faithful names files p) (hbooks : p.Accounted size started)
    (hsize : size ≠ 0) (others : Host σ ω)
    (hstamps : ∀ f ∈ files, ∀ g ∈ files, f.stamp = g.stamp → f.contents = g.contents)
    {requests : List SourceFile} (hrequests : requests ⊆ files) :
    (p.parseInTurn (Worker.host names others) requests).1 = requests.map (·.scan) := by
  induction requests generalizing p with
  | nil => rfl
  | cons file rest ih =>
    rw [List.cons_subset] at hrequests
    obtain ⟨houtcome, hfaithful⟩ := h.parse hstamps hbooks hsize others hrequests.1
    have hparses := parses_parse (Worker.host names others) file (hbooks.idle_ne_nil hsize)
    rw [List.map_cons, ← houtcome, ← ih hfaithful (hbooks.parses hparses) hrequests.2]
    rfl

/-! ### Starting -/

/-- To fill slots leaves a pool faithful. -/
theorem Faithful.fill (h : Faithful names files p) (others : Host σ ω) (slots : List Nat) :
    Faithful names files (p.fill (Worker.host names others) slots).2 ∧
      (p.fill (Worker.host names others) slots).2.spawned = p.spawned + slots.length := by
  induction slots generalizing p with
  | nil => exact ⟨h, rfl⟩
  | cons slot rest ih =>
    have hspawned : Faithful names files
        { p with nextWorker := p.nextWorker + 1, spawned := p.spawned + 1 } := { h with }
    have hworker : ∀ g : Handle (Instance σ),
        some { id := p.nextWorker, process := .reference false [] } = some g → IsReference g := by
      rintro g ⟨⟩
      rfl
    obtain ⟨hfaithful, hcount⟩ := ih (hspawned.setSlot slot hworker)
    rw [State.fill, spawn_reference h.command]
    refine ⟨hfaithful, ?_⟩
    rw [hcount, List.length_cons, Nat.add_comm rest.length, ← Nat.add_assoc]
    rfl

/-- **A pool of reference workers starts, and is faithful.** -/
theorem exists_start (names : List String) (others : Host σ ω) (files : List SourceFile)
    {options : Options} (world : ω) (hoptions : options.fault? = none)
    (hcommand : options.command.program ∈ names) :
    ∃ p world', start (Worker.host names others) options world = (.ok p, world') ∧
      Faithful names files p := by
  have hsize : options.size ≠ 0 := fun hzero ↦ by
    rw [Options.fault?, if_pos hzero] at hoptions
    cases hoptions
  have hempty : Faithful (σ := σ) names files
      { options, idle := List.range options.size,
        slots := (List.range options.size).map fun _ ↦ none, world } :=
    { running := rfl
      workers := fun h hh ↦ by simp at hh
      command := List.contains_iff_mem.2 hcommand
      number := show 1 < Nat.pow 2 64 by decide
      memo := fun _ _ hmemo ↦ by cases hmemo }
  obtain ⟨hfaithful, hcount⟩ := hempty.fill others (List.range options.size)
  rw [start, hoptions]
  dsimp only
  generalize State.fill _ _ (List.range options.size) = filled at hfaithful hcount ⊢
  -- a pool that could start no worker is refused, and this one has started some
  have hspawned : filled.2.spawned ≠ 0 := by
    rw [hcount, List.length_range]
    exact fun h ↦ hsize (Nat.eq_zero_of_add_eq_zero_left h)
  rw [if_neg hspawned]
  exact ⟨_, _, rfl, hfaithful⟩

/-- **A pool of reference workers agrees with the scanner.** A pool of any size starts, and whatever
files it is asked to parse, one after another or all at once, each outcome is the one that the
scanner has for that file: the same facts, or a refusal with the same path and message. So is the
outcome of each call that is done after any moves, as long as the pool is not shut down. Among these
files, a stamp must stand for one text.

The reference worker may have any names, and other programs may be there that do anything else. -/
theorem parse_eq_scan (names : List String) (others : Host σ ω) (options : Options) (world : ω)
    (files : List SourceFile) (hoptions : options.fault? = none)
    (hcommand : options.command.program ∈ names)
    (hstamps : ∀ f ∈ files, ∀ g ∈ files, f.stamp = g.stamp → f.contents = g.contents) :
    ∃ p world', start (Worker.host names others) options world = (.ok p, world') ∧
      (p.parseInTurn (Worker.host names others) files).1 = files.map (·.scan) ∧
      (State.parseAll (Worker.host names others) files p).1 = files.map (·.scan) ∧
      ∀ moves : List Move, .shutdown ∉ moves → (∀ file, .call file ∈ moves → file ∈ files) →
        ∀ file outcome, (file, .done outcome) ∈
          (Crowd.run (Worker.host names others) { pool := p } moves).calls →
          outcome = file.scan := by
  obtain ⟨p, world', hstart, h⟩ := exists_start names others files world hoptions hcommand
  have hsize := (eq_fill_of_start hstart).1
  have hbooks := (starting_of_start hstart).toAccounted
  refine ⟨p, world', hstart,
    h.parseInTurn hbooks hsize others hstamps (List.Subset.refl files),
    (h.parseAll hstamps hbooks hsize others (List.Subset.refl files)).1,
    fun moves hup hfiles file outcome hdone ↦ ?_⟩
  exact ((h.crowd.run hstamps others hup hfiles).calls _ hdone).2.eq_scan

/-- Two workers, a file under two paths, and a file that is refused. -/
theorem parse_eq_scan_of_copy :
    ∃ p world', start (Worker.host ["worker"] (Worker.noPrograms Unit))
        { command := { program := "worker" }, size := 2 } () = (.ok p, world') ∧
      (p.parseInTurn (Worker.host ["worker"] (Worker.noPrograms Unit))
        [⟨⟨"A.java"⟩, "class A \x7b\x7d"⟩, ⟨⟨"b/A.java"⟩, "class A \x7b\x7d"⟩,
          ⟨⟨"C.java"⟩, "class C \x7b"⟩]).1 =
        [.ok { declaredTypes := ["A"] }, .ok { declaredTypes := ["A"] },
          .error (.refused ⟨"C.java"⟩ "unbalanced braces at byte 8")] := by
  obtain ⟨p, world', hstart, hturn, -⟩ := parse_eq_scan ["worker"] (Worker.noPrograms Unit)
    { command := { program := "worker" }, size := 2 } ()
    [⟨⟨"A.java"⟩, "class A \x7b\x7d"⟩, ⟨⟨"b/A.java"⟩, "class A \x7b\x7d"⟩,
      ⟨⟨"C.java"⟩, "class C \x7b"⟩]
    (by decide) (by decide) (by decide +kernel)
  refine ⟨p, world', hstart, ?_⟩
  rw [hturn]
  decide +kernel

end State

end JavaDeps.Pool
