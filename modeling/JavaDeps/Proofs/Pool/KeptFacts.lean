import JavaDeps.Proofs.Pool.Retry
import JavaDeps.Proofs.Pool.Service
import Mathlib.Data.List.Induction

/-!
# Facts that are kept

**A pool answers from the facts it keeps exactly where an earlier parse came out with facts** for a
file with the same stamp, whatever its path and whatever the workers do (`parse_hits_iff_learned`).
Such an answer counts as a hit and changes nothing else.

A parse either finds facts that are kept (`parse_of_remembered`) or has the file tried, and then
keeps the facts that it returns (`Parses.memo`). So the facts kept for a stamp are never replaced by
others, and they are what *every* parse of a file with that stamp came out with that had facts at
all (`Accounted.remembered?_run_iff`).
-/

namespace JavaDeps.Pool

open Java (Facts)
open Wire (Outcome)

namespace State

variable {σ ω : Type} {host : Host σ ω} {p q : State σ ω} {size started slot : Nat}
  {file : SourceFile}

/-! ### One parse -/

/-- Facts that are kept are the answer, and to give it changes no more than the count. -/
theorem parse_of_remembered (host : Host σ ω) (hup : p.isShutDown = false) {facts : Facts}
    (hmemo : p.remembered? file.stamp = some facts) :
    p.parse host file = (.ok facts, { p with memoHits := p.memoHits + 1 }) := by
  rw [parse, first, if_neg (by rw [hup]; exact Bool.false_ne_true), hmemo]
  rfl

theorem Employs.memoHits {h : Handle σ} (hemploys : Employs host p slot h q) :
    q.memoHits = p.memoHits := by
  cases hemploys <;> rfl

/-- An attempt keeps no facts, and is no hit. -/
theorem AttemptsIn.memo {a : Attempt} (h : AttemptsIn host p slot file a q) :
    q.memo = p.memo ∧ q.memoHits = p.memoHits := by
  cases h with
  | unstarted _ _ => exact ⟨rfl, rfl⟩
  | answered hemploys _ _ => exact ⟨hemploys.nextRequest.2, hemploys.memoHits⟩
  | failed hemploys _ _ => exact ⟨hemploys.nextRequest.2, hemploys.memoHits⟩

/-- What is kept of the outcome of a file: its facts, if it has any. -/
def kept (file : SourceFile) : ParseOutcome → List (Stamp × Facts)
  | .ok facts => [(file.stamp, facts)]
  | .error _ => []

theorem memo_conclude (p : State σ ω) (file : SourceFile) (o : Outcome) :
    (p.conclude file o).2.memo = kept file (p.conclude file o).1 ++ p.memo ∧
      (p.conclude file o).2.memoHits = p.memoHits := by
  cases o <;> exact ⟨rfl, rfl⟩

/-- **Where no facts are kept, those that the parse returns are kept from then on**, whether the
first attempt found them or the second. -/
theorem Parses.memo {outcome : ParseOutcome} (h : Parses host p file outcome q)
    (hmemo : p.remembered? file.stamp = none) :
    q.memo = kept file outcome ++ p.memo ∧ q.memoHits = p.memoHits := by
  cases h with
  | shutDown _ => exact ⟨rfl, rfl⟩
  | remembered _ hsome =>
    rw [hmemo] at hsome
    cases hsome
  | @answered _ q o _ _ hfirst =>
    obtain ⟨hkeeps, hhits⟩ := memo_conclude q file o
    obtain ⟨hsame, hcount⟩ := hfirst.memo
    rw [hkeeps, hhits, hsame, hcount]
    exact ⟨rfl, rfl⟩
  | @retried _ _ _ _ _ r o _ _ hfirst _ hsecond =>
    obtain ⟨hkeeps, hhits⟩ := memo_conclude r file o
    obtain ⟨hsame, hcount⟩ := hfirst.memo
    obtain ⟨hsame', hcount'⟩ := hsecond.memo
    rw [hkeeps, hhits, hsame', hcount', hsame, hcount]
    exact ⟨rfl, rfl⟩
  | failed _ _ hfirst _ hsecond =>
    obtain ⟨hsame, hcount⟩ := hfirst.memo
    obtain ⟨hsame', hcount'⟩ := hsecond.memo
    exact ⟨hsame'.trans hsame, hcount'.trans hcount⟩

/-- Where no facts are kept, the file is tried: that is no hit, and only the facts that come out are
kept. -/
theorem Accounted.parse_of_not_remembered (h : Accounted size started p) (hsize : size ≠ 0)
    (host : Host σ ω) (hup : p.isShutDown = false) (hmemo : p.remembered? file.stamp = none) :
    (p.parse host file).2.memoHits = p.memoHits ∧
      (p.parse host file).2.memo = kept file (p.parse host file).1 ++ p.memo ∧
      ∃ tries r, tries ≠ [] ∧ Tries host file p tries r ∧
        ∃ memo, (p.parse host file).2 = { r with memo } := by
  obtain ⟨hkeeps, hhits⟩ := (parses_parse host file (h.idle_ne_nil hsize)).memo hmemo
  obtain ⟨tries, r, htries, hafter, hretries, -⟩ := h.exists_tries hsize host hup hmemo
  obtain ⟨t, ht, -⟩ := hretries.count
  have htried : tries ≠ [] := List.ne_nil_of_mem (List.mem_of_mem_head? ht)
  exact ⟨hhits, hkeeps, tries, r, htried, htries, hafter⟩

/-- **After a parse facts are kept that were kept before, or that it returned.** -/
theorem remembered?_parse_iff (host : Host σ ω) (hup : p.isShutDown = false) (hidle : p.idle ≠ [])
    (file : SourceFile) (stamp : Stamp) (facts : Facts) :
    (p.parse host file).2.remembered? stamp = some facts ↔
      p.remembered? stamp = some facts ∨
        file.stamp = stamp ∧ (p.parse host file).1 = .ok facts := by
  -- facts are added only where there are none, so that none are replaced
  rcases hmemo : p.remembered? file.stamp with - | known
  · obtain ⟨hkeeps, -⟩ := (parses_parse host file hidle).memo hmemo
    rw [remembered?, hkeeps]
    rcases (p.parse host file).1 with failure | found
    · simp [kept, remembered?]
    · by_cases hstamp : file.stamp = stamp
      · subst hstamp
        simp [kept, hmemo]
      · have hne : (stamp == file.stamp) = false := beq_eq_false_iff_ne.2 (Ne.symm hstamp)
        simp [kept, remembered?, List.lookup_cons, hne, hstamp]
  · rw [parse_of_remembered host hup hmemo]
    show p.remembered? stamp = some facts ↔ _
    refine ⟨.inl, ?_⟩
    rintro (hold | ⟨rfl, hsame⟩)
    · exact hold
    · rwa [← Except.ok.inj hsame]

/-! ### Runs of parses -/

variable (host) in
/-- Whether one of some files, parsed one after another, had a stamp and came out with facts. -/
def Learned (p : State σ ω) (files : List SourceFile) (stamp : Stamp) (facts : Facts) : Prop :=
  ∃ before file after, files = before ++ file :: after ∧ file.stamp = stamp ∧
    ((p.run host (before.map .parse)).parse host file).1 = .ok facts

theorem not_learned_nil (p : State σ ω) (stamp : Stamp) (facts : Facts) :
    ¬ Learned host p [] stamp facts := by
  rintro ⟨before, file, after, hfiles, -⟩
  cases before <;> cases hfiles

/-- With one file more, those facts are learned that were before, and those that this file gives. -/
theorem learned_concat_iff (p : State σ ω) (files : List SourceFile) (file : SourceFile)
    (stamp : Stamp) (facts : Facts) :
    Learned host p (files ++ [file]) stamp facts ↔
      Learned host p files stamp facts ∨ file.stamp = stamp ∧
        ((p.run host (files.map .parse)).parse host file).1 = .ok facts := by
  constructor
  · rintro ⟨before, f, after, hfiles, hstamp, hfacts⟩
    rcases after.eq_nil_or_concat with rfl | ⟨after, last, rfl⟩
    · obtain ⟨rfl, hlast⟩ := List.append_inj' hfiles rfl
      cases hlast
      exact .inr ⟨hstamp, hfacts⟩
    · rw [List.concat_eq_append, ← List.cons_append, ← List.append_assoc] at hfiles
      obtain ⟨rfl, -⟩ := List.append_inj' hfiles rfl
      exact .inl ⟨before, f, after, rfl, hstamp, hfacts⟩
  · rintro (⟨before, f, after, rfl, hstamp, hfacts⟩ | ⟨hstamp, hfacts⟩)
    · exact ⟨before, f, after ++ [file], by simp, hstamp, hfacts⟩
    · exact ⟨files, file, [], rfl, hstamp, hfacts⟩

/-- To parse files shuts no pool down. -/
theorem Accounted.isShutDown_run_parses (h : Accounted size started p) (hsize : size ≠ 0)
    (host : Host σ ω) (hup : p.isShutDown = false) (files : List SourceFile) :
    (p.run host (files.map .parse)).isShutDown = false := by
  rw [← Bool.not_eq_true, h.isShutDown_run hsize host]
  simp [hup]

/-- **The facts that are kept after any parses are those they came out with.** -/
theorem Accounted.remembered?_run_iff (h : Accounted size started p) (hsize : size ≠ 0)
    (hup : p.isShutDown = false) (hmemo : p.memo = []) (files : List SourceFile) (stamp : Stamp)
    (facts : Facts) :
    (p.run host (files.map .parse)).remembered? stamp = some facts ↔
      Learned host p files stamp facts := by
  induction files using List.reverseRecOn with
  | nil =>
    refine iff_of_false ?_ (not_learned_nil p stamp facts)
    show p.memo.lookup stamp ≠ some facts
    rw [hmemo]
    exact nofun
  | append_singleton files file ih =>
    have hbooks := h.run hsize host (files.map .parse)
    have hrunning := h.isShutDown_run_parses hsize host hup files
    rw [List.map_append, run_append, learned_concat_iff, ← ih]
    exact remembered?_parse_iff host hrunning (hbooks.idle_ne_nil hsize) file stamp facts

/-- **A parse is answered from the facts that are kept exactly if an earlier parse of a file with
the same stamp came out with facts**, under whatever path and whatever the workers do. It comes out
with the same facts then, and changes nothing but the count of hits. Otherwise the file is tried,
and no hit is counted. A parse that comes out with no facts adds nothing to what is kept. -/
theorem parse_hits_iff_learned {options : Options} {world w : ω}
    (hstart : start host options world = (.ok p, w)) (files : List SourceFile)
    (file : SourceFile) :
    ∃ q, p.run host (files.map .parse) = q ∧
      ((q.parse host file).2.memoHits = q.memoHits + 1 ↔
        ∃ facts, Learned host p files file.stamp facts) ∧
      (∀ facts, Learned host p files file.stamp facts →
        q.parse host file = (.ok facts, { q with memoHits := q.memoHits + 1 })) ∧
      ((∀ facts, ¬ Learned host p files file.stamp facts) →
        (q.parse host file).2.memoHits = q.memoHits ∧
        ∃ tries r, tries ≠ [] ∧ Tries host file q tries r ∧
          ∃ memo, (q.parse host file).2 = { r with memo }) ∧
      ∀ failure, (q.parse host file).1 = .error failure →
        (q.parse host file).2.memo = q.memo := by
  obtain ⟨hsize, hp⟩ := eq_fill_of_start hstart
  have hstarting := starting_of_start hstart
  have hbooks : Accounted options.size p.spawned p := hstarting.toAccounted
  have hblank : p.memo = [] := by
    rw [hp]
    exact (fill_requests host (blank options world) (List.range options.size)).1
  have hlearned : ∀ facts, (p.run host (files.map .parse)).remembered? file.stamp = some facts ↔
      Learned host p files file.stamp facts :=
    hbooks.remembered?_run_iff hsize hstarting.isShutDown hblank files file.stamp
  have hup := hbooks.isShutDown_run_parses hsize host hstarting.isShutDown files
  have hq := hbooks.run hsize host (files.map .parse)
  refine ⟨_, rfl, ?_⟩
  generalize p.run host (files.map .parse) = q at hlearned hup hq ⊢
  rcases hmemo : q.remembered? file.stamp with - | known
  · -- nothing is kept for the stamp, so that the file is tried
    have hnone : ∀ facts, ¬ Learned host p files file.stamp facts := by
      intro facts hfacts
      rw [← hlearned, hmemo] at hfacts
      cases hfacts
    obtain ⟨hhits, hkeeps, htried⟩ := hq.parse_of_not_remembered hsize host hup hmemo
    refine ⟨iff_of_false ?_ ?_, fun facts hfacts ↦ absurd hfacts (hnone facts),
      fun _ ↦ ⟨hhits, htried⟩, ?_⟩
    · omega
    · exact fun ⟨facts, hfacts⟩ ↦ hnone facts hfacts
    · intro failure hfailure
      rw [hkeeps, hfailure]
      rfl
  · have hhit := parse_of_remembered host hup hmemo
    refine ⟨iff_of_true ?_ ?_, fun facts hfacts ↦ ?_, fun hnone ↦ ?_, fun _ _ ↦ ?_⟩
    · rw [hhit]
    · exact ⟨known, (hlearned known).1 hmemo⟩
    · rw [← hlearned, hmemo] at hfacts
      rw [hhit, Option.some.inj hfacts]
    · exact absurd ((hlearned known).1 hmemo) (hnone known)
    · rw [hhit]

/-- Workers that answer the first request of a pool, and exit. -/
def answering : Host (List String) Unit :=
  scripted ["\x7b\"id\":1,\"result\":\x7b\"declaredTypes\":[\"A\"]\x7d\x7d"]

/-- A copy of a file needs no worker. -/
theorem parse_hits_of_copy :
    ∃ p, start answering { command := { program := "worker" }, size := 1 } () = (.ok p, ()) ∧
      (p.parse answering ⟨⟨"A.java"⟩, "class A"⟩).1 = .ok { declaredTypes := ["A"] } ∧
      ∃ q, p.run answering [.parse ⟨⟨"A.java"⟩, "class A"⟩] = q ∧ q.memoHits = 0 ∧
        q.parse answering ⟨⟨"copy/A.java"⟩, "class A"⟩ =
          (.ok { declaredTypes := ["A"] }, { q with memoHits := 1 }) := by
  obtain ⟨p, hstart, hfacts, hhits⟩ :
      ∃ p, start answering { command := { program := "worker" }, size := 1 } () = (.ok p, ()) ∧
        (p.parse answering ⟨⟨"A.java"⟩, "class A"⟩).1 = .ok { declaredTypes := ["A"] } ∧
        (p.run answering [.parse ⟨⟨"A.java"⟩, "class A"⟩]).memoHits = 0 :=
    ⟨_, rfl, by decide +kernel, by decide +kernel⟩
  obtain ⟨q, hq, -, hlearned, -⟩ := parse_hits_iff_learned hstart [⟨⟨"A.java"⟩, "class A"⟩]
    ⟨⟨"copy/A.java"⟩, "class A"⟩
  have hcopy := hlearned _ ⟨[], _, [], rfl, rfl, hfacts⟩
  rw [← show p.run answering [.parse ⟨⟨"A.java"⟩, "class A"⟩] = q from hq] at hcopy
  refine ⟨p, hstart, hfacts, _, rfl, hhits, ?_⟩
  rw [hcopy, hhits]

end State

end JavaDeps.Pool
