import JavaDeps.Proofs.Wire.Stream
import JavaDeps.Worker.Host

/-!
# What the reference worker answers

**The reference worker answers a request with one line, and goes on waiting.** The line is the
response to that request, and nothing is left unread behind it; so a worker that has answered is as
good as a new one, and a stream of requests is answered with a stream of as many responses.
-/

namespace JavaDeps.Worker

open Wire (Request Response)

theorem respond_id (q : Request) : (respond q).id = q.id := by
  rw [respond]
  cases Except.mapError _ _ <;> rfl

/-- A request is not blank, and the worker reads it. -/
theorem reply_line {q : Request} (hid : q.id < Nat.pow 2 64) :
    reply q.line = .response (respond q) := by
  have hchars : q.line.toList = '\x7b' :: (Json.fieldChars [("id", .nat q.id),
      ("path", .string q.path), ("contents", .string q.contents)] ++ ['\x7d']) := by
    rw [Request.line, Json.Value.compact, String.toList_ofList]
    rfl
  have hblank : q.line.toList.all Unicode.isWhiteSpace = false := by
    rw [hchars, List.all_cons, show Unicode.isWhiteSpace '\x7b' = false by decide +kernel,
      Bool.false_and]
  rw [reply, hblank, if_neg Bool.false_ne_true, Request.parse_line hid]

/-- **The reference worker answers a stream of requests with a response to each**, in order. -/
theorem run_stream {requests : List Request} (hids : ∀ q ∈ requests, q.id < Nat.pow 2 64) :
    run (Wire.stream (requests.map Request.line)) = ⟨requests.map respond, 0⟩ := by
  rw [run, Wire.lines_stream (List.forall_mem_map.2 fun q _ ↦ q.oneLine)]
  induction requests with
  | nil => rfl
  | cons q requests ih =>
    rw [List.forall_mem_cons] at hids
    rw [List.map_cons, serve, reply_line hids.1, ih hids.2]
    rfl

theorem Transcript.output_eq (t : Transcript) :
    t.output = Wire.stream (t.responses.map Response.line) := by
  rw [output, Wire.stream, List.map_map]
  rfl

/-- Whoever sends requests receives the responses to them. -/
theorem received_run {requests : List Request} (hids : ∀ q ∈ requests, q.id < Nat.pow 2 64) :
    Wire.received Response.parse (run (Wire.stream (requests.map Request.line))).output =
      .ok (requests.map respond) := by
  have hanswers : ∀ p ∈ requests.map respond, p.id < Nat.pow 2 64 :=
    List.forall_mem_map.2 fun q hq ↦ respond_id q ▸ hids q hq
  rw [run_stream hids, Transcript.output_eq]
  exact Wire.received_responses hanswers

/-- **The reference worker answers a request with one line**, whatever other programs there are and
whatever world they live in. -/
theorem exchange_line {σ ω : Type} (names : List String) (others : Pool.Host σ ω) {q : Request}
    (hid : q.id < Nat.pow 2 64) (limit : Duration) (w : ω) :
    (host names others).exchange limit q.line (.reference false []) w =
      (.line (respond q).line, .reference false [], w) := by
  have hids : ∀ r ∈ [q], r.id < Nat.pow 2 64 := List.forall_mem_singleton.2 hid
  have hrun := run_stream hids
  rw [List.map_singleton, List.map_singleton, Wire.stream_singleton] at hrun
  have hone : ∀ line ∈ [(respond q).line], Wire.OneLine line :=
    List.forall_mem_singleton.2 (respond q).oneLine
  have hlines : Text.lines (Transcript.output ⟨[respond q], 0⟩) = [(respond q).line] := by
    rw [Transcript.output_eq, List.map_singleton, Wire.lines_stream hone]
  simp only [host, exchange]
  rw [exchangeReference, if_neg Bool.false_ne_true, hrun]
  simp only [hlines]
  rfl

end JavaDeps.Worker
