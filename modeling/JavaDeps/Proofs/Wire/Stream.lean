import JavaDeps.Proofs.Wire.RoundTrip

/-!
# Streams of messages

Each side writes its messages one after the other, and ends a line after each. A message holds no
line end of its own, so **a reader that goes line by line meets the messages that were written**, as
many and in the same order, whatever texts they carry: no message runs on into the next one.
-/

namespace JavaDeps.Wire

/-! ### Lines one after the other -/

/-- A text that is one line: it holds no line end of either kind. -/
def OneLine (text : String) : Prop := '\n' ∉ text.toList ∧ '\r' ∉ text.toList

/-- What is written for some lines: each with its end, one after the other. -/
def stream (lines : List String) : String := String.join (lines.map (· ++ "\n"))

theorem stream_cons (line : String) (lines : List String) :
    stream (line :: lines) = line ++ "\n" ++ stream lines := by
  rw [stream, List.map_cons, String.join_cons, stream]

theorem stream_singleton (line : String) : stream [line] = line ++ "\n" := by
  rw [stream_cons]
  exact String.append_empty

/-- **Written lines are read as they are**, as long as each is one. -/
theorem lines_stream {lines : List String} (h : ∀ line ∈ lines, OneLine line) :
    Text.lines (stream lines) = lines := by
  induction lines with
  | nil => rfl
  | cons line lines ih =>
    rw [List.forall_mem_cons] at h
    rw [stream_cons, Text.lines_cons h.1.1 h.1.2, ih h.2]

/-! ### Messages one after the other -/

section Received

variable {α : Type}

/-- The messages that a reader makes of a stream, line by line, unless one of the lines is none. -/
def received (parse : String → Except Json.DecodeError α) (text : String) :
    Except Json.DecodeError (List α) :=
  (Text.lines text).mapM parse

/-- **Messages that are lines of their own arrive**, in the order in which they were sent. -/
theorem received_stream {parse : String → Except Json.DecodeError α} {line : α → String}
    {messages : List α} (hline : ∀ m ∈ messages, OneLine (line m))
    (hparse : ∀ m ∈ messages, parse (line m) = .ok m) :
    received parse (stream (messages.map line)) = .ok messages := by
  rw [received, lines_stream (List.forall_mem_map.2 hline)]
  exact Json.mapM_map_eq_ok hparse

end Received

theorem Request.oneLine (q : Request) : OneLine q.line :=
  ⟨q.not_mem_line (by decide), q.not_mem_line (by decide)⟩

theorem Response.oneLine (p : Response) : OneLine p.line :=
  ⟨p.not_mem_line (by decide), p.not_mem_line (by decide)⟩

/-- A stream of requests is received as the requests that were sent. -/
theorem received_requests {requests : List Request}
    (hids : ∀ q ∈ requests, q.id < Nat.pow 2 64) :
    received Request.parse (stream (requests.map Request.line)) = .ok requests :=
  received_stream (fun q _ ↦ q.oneLine) fun q hq ↦ Request.parse_line (hids q hq)

/-- A stream of responses is received as the responses that were sent. -/
theorem received_responses {responses : List Response}
    (hids : ∀ p ∈ responses, p.id < Nat.pow 2 64) :
    received Response.parse (stream (responses.map Response.line)) = .ok responses :=
  received_stream (fun p _ ↦ p.oneLine) fun p hp ↦ Response.parse_line (hids p hp)

/-- **Every message is one line that decodes to it, and a stream of messages falls into them.**
The paths, contents and errors may be any text; a response may carry facts, an error, both or
neither. -/
theorem messages_arrive {requests : List Request} {responses : List Response}
    (hrequests : ∀ q ∈ requests, q.id < Nat.pow 2 64)
    (hresponses : ∀ p ∈ responses, p.id < Nat.pow 2 64) :
    (∀ q ∈ requests, OneLine q.line ∧ Request.parse q.line = .ok q) ∧
      (∀ p ∈ responses, OneLine p.line ∧ Response.parse p.line = .ok p) ∧
      received Request.parse (stream (requests.map Request.line)) = .ok requests ∧
      received Response.parse (stream (responses.map Response.line)) = .ok responses := by
  refine ⟨fun q hq ↦ ?_, fun p hp ↦ ?_, ?_, ?_⟩
  · exact ⟨q.oneLine, Request.parse_line (hrequests q hq)⟩
  · exact ⟨p.oneLine, Response.parse_line (hresponses p hp)⟩
  · exact received_requests hrequests
  · exact received_responses hresponses

/-- Requests with the largest number, line ends in the path, and whatever else must be escaped. -/
def awkwardRequests : List Request :=
  [⟨18446744073709551615, "a\nb/Ü.java", "// \"\\\"\r\nclass A \x7b\x00\x1f\x7d"⟩, ⟨0, "", "\n\n"⟩]

/-- Responses with both, an error, facts and neither. -/
def awkwardResponses : List Response :=
  [⟨18446744073709551615, some { package := "p", simpleNames := .ofList ["B", "A"] }, some "\r\n"⟩,
    ⟨1, none, some "line 1:\n\tüber"⟩, ⟨2, some { declaredTypes := ["A", "A"] }, none⟩,
    ⟨3, none, none⟩]

/-- Neither line breaks nor quotes nor control characters keep a message from arriving, and neither
does the largest id. -/
theorem messages_arrive_of_awkward :
    (∀ q ∈ awkwardRequests, q.id < Nat.pow 2 64) ∧ (∀ p ∈ awkwardResponses, p.id < Nat.pow 2 64) ∧
      received Request.parse (stream (awkwardRequests.map Request.line)) = .ok awkwardRequests ∧
      received Response.parse (stream (awkwardResponses.map Response.line)) =
        .ok awkwardResponses := by
  have hrequests : ∀ q ∈ awkwardRequests, q.id < Nat.pow 2 64 := by decide
  have hresponses : ∀ p ∈ awkwardResponses, p.id < Nat.pow 2 64 := by decide
  exact ⟨hrequests, hresponses, (messages_arrive hrequests hresponses).2.2⟩

end JavaDeps.Wire
