import JavaDeps.Proofs.Json.Framing
import JavaDeps.Proofs.Json.RoundTrip
import JavaDeps.Proofs.Sorted.Membership
import JavaDeps.Wire.Message

/-!
# Messages arrive as they were sent

Facts, requests and responses decode to what was encoded, and a message is one line without line
ends inside. A number must fit into 64 bits, as all numbers on the wire do; **paths, contents and
names may be any text at all**.
-/

namespace JavaDeps

open Json.RecordShape (acceptFields_cons accept_of_decode decode_ofValue)

namespace Java

open Json (decodeStrings_ofValue)

theorem decodeNames_ofValue (s : SortedSet String) :
    decodeNames (.ofValue (.strings s.toList)) = .ok s := by
  rw [decodeNames, decodeStrings_ofValue]
  show Except.ok (SortedSet.ofList s.toList) = _
  rw [SortedSet.ofList_toList]

/-- **Facts arrive as they were sent.** -/
theorem decode_factsShape (f : Facts) : factsShape.decode (.ofValue f.json) = .ok f := by
  refine decode_ofValue ["reflectiveReferences", "simpleNames",
    "qualifiedReferences", "wildcardImports", "imports", "declaredTypes", "package"] ?_ (by decide)
  have htypes := decodeStrings_ofValue f.declaredTypes
  refine (acceptFields_cons _ rfl rfl rfl).trans ?_
  refine (acceptFields_cons _ rfl rfl (accept_of_decode htypes _)).trans ?_
  refine (acceptFields_cons _ rfl rfl (accept_of_decode (decodeNames_ofValue _) _)).trans ?_
  refine (acceptFields_cons _ rfl rfl (accept_of_decode (decodeNames_ofValue _) _)).trans ?_
  refine (acceptFields_cons _ rfl rfl (accept_of_decode (decodeNames_ofValue _) _)).trans ?_
  refine (acceptFields_cons _ rfl rfl (accept_of_decode (decodeNames_ofValue _) _)).trans ?_
  refine (acceptFields_cons _ rfl rfl (accept_of_decode (decodeNames_ofValue _) _)).trans ?_
  rfl

end Java

namespace Wire

open Json (decodeOption_ofValue decodeU64_ofValue)

/-- **A request arrives as it was sent.** -/
theorem Request.parse_line {q : Request} (hid : q.id < Nat.pow 2 64) : parse q.line = .ok q := by
  rw [parse, line, Json.decodeText_compact]
  refine decode_ofValue ["contents", "path", "id"] ?_ (by decide)
  refine (acceptFields_cons _ rfl rfl (accept_of_decode (decodeU64_ofValue hid) _)).trans ?_
  refine (acceptFields_cons _ rfl rfl rfl).trans ?_
  refine (acceptFields_cons _ rfl rfl rfl).trans ?_
  rfl

/-- **A response arrives as it was sent**, whichever of its fields it has. -/
theorem Response.parse_line {p : Response} (hid : p.id < Nat.pow 2 64) : parse p.line = .ok p := by
  obtain ⟨id, result, error⟩ := p
  have hresult : ∀ f : Java.Facts,
      Json.decodeOption Java.factsShape.decode (.ofValue f.json) = .ok (some f) := fun f ↦
    decodeOption_ofValue (by simp [Java.Facts.json]) (Java.decode_factsShape f)
  rw [parse, line, Json.decodeText_compact]
  cases result with
  | none =>
    cases error with
    | none =>
      refine decode_ofValue ["id"] ?_ (by decide)
      refine (acceptFields_cons _ rfl rfl (accept_of_decode (decodeU64_ofValue hid) _)).trans ?_
      rfl
    | some message =>
      refine decode_ofValue ["error", "id"] ?_ (by decide)
      refine (acceptFields_cons _ rfl rfl (accept_of_decode (decodeU64_ofValue hid) _)).trans ?_
      refine (acceptFields_cons _ rfl rfl rfl).trans ?_
      rfl
  | some facts =>
    cases error with
    | none =>
      refine decode_ofValue ["result", "id"] ?_ (by decide)
      refine (acceptFields_cons _ rfl rfl (accept_of_decode (decodeU64_ofValue hid) _)).trans ?_
      refine (acceptFields_cons _ rfl rfl (accept_of_decode (hresult facts) _)).trans ?_
      rfl
    | some message =>
      refine decode_ofValue ["error", "result", "id"] ?_ (by decide)
      refine (acceptFields_cons _ rfl rfl (accept_of_decode (decodeU64_ofValue hid) _)).trans ?_
      refine (acceptFields_cons _ rfl rfl (accept_of_decode (hresult facts) _)).trans ?_
      refine (acceptFields_cons _ rfl rfl rfl).trans ?_
      rfl

/-! ### One message, one line -/

theorem Request.not_mem_line {c : Char} (hc : c.toNat < 0x20) (q : Request) : c ∉ q.line.toList :=
  Json.not_mem_compact_of_control hc q.json

theorem Response.not_mem_line {c : Char} (hc : c.toNat < 0x20) (p : Response) :
    c ∉ p.line.toList :=
  Json.not_mem_compact_of_control hc p.json

end Wire

end JavaDeps
