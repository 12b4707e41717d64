import HttpService.Message.Response
import HttpService.Proofs.Json.Depth
import HttpService.Proofs.Json.Record

/-!
# Data survives the wire

A value that is read back from its own text is also read back from the envelope of a success. The
envelope takes one level, and a value that is written as null is read a second time, from null.
-/

namespace HttpService

theorem ErrorBody.steady_reader : ErrorBody.reader.Steady :=
  .record fun byName _ _ shallow =>
    (Json.Reader.Steady.string.required shallow byName "code").bind fun _ =>
      (Json.Reader.Steady.string.required shallow byName "message").bind fun _ =>
        (Json.Reader.Steady.string.option.defaulted shallow byName "request_id" none).bind
          fun _ => .const

namespace Envelope

variable {α : Type} {r : Json.Reader α}

/-- What a client reads from the envelope of a success. -/
theorem read_successBody (r : Json.Reader α) (data : Json) :
    Json.read (reader r) (Response.successBody data).render =
      (Json.Reader.option r 126 data.document).map fun found => ⟨true, found, none⟩ := by
  rw [Json.read_render, Json.depthLimit, reader,
    Response.successBody, Json.Reader.record_object 126 (by simp) (by simp)]
  have success : Json.Fields.required
      ⟨126, true, Json.written [("success", .bool true), ("data", data)]⟩ "success"
        Json.Reader.bool = .ok true := rfl
  have payload : Json.Fields.optional
      ⟨126, true, Json.written [("success", .bool true), ("data", data)]⟩ "data" r =
        Json.Reader.option r 126 data.document := rfl
  have failure : Json.Fields.optional
      ⟨126, true, Json.written [("success", .bool true), ("data", data)]⟩ "error"
        ErrorBody.reader = .ok none := rfl
  simp only [success, payload, failure]
  cases Json.Reader.option r 126 data.document <;> rfl

/-- A value is read back from null, or from the data itself. -/
theorem result_of_option {d : Json.Document} {x : α} (found : r 126 d = .ok x)
    (whole : r Json.depthLimit d = .ok x) :
    ∃ data, Json.Reader.option r 126 d = .ok data ∧ result r ⟨true, data, none⟩ = .ok x := by
  cases d with
  | null => exact ⟨none, rfl, by simp only [result, Json.nullAs, whole]⟩
  | bool | number | text | array | object =>
      exact ⟨some x, congrArg (Except.map some) found, rfl⟩

end Envelope

/-- Let a type be read back from its own text, and let its reader learn nothing of the level from a
document that is not too deep. A value of it that is at most 126 containers deep is then read back
from the envelope of a success, also if it is written as null, or looks like an envelope itself. -/
theorem Response.success_survives {α : Type} (toJson : α → Json) {r : Json.Reader α}
    (steady : r.Steady) {x : α} (own : Json.read r (toJson x).render = .ok x)
    (nested : (toJson x).depth ≤ 126) :
    ∀ answer ∈ [Response.ok (toJson x), Response.created (toJson x)], ∃ envelope,
      Json.read (Envelope.reader r) answer.body = .ok envelope ∧ envelope.result r = .ok x := by
  have body : ∀ answer ∈ [Response.ok (toJson x), Response.created (toJson x)],
      answer.body = (Response.successBody (toJson x)).render := by
    intro answer member
    obtain rfl | member := List.mem_cons.mp member
    · rfl
    · rw [List.mem_singleton.mp member]
      rfl
  have whole : r Json.depthLimit (toJson x).document = .ok x := by
    rwa [Json.read_render] at own
  have inside : r 126 (toJson x).document = .ok x := by
    rw [← Json.depth_document] at nested
    rw [← whole]
    exact steady _ 126 Json.depthLimit nested (Nat.le_succ_of_le nested)
  obtain ⟨data, read, result⟩ := Envelope.result_of_option inside whole
  intro answer member
  refine ⟨⟨true, data, none⟩, ?_, result⟩
  rw [body answer member, Envelope.read_successBody, read]
  rfl

/-- The data looks like the envelope of a failure, or is no failure's details at all. -/
theorem Response.success_survives_lookalike :
    let lookalike : Json := .object
      [("error", .object [("code", .text "NOT_FOUND"), ("message", .text "no \"such\" chunk")]),
        ("success", .bool false)]
    let toJson (body : Option ErrorBody) : Json :=
      Json.ofOption (fun body => .object [("code", .text body.code), ("message", .text body.message)])
        body
    let details := Json.Reader.option ErrorBody.reader
    lookalike.depth = 2 ∧ Json.read Json.Reader.value lookalike.render = .ok lookalike ∧
      Json.read details (toJson none).render = .ok none ∧
      (∃ envelope, Json.read (Envelope.reader Json.Reader.value) (Response.ok lookalike).body =
        .ok envelope ∧ envelope.result Json.Reader.value = .ok lookalike) ∧
      ∃ envelope, Json.read (Envelope.reader details) (Response.created (toJson none)).body =
        .ok envelope ∧ envelope.result details = .ok none := by
  intro lookalike toJson details
  have own : Json.read Json.Reader.value lookalike.render = .ok lookalike := by
    rw [Json.read_render]
    rfl
  have ownNone : Json.read details (toJson none).render = .ok none := by
    rw [Json.read_render]
    rfl
  have fromOk := Response.success_survives (fun j : Json => j) Json.Reader.Steady.value own
    (by decide) (Response.ok lookalike) List.mem_cons_self
  have fromCreated := Response.success_survives toJson ErrorBody.steady_reader.option ownNone
    (by decide) (Response.created (toJson none)) (List.mem_cons_of_mem _ List.mem_cons_self)
  exact ⟨rfl, own, ownNone, fromOk, fromCreated⟩

end HttpService
