import HttpService.Message.Response
import HttpService.Proofs.Json.Record
import HttpService.Settings.Fault

/-!
# Failures survive the wire

However a failure is made, its message is not blank. So a client that reads the envelope of a failure
makes the same failure again, up to what the envelope leaves out.
-/

namespace HttpService

theorem Code.description_not_blank (c : Code) : Text.blank c.description = false := by
  cases c <;> decide

namespace Failure

/-! ## Making failures -/

/-- The failures that can be made: from a code and a message, from another failure by adding to it,
by wrapping an error, and out of the errors of other components. -/
inductive Made : Failure → Prop
  | new (code : Code) (message : String) : Made (.new code message)
  | network (message : String) : Made (.network message)
  | withField {f : Failure} (made : Made f) (key : String) (value : Json) :
      Made (f.withField key value)
  | withCause {f : Failure} (made : Made f) (cause : Cause) : Made (f.withCause cause)
  | withDomain {f : Failure} (made : Made f) (domain : Domain) : Made (f.withDomain domain)
  | withStack {f : Failure} (made : Made f) (stack : String) : Made (f.withStack stack)
  | wrap {error : Cause} (typed : ∀ f, error = .failure f → Made f) (code : Code)
      (message : String) : Made (.wrap error code message)
  | wrapError {α : Type} {result : Except Cause α} {f : Failure}
      (typed : ∀ g, result = .error (.failure g) → Made g) (code : Code) (message : String)
      (failed : wrapError result code message = .error f) : Made f
  | ofFault (fault : Json.Fault) : Made (.ofFault fault)
  | ofInputOutput (error : Foreign) : Made (.ofInputOutput error)
  | ofSettings {fault : SettingsFault} (refused : ∀ f, fault.source? = some f → Made f) :
      Made fault.toFailure

theorem new_not_blank (code : Code) (message : String) :
    Text.blank (new code message).message = false := by
  unfold new
  dsimp only
  split
  · exact code.description_not_blank
  · next full => exact Bool.eq_false_iff.mpr full

/-- Wrapping makes a new message or none. -/
theorem wrap_not_blank {error : Cause} (code : Code) (message : String)
    (typed : ∀ f, error = .failure f → Text.blank f.message = false) :
    Text.blank (wrap error code message).message = false := by
  cases error with
  | foreign e => exact new_not_blank code message
  | failure f => exact typed f rfl

theorem Made.message_not_blank {f : Failure} (made : Made f) : Text.blank f.message = false := by
  induction made with
  | new code message => exact new_not_blank code message
  | network message => exact new_not_blank _ message
  | withField _ _ _ ih | withCause _ _ ih | withDomain _ _ ih | withStack _ _ ih => exact ih
  | wrap _ code message ih => exact wrap_not_blank code message ih
  | @wrapError α result f typed code message failed ih =>
      cases result with
      | ok a => cases failed
      | error e =>
          cases failed
          exact wrap_not_blank code message fun g same => ih g (congrArg Except.error same)
  | ofFault fault => exact new_not_blank _ _
  | ofInputOutput error => exact new_not_blank _ _
  | @ofSettings fault refused ih =>
      cases fault with
      | refused component failure => exact ih failure rfl
      | _ => exact new_not_blank _ _

/-- A message that is not blank is taken as it is. -/
theorem new_of_not_blank {code : Code} {message : String} (full : Text.blank message = false) :
    new code message = ⟨code, message, [], none, none, none⟩ := by
  unfold new
  rw [if_neg (Bool.eq_false_iff.mp full)]

end Failure

/-! ## The envelope of a failure -/

namespace Response

variable (f : Failure) (requestId : Option String)

theorem body_ofFailure : (ofFailure f requestId).body = (failureBody f requestId).render := by
  unfold ofFailure
  dsimp only
  split <;> rfl

theorem challenges_ofFailure : (ofFailure f requestId).headers.getAll "www-authenticate" =
    if f.code.isAuthentication then ["Bearer"] else [] := by
  unfold ofFailure
  dsimp only
  split
  · exact Headers.getAll_insert_self ..
  · exact (by decide :
      Headers.getAll [("content-type", "application/json")] "www-authenticate" = [])

end Response

theorem Json.Reader.option_object {α : Type} (r : Reader α) (level : Nat)
    (ms : List (String × Json)) :
    option r level (document (.object ms)) = (r level (document (.object ms))).map some :=
  rfl

theorem ErrorBody.reader_failure (level : Nat) (f : Failure) (requestId : Option String) :
    reader (level + 1) (Json.document (.object
      (("code", .text f.code.name) :: ("message", .text f.message) ::
        (requestId.map fun id => ("request_id", Json.text id)).toList))) =
      .ok ⟨f.code.name, f.message, requestId⟩ := by
  unfold reader
  cases requestId with
  | none =>
      rw [Json.Reader.record_object level (by simp) (by simp)]
      simp [Json.Fields.required, Json.Fields.defaulted, Json.Fields.find?, Json.written,
        Json.Reader.string_text, bind, Except.bind]
  | some id =>
      rw [Json.Reader.record_object level (by simp) (by simp)]
      simp [Json.Fields.required, Json.Fields.defaulted, Json.Fields.find?, Json.written,
        Json.Reader.string_text, Json.Reader.option_text, bind, Except.bind]

namespace Envelope

variable {α : Type}

/-- What a client reads from the answer that reports a failure, whatever it expects as data. -/
theorem read_ofFailure (data : Json.Reader α) (f : Failure) (requestId : Option String) :
    Json.read (reader data) (Response.ofFailure f requestId).body =
      .ok ⟨false, none, some ⟨f.code.name, f.message, requestId⟩⟩ := by
  rw [Response.body_ofFailure, Json.read_render, Json.depthLimit, reader, Response.failureBody,
    Json.Reader.record_object 126 (by simp) (by simp)]
  simp [Json.Fields.required, Json.Fields.optional, Json.Fields.find?, Json.written,
    Json.Reader.bool_bool, Json.Reader.option_object, ErrorBody.reader_failure, Except.map, bind,
    Except.bind]

/-- The failure that a client makes of an envelope: the one that was reported, as far as the envelope
has it. -/
theorem result_failure (data : Json.Reader α) {f : Failure} (full : Text.blank f.message = false)
    (requestId : Option String) :
    result data ⟨false, none, some ⟨f.code.name, f.message, requestId⟩⟩ =
      .error { code := f.code, message := f.message,
               metadata := (requestId.map fun id => ("request_id", Json.text id)).toList,
               cause := none, domain := none, stack := none } := by
  cases requestId <;>
    simp only [result, Code.ofName?_name, Option.getD_some, Failure.new_of_not_blank full] <;> rfl

end Envelope

/-- The message of a failure that was made is not blank. Whatever data a client expects, it reads the
failure's code, its message and the request id back from the answer, and nothing else; the status is
the failure's, and there is a challenge if and only if the caller has not proved who it is. -/
theorem Failure.Made.survives {f : Failure} (made : Made f) (requestId : Option String) :
    let answer := Response.ofFailure f requestId
    Text.blank f.message = false ∧
    (∀ (α : Type) (data : Json.Reader α), ∃ envelope,
      Json.read (Envelope.reader data) answer.body = .ok envelope ∧
        envelope.result data = .error
          { code := f.code, message := f.message,
            metadata := (requestId.map fun id => ("request_id", Json.text id)).toList,
            cause := none, domain := none, stack := none }) ∧
    answer.status = f.status ∧
    answer.headers.getAll "www-authenticate" =
      if f.code.isAuthentication then ["Bearer"] else [] := by
  intro answer
  have full := made.message_not_blank
  refine ⟨full, fun α data => ?_, Response.status_ofFailure f requestId,
    Response.challenges_ofFailure f requestId⟩
  exact ⟨_, Envelope.read_ofFailure data f requestId, Envelope.result_failure data full requestId⟩

/-- An error that was wrapped with a blank message, given a detail, wrapped once more and given a
stack. The client expects no data, and sees neither the detail nor the stack. -/
theorem Failure.Made.survives_wrapped_twice :
    let inner := (Failure.wrap (.foreign { text := "disk gone" }) .expiredToken " \t").withField
      "attempt" (Json.ofNat 3)
    let f := (Failure.wrap (.failure inner) .internal "look-up").withStack "frame 0"
    Made f ∧ ∃ envelope,
      Json.read (Envelope.reader Json.Reader.unit) (Response.ofFailure f (some "r\"1")).body =
          .ok envelope ∧
        envelope.result Json.Reader.unit = .error
          { code := .expiredToken, message := "token has expired",
            metadata := [("request_id", .text "r\"1")], cause := none, domain := none,
            stack := none } := by
  intro inner f
  have wrapped : Made inner := by
    refine .withField (.wrap ?_ _ _) _ _
    rintro _ ⟨⟩
  have made : Made f := by
    refine .withStack (.wrap (fun g same => ?_) _ _) _
    cases same
    exact wrapped
  obtain ⟨-, reads, -⟩ := made.survives (some "r\"1")
  exact ⟨made, reads Unit Json.Reader.unit⟩

end HttpService
