import HttpService.Proofs.Act

/-!
# The way through the stages

A request passes the stages of a list from the first to the last, and what comes of it passes them
back from the last to the first. A stage that answers by itself turns it around: nothing that lies
behind the stage makes a difference.
-/

namespace HttpService

/-- A stage that a request has come to, and what it can see of the stages behind it. -/
structure Stop where
  stage : Stage
  label : Option String
  request : Request
  flow : Flow

namespace Stop

variable {s : Stop} {request : Request} {flow : Flow} {out : Ending Response × Flow}

/-- What the stage makes of the way the rest has ended. -/
def leave (s : Stop) (out : Ending Response × Flow) : Ending Response × Flow :=
  s.stage.process s.request ⟨s.label, fun _ _ => out⟩ s.flow

/-- The stage ends the request's way, whatever lies behind it. -/
def Ends (s : Stop) (out : Ending Response × Flow) : Prop :=
  ∀ next : Next, next.label = s.label → s.stage.process s.request next s.flow = out

/-- The stage goes on with a request and a flow, once, and does the rest with what comes back. -/
structure GoesOn (s : Stop) (request : Request) (flow : Flow) : Prop where
  process_eq : ∀ next : Next, next.label = s.label →
    s.stage.process s.request next s.flow = s.leave (next.run request flow)
  depends : ¬ ∃ out, s.Ends out

/-- There is only one way to go on: of two, what comes of the first alone would decide the end. -/
theorem GoesOn.unique {other : Request} {otherFlow : Flow} (onward : s.GoesOn request flow)
    (second : s.GoesOn other otherFlow) : other = request ∧ otherFlow = flow := by
  classical
  refine Classical.byContradiction fun different => ?_
  refine onward.depends ⟨s.leave (.dropped, flow), fun next label => ?_⟩
  let fork : Next := ⟨s.label, fun r f =>
    if r = request ∧ f = flow then next.run request flow else (.dropped, flow)⟩
  calc s.stage.process s.request next s.flow
    _ = s.leave (fork.run request flow) := by
        rw [onward.process_eq next label]
        exact congrArg s.leave (if_pos ⟨rfl, rfl⟩).symm
    _ = s.leave (fork.run other otherFlow) :=
        (onward.process_eq fork rfl).symm.trans (second.process_eq fork rfl)
    _ = s.leave (.dropped, flow) := congrArg s.leave (if_neg different)

end Stop

/-- The stage goes on at most once, wherever it is and whatever comes to it. -/
def Stage.GoesOnOnce (stage : Stage) : Prop :=
  ∀ label request flow,
    (∃ request' flow', Stop.GoesOn ⟨stage, label, request, flow⟩ request' flow') ∨
      ∃ out, Stop.Ends ⟨stage, label, request, flow⟩ out

/-- The way of a request through stages that all go on, with the stops it makes, to what lies behind
them. -/
inductive WayIn (behind : Next) : List Stage → Request → Flow → List Stop → Request → Flow → Prop
  | here (request : Request) (flow : Flow) : WayIn behind [] request flow [] request flow
  | pass {stage : Stage} {stages : List Stage} {request request₁ request₂ : Request}
      {flow flow₁ flow₂ : Flow} {stops : List Stop}
      (onward : Stop.GoesOn ⟨stage, (compose stages behind).label, request, flow⟩ request₁ flow₁)
      (way : WayIn behind stages request₁ flow₁ stops request₂ flow₂) :
      WayIn behind (stage :: stages) request flow
        (⟨stage, (compose stages behind).label, request, flow⟩ :: stops) request₂ flow₂

/-- The way back from the last stop to the first. -/
def wayOut (stops : List Stop) (out : Ending Response × Flow) : Ending Response × Flow :=
  stops.reverse.foldl (fun out stop => stop.leave out) out

theorem wayOut_cons (stop : Stop) (stops : List Stop) (out : Ending Response × Flow) :
    wayOut (stop :: stops) out = stop.leave (wayOut stops out) := by
  simp [wayOut]

theorem wayOut_concat (stops : List Stop) (stop : Stop) (out : Ending Response × Flow) :
    wayOut (stops ++ [stop]) out = wayOut stops (stop.leave out) := by
  simp [wayOut]

theorem compose_cons (stage : Stage) (stages : List Stage) (terminal : Next) :
    compose (stage :: stages) terminal = Next.through stage (compose stages terminal) := rfl

theorem label_compose {next other : Next} (label : next.label = other.label)
    (stages : List Stage) : (compose stages next).label = (compose stages other).label := by
  cases stages with
  | nil => exact label
  | cons stage stages => rfl

namespace WayIn

variable {behind : Next} {stages : List Stage} {request request' : Request} {flow flow' : Flow}
  {stops : List Stop}

/-- A request goes in by its stops, and what comes of it behind them goes out by the same. -/
theorem run_eq (way : WayIn behind stages request flow stops request' flow') :
    (compose stages behind).run request flow = wayOut stops (behind.run request' flow') := by
  induction way with
  | here => rfl
  | @pass stage stages request request₁ request₂ flow flow₁ flow₂ stops onward way ih =>
      rw [wayOut_cons, ← ih, compose_cons]
      exact onward.process_eq _ rfl

/-- The stops depend on no more than what the last stage can see of what is behind it. -/
theorem of_label {other : Next} (way : WayIn behind stages request flow stops request' flow')
    (label : other.label = behind.label) :
    WayIn other stages request flow stops request' flow' := by
  induction way with
  | here => exact .here _ _
  | @pass stage stages request request₁ request₂ flow flow₁ flow₂ stops onward way ih =>
      rw [← label_compose label] at onward ⊢
      exact .pass onward ih

/-- The last stop, and the way up to it. -/
theorem of_concat {stage : Stage}
    (way : WayIn behind (stages ++ [stage]) request flow stops request' flow') :
    ∃ before last lastFlow,
      WayIn (Next.through stage behind) stages request flow before last lastFlow ∧
      Stop.GoesOn ⟨stage, behind.label, last, lastFlow⟩ request' flow' ∧
      stops = before ++ [⟨stage, behind.label, last, lastFlow⟩] := by
  induction stages generalizing request flow stops with
  | nil =>
      cases way with
      | pass onward rest =>
          cases rest
          exact ⟨[], request, flow, .here request flow, onward, rfl⟩
  | cons first stages ih =>
      rw [List.cons_append] at way
      cases way with
      | pass onward rest =>
          obtain ⟨before, last, lastFlow, way, arrives, rfl⟩ := ih rest
          rw [compose_append] at onward ⊢
          exact ⟨_, last, lastFlow, .pass onward way, arrives, rfl⟩

end WayIn

/-- Nothing that lies behind a stage that answers by itself makes a difference. -/
theorem WayIn.run_of_answers {stage : Stage} {before after others : List Stage}
    {terminal other : Next} {request request' : Request} {flow flow' : Flow} {stops : List Stop}
    {out : Ending Response × Flow}
    (way : WayIn (compose (stage :: after) terminal) before request flow stops request' flow')
    (answers : ∀ next, stage.process request' next flow' = out) :
    (compose (before ++ stage :: others) other).run request flow = wayOut stops out := by
  have seen : (compose (stage :: others) other).label =
      (compose (stage :: after) terminal).label := rfl
  rw [compose_append, (way.of_label seen).run_eq]
  exact congrArg (wayOut stops) (answers _)

/-- A stage that ends the way ends it whatever terminal it cannot tell from the one behind it. -/
theorem WayIn.run_of_ends {stage : Stage} {before after : List Stage} {terminal other : Next}
    {request request' : Request} {flow flow' : Flow} {stops : List Stop}
    {out : Ending Response × Flow}
    (way : WayIn (compose (stage :: after) terminal) before request flow stops request' flow')
    (ends : Stop.Ends ⟨stage, (compose after terminal).label, request', flow'⟩ out)
    (label : other.label = terminal.label) :
    (compose (before ++ stage :: after) other).run request flow = wayOut stops out := by
  have seen : (compose (stage :: after) other).label =
      (compose (stage :: after) terminal).label := rfl
  rw [compose_append, (way.of_label seen).run_eq]
  exact congrArg (wayOut stops) (ends _ (label_compose label after))

/-- How the way of a request through stages is determined: it comes through all of them, or one of
them ends it. Either way those that it has come through are left in reverse. -/
inductive Journey (stages : List Stage) (terminal : Next) (request : Request) (flow : Flow) :
    Ending Response × Flow → Prop
  | through {stops : List Stop} {request' : Request} {flow' : Flow}
      (way : WayIn terminal stages request flow stops request' flow') :
      Journey stages terminal request flow (wayOut stops (terminal.run request' flow'))
  | turned {before after : List Stage} {stage : Stage} {stops : List Stop} {request' : Request}
      {flow' : Flow} {out : Ending Response × Flow} (split : stages = before ++ stage :: after)
      (way : WayIn (compose (stage :: after) terminal) before request flow stops request' flow')
      (ends : Stop.Ends ⟨stage, (compose after terminal).label, request', flow'⟩ out) :
      Journey stages terminal request flow (wayOut stops out)

theorem Journey.pass {stage : Stage} {stages : List Stage} {terminal : Next}
    {request request₁ : Request} {flow flow₁ : Flow} {out : Ending Response × Flow}
    (onward : Stop.GoesOn ⟨stage, (compose stages terminal).label, request, flow⟩ request₁ flow₁)
    (journey : Journey stages terminal request₁ flow₁ out) :
    Journey (stage :: stages) terminal request flow
      (Stop.leave ⟨stage, (compose stages terminal).label, request, flow⟩ out) := by
  cases journey with
  | through way =>
      rw [← wayOut_cons]
      exact .through (.pass onward way)
  | @turned before after last stops request' flow' out split way ends =>
      have whole : compose stages terminal = compose before (compose (last :: after) terminal) := by
        rw [split, compose_append]
      rw [whole] at onward ⊢
      rw [← wayOut_cons]
      exact .turned (by rw [split, List.cons_append]) (.pass onward way) ends

/-- Stages that go on at most once determine the way of every request. -/
theorem journey_run {stages : List Stage} (single : ∀ stage ∈ stages, stage.GoesOnOnce)
    (terminal : Next) (request : Request) (flow : Flow) :
    Journey stages terminal request flow ((compose stages terminal).run request flow) := by
  induction stages generalizing request flow with
  | nil => exact .through (.here request flow)
  | cons stage stages ih =>
      obtain ⟨request₁, flow₁, onward⟩ | ⟨out, ends⟩ :=
        single stage List.mem_cons_self (compose stages terminal).label request flow
      · have inner := ih (fun s member => single s (List.mem_cons_of_mem _ member)) request₁ flow₁
        have run := onward.process_eq (compose stages terminal) rfl
        rw [compose_cons]
        change Journey _ _ _ _ (stage.process request (compose stages terminal) flow)
        rw [run]
        exact inner.pass onward
      · have run := ends (compose stages terminal) rfl
        rw [compose_cons]
        change Journey _ _ _ _ (stage.process request (compose stages terminal) flow)
        rw [run]
        exact .turned (List.nil_append _).symm (.here request flow) ends

end HttpService
