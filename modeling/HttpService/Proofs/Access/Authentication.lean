import HttpService.Proofs.Act
import HttpService.Proofs.Token.Issuing
import HttpService.Stage.Authentication

/-!
# Who gets past the gatekeeper

A request outside the public paths goes on exactly if its token is verified, the claims lead to a
user, and the rules let that user do what the request asks for. Behind the stage the context has this
user. Every other request is answered at the stage, which leaves its context alone.
-/

namespace HttpService

namespace Gatekeeper

variable {g : Gatekeeper} {request : Request} {f : Flow} {s s' : Site} {c : Claims} {user : User}

/-! ## What the gatekeeper asks for -/

/-- The request has a token that is valid at the site's time, with these claims. -/
def Proves (g : Gatekeeper) (request : Request) (s : Site) (c : Claims) : Prop :=
  ∃ token, Credential.ofRequest? request = some token ∧
    g.maker.verifyAt s.revoked token s.today = .ok c

/-- The user that claims lead to: the one that the manager knows, or without a manager the one that
the claims name, who is an ordinary user and nothing else. -/
inductive Resolves (g : Gatekeeper) (c : Claims) (s : Site) : User → Site → Prop
  | known {users : UserManager} {user : User} {s' : Site} (managed : g.users = some users)
      (found : users.get c.subject s = (.done (.ok user), s')) : Resolves g c s user s'
  | believed (unmanaged : g.users = none) :
      Resolves g c s
        { id := c.subject, username := c.username, roles := { user := true }, extra := [] } s

/-- The rules let the user do to the request's path what its method stands for. -/
def Permits (g : Gatekeeper) (request : Request) (user : User) : Prop :=
  ∃ action, Action.ofMethod? request.method = some action ∧
    g.permissions.check user request.path action = true

/-- The request is let through as this user's. -/
def Admits (g : Gatekeeper) (request : Request) (s : Site) (user : User) : Prop :=
  ∃ c s', g.Proves request s c ∧ g.Resolves c s user s' ∧ g.Permits request user

/-- Why the caller counts as nobody. -/
inductive Unproven (g : Gatekeeper) (request : Request) (s : Site) : Failure → Prop
  | missing (absent : Credential.ofRequest? request = none) :
      Unproven g request s (.new .unauthenticated "missing authentication token")
  | expired {token : String} {f : Failure} (presents : Credential.ofRequest? request = some token)
      (refused : g.maker.verifyAt s.revoked token s.today = .error f)
      (expired : f.code = .expiredToken) :
      Unproven g request s (.new .expiredToken "token has expired")
  | invalid {token : String} {f : Failure} (presents : Credential.ofRequest? request = some token)
      (refused : g.maker.verifyAt s.revoked token s.today = .error f)
      (other : f.code ≠ .expiredToken) :
      Unproven g request s ((Failure.new .invalidToken "invalid token").withCause (.failure f))
  | unknown {c : Claims} {users : UserManager} {f : Failure} {s' : Site}
      (proves : g.Proves request s c) (managed : g.users = some users)
      (unknown : users.get c.subject s = (.done (.error f), s')) (absent : f.code = .notFound) :
      Unproven g request s (.new .invalidToken "invalid token")

/-- How a request ends that is not let through. Where the manager gives no answer there is none. -/
inductive TurnedAway (g : Gatekeeper) (request : Request) (s : Site) (requestId : Option String) :
    Ending Response → Prop
  | challenged {f : Failure} {r : Response} (unproven : g.Unproven request s f)
      (answer : r = .ofFailure f requestId) (status : r.status = 401)
      (challenge : r.headers.get? "www-authenticate" = some "Bearer") :
      TurnedAway g request s requestId (.done r)
  | denied {c : Claims} {user : User} {s' : Site} {r : Response} (proves : g.Proves request s c)
      (resolves : g.Resolves c s user s') (forbids : ¬ g.Permits request user)
      (answer : r = .ofFailure (forbidden request) requestId) (status : r.status = 403) :
      TurnedAway g request s requestId (.done r)
  | failed {c : Claims} {users : UserManager} {f : Failure} {s' : Site} {r : Response}
      (proves : g.Proves request s c) (managed : g.users = some users)
      (failed : users.get c.subject s = (.done (.error f), s')) (other : f.code ≠ .notFound)
      (answer : r = .ofFailure f requestId) :
      TurnedAway g request s requestId (.done r)
  | panicked {c : Claims} {users : UserManager} {p : Panic} {s' : Site}
      (proves : g.Proves request s c) (managed : g.users = some users)
      (panics : users.get c.subject s = (.panicked p, s')) :
      TurnedAway g request s requestId (.panicked p)
  | dropped {c : Claims} {users : UserManager} {s' : Site} (proves : g.Proves request s c)
      (managed : g.users = some users) (waits : users.get c.subject s = (.dropped, s')) :
      TurnedAway g request s requestId .dropped

theorem Unproven.isAuthentication {failure : Failure} (unproven : g.Unproven request s failure) :
    failure.code.isAuthentication = true := by
  cases unproven <;> rfl

theorem TurnedAway.of_unproven {failure : Failure} (unproven : g.Unproven request s failure)
    (requestId : Option String) :
    g.TurnedAway request s requestId (.done (.ofFailure failure requestId)) := by
  have code := unproven.isAuthentication
  refine .challenged unproven rfl ?_ (Response.challenge_ofFailure code requestId)
  rw [Response.status_ofFailure]
  exact Code.status_of_isAuthentication code

/-! ## The gatekeeper's own steps -/

theorem checkMethod_iff : g.permissions.checkMethod user request.path request.method = true ↔
    g.Permits request user := by
  unfold Permissions.checkMethod Permits
  cases Action.ofMethod? request.method with
  | none => simp
  | some action => simp

theorem identify_of_proves (proves : g.Proves request s c) :
    g.identify request s = (.done (.ok c), s) := by
  obtain ⟨token, presents, verified⟩ := proves
  have answer : SignIn.verify g.maker token s = (.done (.ok c), s) := by
    simp only [SignIn.verify, Act.update, verified]
  unfold identify
  rw [presents]
  exact Act.bind_done answer _

/-- A request proves claims, or it does not get further than its token. -/
theorem identify_cases (g : Gatekeeper) (request : Request) (s : Site) :
    (∃ c, g.Proves request s c) ∨
      ∃ f, g.Unproven request s f ∧ g.identify request s = (.done (.error f), s) := by
  cases presents : Credential.ofRequest? request with
  | none =>
      refine .inr ⟨_, .missing presents, ?_⟩
      unfold identify
      rw [presents]
      rfl
  | some token =>
      cases verified : g.maker.verifyAt s.revoked token s.today with
      | ok c => exact .inl ⟨c, token, presents, verified⟩
      | error f =>
          have answer : SignIn.verify g.maker token s = (.done (.error f), s) := by
            simp only [SignIn.verify, Act.update, verified]
          have told : g.identify request s = (.done (.error (refusal f)), s) := by
            unfold identify
            rw [presents]
            exact Act.bind_done answer _
          refine .inr ⟨refusal f, ?_, told⟩
          unfold refusal
          split
          · next code => exact .expired presents verified code
          · next code => exact .invalid presents verified code

theorem resolve_of_resolves (resolves : g.Resolves c s user s') :
    g.resolve c s = (.done (.ok user), s') := by
  cases resolves with
  | known managed found =>
      unfold resolve
      rw [managed]
      exact Act.bind_done found _
  | believed unmanaged =>
      unfold resolve
      rw [unmanaged]
      rfl

theorem resolve_of_failed {users : UserManager} {failure : Failure}
    (managed : g.users = some users)
    (failed : users.get c.subject s = (.done (.error failure), s')) :
    g.resolve c s = (.done (.error (if failure.code = .notFound then
      .new .invalidToken "invalid token" else failure)), s') := by
  unfold resolve
  rw [managed]
  refine (Act.bind_done failed _).trans ?_
  dsimp only
  split <;> rfl

theorem resolve_of_panicked {users : UserManager} {p : Panic} (managed : g.users = some users)
    (panics : users.get c.subject s = (.panicked p, s')) :
    g.resolve c s = (.panicked p, s') := by
  unfold resolve
  rw [managed]
  exact Act.bind_panicked panics _

theorem resolve_of_dropped {users : UserManager} (managed : g.users = some users)
    (waits : users.get c.subject s = (.dropped, s')) : g.resolve c s = (.dropped, s') := by
  unfold resolve
  rw [managed]
  exact Act.bind_dropped waits _

/-- Once there are claims, only the user and the rules are left to ask for. -/
theorem authenticate_of_proves (proves : g.Proves request s c) :
    g.authenticate request s = Act.attempt (g.resolve c) (fun user =>
      if g.permissions.checkMethod user request.path request.method then Act.pure (.ok user)
      else Act.pure (.error (forbidden request))) s :=
  Act.attempt_ok (identify_of_proves proves) _

theorem authenticate_of_admits (admits : g.Admits request s user) :
    ∃ s', g.authenticate request s = (.done (.ok user), s') := by
  obtain ⟨c, s', proves, resolves, permits⟩ := admits
  rw [authenticate_of_proves proves, Act.attempt_ok (resolve_of_resolves resolves),
    if_pos (checkMethod_iff.mpr permits)]
  exact ⟨s', rfl⟩

theorem authenticate_of_denied (proves : g.Proves request s c) (resolves : g.Resolves c s user s')
    (forbids : ¬ g.Permits request user) :
    g.authenticate request s = (.done (.error (forbidden request)), s') := by
  rw [authenticate_of_proves proves, Act.attempt_ok (resolve_of_resolves resolves),
    if_neg ((not_congr checkMethod_iff).mpr forbids)]
  rfl

/-! ## The stage -/

/-- The request goes on with this context, whatever lies behind the stage. -/
def GoesOn (g : Gatekeeper) (request : Request) (f : Flow) (c : Context) : Prop :=
  ∃ f' : Flow, f'.context = c ∧
    ∀ next, (Stage.authentication g).process request next f = next.run request f'

/-- The request ends so at the stage, whatever lies behind it, and keeps its context. -/
def EndsHere (g : Gatekeeper) (request : Request) (f : Flow) (e : Ending Response) : Prop :=
  ∃ f' : Flow, f'.context = f.context ∧
    ∀ next, (Stage.authentication g).process request next f = (e, f')

theorem isPublic_eq_false
    (guarded : ∀ start ∈ g.publicPaths, ¬ start.toList <+: request.path.toList) :
    g.isPublic request.path = false := by
  unfold isPublic
  rw [List.any_eq_false]
  intro start listed
  rw [Text.startsWith, List.isPrefixOf_iff_prefix]
  exact guarded start listed

theorem goesOn_of_authenticate (guarded : g.isPublic request.path = false)
    (admitted : g.authenticate request f.site = (.done (.ok user), s')) :
    g.GoesOn request f { f.context with user := some user } := by
  refine ⟨⟨f.context.setUser user, s'.record .debug "request authenticated"
    [("request_id", Flow.shownId f.context), ("user_id", user.id)]⟩, rfl, fun next => ?_⟩
  simp only [Stage.authentication, guarded]
  exact Flow.onSite_done admitted _

theorem endsHere_of_authenticate {failure : Failure} (guarded : g.isPublic request.path = false)
    (refused : g.authenticate request f.site = (.done (.error failure), s')) :
    g.EndsHere request f (.done (.ofFailure failure f.context.requestId)) := by
  refine ⟨⟨f.context, s'.record .warn "request rejected"
    [("request_id", Flow.shownId f.context), ("path", request.path), ("code", failure.code.name)]⟩,
    rfl, fun next => ?_⟩
  simp only [Stage.authentication, guarded]
  exact Flow.onSite_done refused _

theorem endsHere_of_panicked {p : Panic} (guarded : g.isPublic request.path = false)
    (panics : g.authenticate request f.site = (.panicked p, s')) :
    g.EndsHere request f (.panicked p) := by
  refine ⟨{ f with site := s' }, rfl, fun next => ?_⟩
  simp only [Stage.authentication, guarded]
  exact Flow.onSite_panicked panics _

theorem endsHere_of_dropped (guarded : g.isPublic request.path = false)
    (waits : g.authenticate request f.site = (.dropped, s')) :
    g.EndsHere request f .dropped := by
  refine ⟨{ f with site := s' }, rfl, fun next => ?_⟩
  simp only [Stage.authentication, guarded]
  exact Flow.onSite_dropped waits _

/-- A request that ends at the stage does not go on, because what lies behind could end otherwise. -/
theorem not_goesOn_of_endsHere {e : Ending Response} (ends : g.EndsHere request f e)
    (context : Context) : ¬ g.GoesOn request f context := by
  rintro ⟨onward, -, runs⟩
  obtain ⟨stopped, -, same⟩ := ends
  have ending (other : Ending Response) : e = other := by
    let next : Next := ⟨none, fun _ => Act.resume other⟩
    exact congrArg Prod.fst ((same next).symm.trans (runs next))
  cases (ending .dropped).symm.trans (ending (.panicked .other))

/-- The context that a request goes on with is one. -/
theorem goesOn_unique {context context' : Context} (goes : g.GoesOn request f context)
    (goes' : g.GoesOn request f context') : context = context' := by
  obtain ⟨onward, rfl, runs⟩ := goes
  obtain ⟨onward', rfl, runs'⟩ := goes'
  let next : Next := ⟨none, fun _ flow => (.dropped, flow)⟩
  have same : (Ending.dropped, onward) = ((.dropped, onward') : Ending Response × Flow) :=
    (runs next).symm.trans (runs' next)
  rw [(Prod.mk.inj same).2]

/-- Who is let through goes on with the context that the request came with, in which the user is
this one. -/
theorem goesOn_of_admits (guarded : g.isPublic request.path = false)
    (admits : g.Admits request f.site user) :
    g.GoesOn request f { f.context with user := some user } := by
  obtain ⟨after, admitted⟩ := authenticate_of_admits admits
  exact goesOn_of_authenticate guarded admitted

/-- With a user, the rules decide. -/
theorem admits_or_turnedAway (guarded : g.isPublic request.path = false)
    (proves : g.Proves request f.site c) (resolves : g.Resolves c f.site user s') :
    g.Admits request f.site user ∨ ∃ e, g.EndsHere request f e ∧
      g.TurnedAway request f.site f.context.requestId e := by
  by_cases permits : g.Permits request user
  · exact .inl ⟨c, s', proves, resolves, permits⟩
  · have refused := authenticate_of_denied proves resolves permits
    refine .inr ⟨_, endsHere_of_authenticate guarded refused, ?_⟩
    exact .denied proves resolves permits rfl (Response.status_ofFailure ..)

theorem turnedAway_of_failed {users : UserManager} {failure : Failure}
    (guarded : g.isPublic request.path = false) (proves : g.Proves request f.site c)
    (managed : g.users = some users)
    (failed : users.get c.subject f.site = (.done (.error failure), s')) :
    ∃ e, g.EndsHere request f e ∧ g.TurnedAway request f.site f.context.requestId e := by
  have refused := (authenticate_of_proves proves).trans
    (Act.attempt_error (resolve_of_failed managed failed) _)
  refine ⟨_, endsHere_of_authenticate guarded refused, ?_⟩
  split
  · next absent => exact .of_unproven (.unknown proves managed failed absent) _
  · next other => exact .failed proves managed failed other rfl

/-- With claims, the manager and the rules decide. -/
theorem examined_of_proves (guarded : g.isPublic request.path = false)
    (proves : g.Proves request f.site c) :
    (∃ user, g.Admits request f.site user) ∨ ∃ e, g.EndsHere request f e ∧
      g.TurnedAway request f.site f.context.requestId e := by
  cases managed : g.users with
  | none =>
      have answered := admits_or_turnedAway guarded proves (.believed managed)
      exact answered.imp_left fun admits => ⟨_, admits⟩
  | some users =>
      cases found : users.get c.subject f.site with
      | mk ending s' =>
          cases ending with
          | done outcome =>
              cases outcome with
              | ok user =>
                  have answered := admits_or_turnedAway guarded proves (.known managed found)
                  exact answered.imp_left fun admits => ⟨user, admits⟩
              | error failure => exact .inr (turnedAway_of_failed guarded proves managed found)
          | panicked p =>
              have panics := (authenticate_of_proves proves).trans
                (Act.attempt_panicked (resolve_of_panicked managed found) _)
              exact .inr ⟨_, endsHere_of_panicked guarded panics, .panicked proves managed found⟩
          | dropped =>
              have waits := (authenticate_of_proves proves).trans
                (Act.attempt_dropped (resolve_of_dropped managed found) _)
              exact .inr ⟨_, endsHere_of_dropped guarded waits, .dropped proves managed found⟩

/-- Every request is let through, or ends at the stage for one of the reasons. -/
theorem examined (g : Gatekeeper) (f : Flow) (guarded : g.isPublic request.path = false) :
    (∃ user, g.Admits request f.site user) ∨ ∃ e, g.EndsHere request f e ∧
      g.TurnedAway request f.site f.context.requestId e := by
  obtain ⟨c, proves⟩ | ⟨failure, unproven, told⟩ := identify_cases g request f.site
  · exact examined_of_proves guarded proves
  · have refused : g.authenticate request f.site = (.done (.error failure), f.site) :=
      Act.attempt_error told _
    exact .inr ⟨_, endsHere_of_authenticate guarded refused, .of_unproven unproven _⟩

/-- A request whose path is under no public one goes on with a context if and only if it is let
through as some user's, and the context is the one that the request came with, in which the user is
this one. If it is not let through, it ends at the stage, whatever lies behind, with its context as
it was, and with the answer that its reason calls for. -/
theorem authentication_exact (g : Gatekeeper) (request : Request) (f : Flow)
    (guarded : ∀ start ∈ g.publicPaths, ¬ start.toList <+: request.path.toList) :
    (∀ context, g.GoesOn request f context ↔ ∃ user, g.Admits request f.site user ∧
      context = { f.context with user := some user }) ∧
    ((¬ ∃ user, g.Admits request f.site user) → ∃ e, g.EndsHere request f e ∧
      g.TurnedAway request f.site f.context.requestId e) := by
  have unlisted := isPublic_eq_false guarded
  refine ⟨fun context => ⟨fun goes => ?_, ?_⟩,
    fun refused => (examined g f unlisted).resolve_left refused⟩
  · obtain ⟨user, admits⟩ | ⟨e, ends, -⟩ := examined g f unlisted
    · exact ⟨user, admits, goesOn_unique goes (goesOn_of_admits unlisted admits)⟩
    · exact absurd goes (not_goesOn_of_endsHere ends context)
  · rintro ⟨user, admits, rfl⟩
    exact goesOn_of_admits unlisted admits

/-- Who presents an issued token goes on as the ordinary user that its claims name, and nothing else
of the context is new. Who presents none is turned away: the path is shorter than the public ones it
looks like, and no carrier has a token. -/
theorem authentication_exact_with_and_without_token :
    let m : TokenMaker := { secret := [] }
    let g : Gatekeeper := { maker := m }
    let f : Flow := ⟨{ signal := 0, requestId := some "r-1" }, {}⟩
    let stranger : Request :=
      ⟨.get, ⟨"/api/v1/auth/log", some "tokens=x"⟩, [("authorization", "Basic dTpw")], ""⟩
    ∃ token c, m.create? (.ofSeed 1) "ada" "7" 3600000000000 f.site.today = some (token, c) ∧
      let holder : Request :=
        ⟨.get, ⟨"/api/v1/files/x", none⟩, [("authorization", "Bearer " ++ token)], ""⟩
      (∀ start ∈ g.publicPaths, ¬ start.toList <+: holder.path.toList) ∧
      (∀ start ∈ g.publicPaths, ¬ start.toList <+: stranger.path.toList) ∧
      (∀ context, g.GoesOn holder f context ↔ context =
        { signal := 0, requestId := some "r-1",
          user := some ⟨"7", "ada", { user := true }, []⟩ }) ∧
      ∃ r : Response, g.EndsHere stranger f (.done r) ∧ r.status = 401 := by
  intro m g f stranger
  let c : Claims := m.claims (.ofSeed 1) "ada" "7" 3600000000000 f.site.today
  have issued : m.create? (.ofSeed 1) "ada" "7" 3600000000000 f.site.today =
      some (m.encode c, c) := TokenMaker.create?_eq_some_iff.mpr ⟨rfl, by decide, rfl⟩
  refine ⟨m.encode c, c, issued, ?_⟩
  intro holder
  have guarded : ∀ start ∈ g.publicPaths, ¬ start.toList <+: holder.path.toList := by
    change ∀ start ∈ g.publicPaths, ¬ start.toList <+: "/api/v1/files/x".toList
    decide
  have unlisted : ∀ start ∈ g.publicPaths, ¬ start.toList <+: stranger.path.toList := by decide
  refine ⟨guarded, unlisted, fun context => ?_, ?_⟩
  · have presents : Credential.ofRequest? holder = some (m.encode c) :=
      Credential.ofRequest?_bearer (fun _ => m.marks_encode) m.encode_ne_empty _ _ _
    have unbound : TokenMaker.IssuerFits m c.wholeSeconds := by
      intro issuer set
      cases set
    have proves : g.Proves holder f.site c.wholeSeconds :=
      ⟨_, presents, TokenMaker.verifyAt_of_accepted
        ⟨TokenMaker.carries_of_create? (by decide) issued, by decide, unbound, rfl⟩⟩
    have goes := ((authentication_exact g holder f guarded).1 _).mpr
      ⟨_, ⟨_, _, proves, .believed rfl, .read, rfl, by decide⟩, rfl⟩
    refine ⟨fun other => goesOn_unique other goes, ?_⟩
    rintro rfl
    exact goes
  · have absent : Credential.ofRequest? stranger = none := by decide +kernel
    have nobody {c : Claims} : ¬ g.Proves stranger f.site c := by
      rintro ⟨token, presents, -⟩
      rw [absent] at presents
      cases presents
    obtain ⟨-, refused⟩ := authentication_exact g stranger f unlisted
    obtain ⟨e, ends, away⟩ := refused fun ⟨user, c, s', proves, _⟩ => nobody proves
    cases away with
    | challenged _ _ status _ => exact ⟨_, ends, status⟩
    | denied proves => exact absurd proves nobody
    | failed proves => exact absurd proves nobody
    | panicked proves => exact absurd proves nobody
    | dropped proves => exact absurd proves nobody

end Gatekeeper

end HttpService
