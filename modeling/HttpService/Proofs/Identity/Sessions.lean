import HttpService.Proofs.Access.Authentication
import HttpService.Proofs.Identity.Grants

/-!
# Whom a token speaks for

A token names the user who signed in for it, and so does every token that it is exchanged for. The
gatekeeper finds the record of this user, or believes the name and an ordinary role; so nobody passes
it as a privileged user who was not inserted as one.
-/

namespace HttpService

namespace SignIn

section

variable {s : SignIn} {site site' : Site} {request : Request} {context : Context} {user : User}
  {response : Response}

/-! ## Runs -/

/-- What is seen of a service and the users it knows. -/
inductive AccountEvent
  | inserted (username : String) (roles : RoleSet) (answer : Except Failure User)
  | registered (request : Request) (out : Ending (Except Failure Response))
  | loggedIn (request : Request) (out : Ending (Except Failure Response))
  | refreshed (request : Request) (out : Ending (Except Failure Response))
  | loggedOut (request : Request) (out : Ending (Except Failure Response))
  | elsewhere

/-- The event enters this user: one that is inserted with its roles, or an ordinary one that
registers. -/
inductive AccountEvent.Enters (user : User) : AccountEvent → Prop
  | inserted : Enters user (.inserted user.username user.roles (.ok user))
  | registered (request : Request) (ordinary : user.roles = { user := true }) :
      Enters user (.registered request (.done (.ok (.created user.toJson))))

/-- A user is inserted, or one of the calls is made. Random ids are new ones, and calls that issue
tokens are made at times that the calendar has. Whatever else goes on leaves the directory alone. -/
inductive Move (s : SignIn) (site : Site) : AccountEvent → Site → Prop
  | insert {site' : Site} {username password : String} {roles : RoleSet}
      {answer : Except Failure User} (unclaimed : Unclaimed site)
      (ran : UserManager.register username password roles site = (.done answer, site')) :
      Move s site (.inserted username roles answer) site'
  | register {site' : Site} {context : Context} {request : Request}
      {out : Ending (Except Failure Response)} (unclaimed : Unclaimed site)
      (ran : s.register context request site = (out, site')) :
      Move s site (.registered request out) site'
  | login {site' : Site} {context : Context} {request : Request}
      {out : Ending (Except Failure Response)} (dated : site.today.inRange = true)
      (ran : s.login context request site = (out, site')) :
      Move s site (.loggedIn request out) site'
  | refresh {site' : Site} {context : Context} {request : Request}
      {out : Ending (Except Failure Response)} (dated : site.today.inRange = true)
      (ran : s.refresh context request site = (out, site')) :
      Move s site (.refreshed request out) site'
  | logout {site' : Site} {context : Context} {request : Request}
      {out : Ending (Except Failure Response)}
      (ran : s.logout context request site = (out, site')) :
      Move s site (.loggedOut request out) site'
  | elsewhere {site' : Site} (same : site'.directory = site.directory) :
      Move s site .elsewhere site'

/-- Any number of moves from a site that knows nobody. -/
inductive Sessions (s : SignIn) : List AccountEvent → Site → Prop
  | start {site : Site} (empty : site.directory = {}) : Sessions s [] site
  | tail {events : List AccountEvent} {site site' : Site} {e : AccountEvent}
      (sessions : Sessions s events site) (move : Move s site e site') :
      Sessions s (events ++ [e]) site'

/-- The token was granted on a login under this name, or in exchange for a token that was. -/
inductive Obtained (events : List AccountEvent) (username : String) : String → Prop
  | login {request : Request} {response : Response} {password token : String}
      (event : .loggedIn request (.done (.ok response)) ∈ events)
      (form : Request.jsonBody LoginForm.reader request = .ok ⟨username, password⟩)
      (granted : response.grantedToken? = some token) : Obtained events username token
  | refresh {request : Request} {response : Response} {old token : String}
      (held : Obtained events username old)
      (event : .refreshed request (.done (.ok response)) ∈ events)
      (presents : Credential.ofRequest? request = some old)
      (granted : response.grantedToken? = some token) : Obtained events username token

/-! ## What a run keeps -/

/-- The maps are linked, whoever is in the directory has been entered, and the tokens that were
granted name the user that has signed in, or the one that the exchanged token names. -/
structure Faithful (s : SignIn) (events : List AccountEvent) (site : Site) : Prop where
  linked : site.directory.Linked
  entered : ∀ id a, site.directory.byId? id = some a →
    a.user.extra = [] ∧ ∃ e ∈ events, e.Enters a.user
  signedIn : ∀ request response form token, .loggedIn request (.done (.ok response)) ∈ events →
    Request.jsonBody LoginForm.reader request = .ok form →
      response.grantedToken? = some token →
        ∃ a, site.directory.byName? form.username = some a ∧ s.maker.Names token a.user
  renewed : ∀ request response old token, .refreshed request (.done (.ok response)) ∈ events →
    Credential.ofRequest? request = some old → response.grantedToken? = some token →
      ∃ c a, s.maker.Carries old c ∧ site.directory.byId? c.subject = some a ∧
        s.maker.Names token a.user

variable {events : List AccountEvent} {e : AccountEvent}

/-- The directory stays as it was, or a new account is entered. -/
theorem Move.directory_cases (own : s.users = .directory) (move : Move s site e site') :
    site'.directory = site.directory ∨
      ∃ password account, Entered site password account site' ∧ Unclaimed site ∧
        e.Enters account.user := by
  cases move with
  | @insert site' username password roles answer unclaimed ran =>
      obtain ⟨f, -, failed⟩ | ⟨account, after, entered, rfl, rfl, done⟩ :=
        manager_register_cases username password roles site
      · cases failed.symm.trans ran
        exact .inl rfl
      · cases done.symm.trans ran
        exact .inr ⟨password, account, entered, unclaimed, .inserted⟩
  | @register site' context request out unclaimed ran =>
      obtain ⟨f, failed, -⟩ | ⟨form, account, after, -, entered, -, roles, done⟩ :=
        register_cases own context request site
      · cases failed.symm.trans ran
        exact .inl rfl
      · cases done.symm.trans ran
        exact .inr ⟨_, account, entered, unclaimed, .registered request roles⟩
  | @login site' context request out dated ran =>
      have kept := directory_login own context request site.directory site rfl
      rw [ran] at kept
      exact .inl kept
  | @refresh site' context request out dated ran =>
      have kept := directory_refresh own context request site.directory site rfl
      rw [ran] at kept
      exact .inl kept
  | @logout site' context request out ran =>
      have kept := s.directory_logout context request site.directory site rfl
      rw [ran] at kept
      exact .inl kept
  | elsewhere same => exact .inl same

theorem faithful_start (empty : site.directory = {}) : Faithful s [] site where
  linked := by
    rw [empty]
    exact Directory.linked_empty
  entered id a found := by
    rw [empty] at found
    cases found
  signedIn _ _ _ _ event := absurd event List.not_mem_nil
  renewed _ _ _ _ event := absurd event List.not_mem_nil

/-- What an event may be so that the rest is kept while the directory grows. -/
theorem Faithful.concat (faithful : Faithful s events site) (linked : site'.directory.Linked)
    (grows : site.directory.Grows site'.directory)
    (enters : ∀ id a, site'.directory.byId? id = some a → site.directory.byId? id = some a ∨
      a.user.extra = [] ∧ e.Enters a.user)
    (signs : ∀ request response form token, e = .loggedIn request (.done (.ok response)) →
      Request.jsonBody LoginForm.reader request = .ok form →
        response.grantedToken? = some token →
          ∃ a, site'.directory.byName? form.username = some a ∧ s.maker.Names token a.user)
    (renews : ∀ request response old token, e = .refreshed request (.done (.ok response)) →
      Credential.ofRequest? request = some old → response.grantedToken? = some token →
        ∃ c a, s.maker.Carries old c ∧ site'.directory.byId? c.subject = some a ∧
          s.maker.Names token a.user) :
    Faithful s (events ++ [e]) site' where
  linked := linked
  entered id a found := by
    obtain old | ⟨plain, now⟩ := enters id a found
    · obtain ⟨plain, x, member, entered⟩ := faithful.entered id a old
      exact ⟨plain, x, List.mem_append_left _ member, entered⟩
    · exact ⟨plain, e, by simp, now⟩
  signedIn request response form token event formed granted := by
    obtain old | new := List.mem_append.mp event
    · obtain ⟨a, found, names⟩ := faithful.signedIn request response form token old formed granted
      exact ⟨a, grows.byName? faithful.linked linked found, names⟩
    · exact signs request response form token (List.mem_singleton.mp new).symm formed granted
  renewed request response old token event presents granted := by
    obtain earlier | new := List.mem_append.mp event
    · obtain ⟨c, a, carries, found, names⟩ :=
        faithful.renewed request response old token earlier presents granted
      exact ⟨c, a, carries, grows _ a found, names⟩
    · exact renews request response old token (List.mem_singleton.mp new).symm presents granted

/-- A login names the user whose name and password were given. -/
theorem names_of_login (own : s.users = .directory) (dated : site.today.inRange = true)
    {form : LoginForm} {token : String}
    (ok : s.login context request site = (.done (.ok response), site'))
    (formed : Request.jsonBody LoginForm.reader request = .ok form)
    (granted : response.grantedToken? = some token) :
    ∃ a, site.directory.byName? form.username = some a ∧ s.maker.Names token a.user := by
  obtain ⟨given, user, read, known, issued⟩ := login_ok own ok
  cases formed.symm.trans read
  obtain ⟨a, found, -, rfl⟩ := Directory.authenticate_eq_ok_iff.mp known
  exact ⟨a, found, names_of_grant dated issued granted⟩

/-- A refresh names the user that the token it was asked to exchange names. -/
theorem names_of_refresh (own : s.users = .directory) (dated : site.today.inRange = true)
    {old token : String}
    (ok : s.refresh context request site = (.done (.ok response), site'))
    (presents : Credential.ofRequest? request = some old)
    (granted : response.grantedToken? = some token) :
    ∃ c a, s.maker.Carries old c ∧ site.directory.byId? c.subject = some a ∧
      s.maker.Names token a.user := by
  obtain ⟨shown, c, user, presents', valid, got, issued⟩ := refresh_ok own ok
  cases presents.symm.trans presents'
  obtain ⟨a, found, rfl⟩ := Directory.get_eq_ok_iff.mp got
  let site' := { site with revoked := site.revoked.revoke c.id c.expiresAt }
  have names : s.maker.Names token a.user :=
    @names_of_grant s site' _ _ _ dated issued _ granted
  exact ⟨c, a, (TokenMaker.accepted_of_verifyAt valid).carries, found, names⟩

theorem Faithful.step (faithful : Faithful s events site) (own : s.users = .directory)
    (move : Move s site e site') : Faithful s (events ++ [e]) site' := by
  obtain same | ⟨password, account, entered, unclaimed, enters⟩ := move.directory_cases own
  · -- Only a login or a refresh has something new to say.
    refine faithful.concat (same.symm ▸ faithful.linked) (fun _ _ found => same.symm ▸ found)
      (fun _ _ found => .inl (same ▸ found)) ?_ ?_
    · intro request response form token now formed granted
      subst now
      cases move with
      | login dated ran =>
          rw [same]
          exact names_of_login own dated ran formed granted
    · intro request response old token now presents granted
      subst now
      cases move with
      | refresh dated ran =>
          rw [same]
          exact names_of_refresh own dated ran presents granted
  · have admits := entered.admits unclaimed
    refine faithful.concat ?_ ?_ ?_ ?_ ?_
    · rw [entered.directory]
      exact faithful.linked.enter admits
    · rw [entered.directory]
      exact Directory.grows_enter admits
    · intro id a found
      rw [entered.directory, Directory.byId?_enter] at found
      split at found
      · cases found
        exact .inr ⟨entered.plain, enters⟩
      · exact .inl found
    · intro request response form token now
      subst now
      cases enters
    · intro request response old token now
      subst now
      cases enters

theorem Sessions.faithful (own : s.users = .directory) (sessions : Sessions s events site) :
    Faithful s events site := by
  induction sessions with
  | start empty => exact faithful_start empty
  | tail sessions move ih => exact ih.step own move

/-- Whoever holds a token that was obtained under a name is named by it. -/
theorem Faithful.names_of_obtained (faithful : Faithful s events site) {username token : String}
    (obtained : Obtained events username token) :
    ∃ a, site.directory.byName? username = some a ∧ s.maker.Names token a.user := by
  induction obtained with
  | login event form granted => exact faithful.signedIn _ _ _ _ event form granted
  | @refresh request response old token held event presents granted ih =>
      obtain ⟨a, found, c, carries, -, subject, -⟩ := ih
      obtain ⟨c', a', carries', found', names⟩ :=
        faithful.renewed request response old token event presents granted
      -- Both are found under the id in the old token's claims.
      rw [TokenMaker.carries_unique carries' carries, subject,
        (faithful.linked.byName?_iff.mp found).1] at found'
      cases found'
      exact ⟨a, found, names⟩

end

end SignIn

/-! ## At the gatekeeper -/

namespace Gatekeeper

variable {g : Gatekeeper} {request : Request} {f : Flow} {c : Claims} {a : Account} {user : User}

/-- The gatekeeper finds this user behind the request, and lets the request go on as the user's if
the rules permit it. -/
structure Takes (g : Gatekeeper) (request : Request) (f : Flow) (user : User) : Prop where
  found : Act.attempt (g.identify request) g.resolve f.site = (.done (.ok user), f.site)
  onward : g.isPublic request.path = false → g.Permits request user →
    g.GoesOn request f { f.context with user := some user }

theorem takes_of_resolves (proves : g.Proves request f.site c)
    (resolves : g.Resolves c f.site user f.site) : g.Takes request f user where
  found := (Act.attempt_ok (identify_of_proves proves) _).trans (resolve_of_resolves resolves)
  onward guarded permits := goesOn_of_admits guarded ⟨c, f.site, proves, resolves, permits⟩

theorem takes_stored (managed : g.users = some .directory) (proves : g.Proves request f.site c)
    (stored : f.site.directory.byId? c.subject = some a) : g.Takes request f a.user := by
  have got := Directory.get_eq_ok_iff.mpr ⟨a, stored, rfl⟩
  have found : UserManager.directory.get c.subject f.site = (.done (.ok a.user), f.site) := by
    simp only [UserManager.directory, Act.update, got]
  exact takes_of_resolves proves (.known managed found)

/-- A request goes on with the context that it came with, or with the user that it is let through
as. -/
theorem goesOn_cases {context : Context} (goes : g.GoesOn request f context) :
    context = f.context ∨ ∃ user, g.Admits request f.site user ∧
      context = { f.context with user := some user } := by
  cases guarded : g.isPublic request.path with
  | true =>
      have unchanged : g.GoesOn request f f.context := by
        refine ⟨f, rfl, fun next => ?_⟩
        simp only [Stage.authentication, guarded, ↓reduceIte]
      exact .inl (goesOn_unique goes unchanged)
  | false =>
      obtain ⟨user, admits⟩ | ⟨e, ends, -⟩ := examined g f guarded
      · exact .inr ⟨user, admits, goesOn_unique goes (goesOn_of_admits guarded admits)⟩
      · exact absurd goes (not_goesOn_of_endsHere ends context)

end Gatekeeper

namespace SignIn

variable {s : SignIn} {site : Site} {events : List AccountEvent}

/-- A registration enters an ordinary user of this name, and the answer shows the user. -/
def Creates (s : SignIn) (request : Request) (site : Site) (username : String) : Prop :=
  ∃ account after, account.user.username = username ∧ account.user.roles = { user := true } ∧
    after.directory = site.directory.enter account ∧
    ∀ context, s.register context request site =
      (.done (.ok (.created account.user.toJson)), after)

theorem fails_or_creates (own : s.users = .directory) (request : Request) (site : Site) :
    (∃ f, ∀ context, s.register context request site = (.done (.error f), site)) ∨
      ∃ form, Request.jsonBody LoginForm.reader request = .ok form ∧
        s.Creates request site form.username := by
  obtain ⟨f, failed, -⟩ | ⟨form, account, after, read, entered, name, roles, done⟩ :=
    register_cases own (.withSignal 0) request site
  · exact .inl ⟨f, fun _ => failed⟩
  · exact .inr ⟨form, read, account, after, name, roles, entered.directory, fun _ => done⟩

theorem creates_of_members (own : s.users = .directory) {request : Request}
    {username password : String} {others : List (String × Json)}
    (strange : ∀ m ∈ others, m.1 ≠ "username" ∧ m.1 ≠ "password")
    (body : request.body = (Json.object (("username", .text username) ::
      ("password", .text password) :: others)).render)
    (allowed : site.directory.refusal? username password = none) :
    s.Creates request site username := by
  obtain ⟨account, after, entered, name, roles, done⟩ :=
    register_of_allowed own (form_of_members strange body) allowed
  exact ⟨account, after, name, roles, entered.directory, done⟩

/-- Behind the gatekeeper a privileged user is one who was inserted with a privileged role. -/
theorem Faithful.inserted_of_admits (faithful : Faithful s events site) {g : Gatekeeper}
    (shared : g.users = some .directory ∨ g.users = none) {request : Request} {user : User}
    (admits : g.Admits request site user) (privileged : user.isPrivileged = true) :
    .inserted user.username user.roles (.ok user) ∈ events := by
  obtain ⟨c, after, -, resolves, -⟩ := admits
  cases resolves with
  | @known users user after managed found =>
      obtain own | none := shared
      · cases managed.symm.trans own
        obtain ⟨got, -⟩ := Prod.mk.inj found
        obtain ⟨a, stored, rfl⟩ := Directory.get_eq_ok_iff.mp (Ending.done.inj got)
        obtain ⟨-, e, member, enters⟩ := faithful.entered _ a stored
        cases enters with
        | inserted => exact member
        | registered request ordinary =>
            unfold User.isPrivileged at privileged
            rw [ordinary] at privileged
            cases privileged
      · cases managed.symm.trans none
  | believed => cases privileged

/-- Identity and privilege are what sign-in made them. A token that was obtained under a name is, as
long as it is neither expired nor revoked, taken for the user stored under this name, or without a
manager for an ordinary user with the id and the name of that one. Registration makes ordinary users,
whatever else its body says. And no privileged user gets past the gatekeeper who was not inserted
with a privileged role. -/
theorem Sessions.identity_preserved (own : s.users = .directory)
    (sessions : Sessions s events site) :
    (∀ username token, Obtained events username token →
      ∃ account c, site.directory.byName? username = some account ∧ s.maker.Carries token c ∧
        ∀ (g : Gatekeeper) (request : Request) (f : Flow), g.maker = s.maker → f.site = site →
          Credential.ofRequest? request = some token →
          site.today.nanos < c.expiresAt.nanos → site.revoked.isRevoked c.id = false →
            (g.users = some .directory → g.Takes request f account.user) ∧
            (g.users = none → g.Takes request f
              { id := account.user.id, username := username, roles := { user := true },
                extra := [] })) ∧
    (∀ request, (∃ f, ∀ context, s.register context request site = (.done (.error f), site)) ∨
      ∃ form, Request.jsonBody LoginForm.reader request = .ok form ∧
        s.Creates request site form.username) ∧
    (∀ (request : Request) (username password : String) (others : List (String × Json)),
      (∀ m ∈ others, m.1 ≠ "username" ∧ m.1 ≠ "password") → Json.LegibleMembers others →
        request.body = (Json.object (("username", .text username) ::
          ("password", .text password) :: others)).render →
        site.directory.refusal? username password = none → s.Creates request site username) ∧
    ∀ (g : Gatekeeper) (request : Request) (f : Flow) (context : Context),
      g.users = some .directory ∨ g.users = none → f.site = site → g.GoesOn request f context →
        context = f.context ∨ ∃ user, context = { f.context with user := some user } ∧
          (user.isPrivileged = true → .inserted user.username user.roles (.ok user) ∈ events) := by
  have faithful := sessions.faithful own
  refine ⟨?_, fun request => fails_or_creates own request site, ?_, ?_⟩
  · intro username token obtained
    obtain ⟨account, found, c, carries, issued, subject, name⟩ :=
      faithful.names_of_obtained obtained
    obtain ⟨stored, called⟩ := faithful.linked.byName?_iff.mp found
    refine ⟨account, c, found, carries, ?_⟩
    rintro g request f maker rfl presents current unlisted
    have proves : g.Proves request f.site c := by
      refine ⟨token, presents, ?_⟩
      rw [maker]
      exact TokenMaker.verifyAt_of_accepted ⟨carries, current, issued, unlisted⟩
    refine ⟨fun managed => ?_, fun unmanaged => ?_⟩
    · exact Gatekeeper.takes_stored managed proves (by rw [subject, stored])
    · have takes := Gatekeeper.takes_of_resolves proves (.believed unmanaged)
      rw [subject, name, called] at takes
      exact takes
  · intro request username password others strange _ body allowed
    exact creates_of_members own strange body allowed
  · rintro g request f context shared rfl goes
    obtain same | ⟨user, admits, set⟩ := Gatekeeper.goesOn_cases goes
    · exact .inl same
    · exact .inr ⟨user, set, faithful.inserted_of_admits shared admits⟩

/-- A user who has asked for more than registration gives signs in. -/
theorem Sessions.identity_preserved_asking_for_more :
    let s : SignIn := ⟨{ secret := List.replicate 32 0 }, .directory, 3600000000000⟩
    let g : Gatekeeper := { maker := s.maker, users := some .directory }
    ∃ events site token account request, Sessions s events site ∧ Obtained events "ada" token ∧
      site.directory.byName? "ada" = some account ∧ account.user.roles = { user := true } ∧
      Credential.ofRequest? request = some token ∧
      ∀ f, f.site = site → g.Takes request f account.user := by
  intro s g
  let asks : Request := ⟨.post, ⟨"/api/v1/auth/register", none⟩, [],
    (Json.object [("username", .text "ada"), ("password", .text "correct horse"),
      ("roles", .array [.text "admin"])]).render⟩
  let others : List (String × Json) := [("roles", .array [.text "admin"])]
  have strange : ∀ m ∈ others, m.1 ≠ "username" ∧ m.1 ≠ "password" := by simp [others]
  have formed : Request.jsonBody LoginForm.reader asks = .ok ⟨"ada", "correct horse"⟩ :=
    form_of_members strange rfl
  let site : Site := {}
  have allowed : site.directory.refusal? "ada" "correct horse" = none := by rfl
  have own : s.users = .directory := rfl
  obtain ⟨account, known, entered, name, roles, registered⟩ :=
    register_of_allowed own formed allowed
  have linked : known.directory.Linked := by
    rw [entered.directory]
    exact Directory.linked_empty.enter (entered.admits rfl)
  have stored : known.directory.byName? "ada" = some account := by
    refine linked.byName?_iff.mpr ⟨?_, name⟩
    rw [entered.directory, Directory.byId?_enter, if_pos rfl]
  have proved := Directory.authenticate_eq_ok_iff.mpr ⟨account, stored, entered.right, rfl⟩
  let c : Claims :=
    ⟨Uuid.ofSeed 2, account.user.username, account.user.id, ⟨0⟩, ⟨3600000000000⟩, none⟩
  let token := s.maker.encode c
  let grant : Grant := ⟨token, c.expiresAt, account.user⟩
  have today : known.today = ⟨0⟩ := by rw [entered.after]
  have made : s.maker.create? (Uuid.ofSeed known.seed) account.user.username account.user.id
      s.lifetime known.today = some (token, c) := by
    rw [entered.after]
    rfl
  have loggedIn : s.login (.withSignal 0) asks known =
      (.done (.ok (.ok grant.toJson)), { known with seed := known.seed + 1 }) := by
    rw [login_eq_grant rfl formed proved]
    exact grant_of_create? made
  have unclaimed : Unclaimed {} := rfl
  let events : List AccountEvent :=
    [.registered asks (.done (.ok (.created account.user.toJson))),
      .loggedIn asks (.done (.ok (.ok grant.toJson)))]
  have sessions : Sessions s events _ :=
    ((Sessions.start rfl).tail (.register unclaimed (registered (.withSignal 0)))).tail
      (.login (by rw [today]; decide) loggedIn)
  have granted : (Response.ok grant.toJson).grantedToken? = some token :=
    grantedToken?_ok grant
  have obtained : Obtained events "ada" token :=
    .login (List.mem_cons_of_mem _ (List.mem_singleton_self _)) formed granted
  let request : Request :=
    ⟨.get, ⟨"/api/v1/files", none⟩, [("authorization", "Bearer " ++ token)], ""⟩
  have presents : Credential.ofRequest? request = some token :=
    Credential.ofRequest?_bearer (fun _ => s.maker.marks_encode) s.maker.encode_ne_empty _ _ _
  obtain ⟨kept, -⟩ := sessions.identity_preserved rfl
  obtain ⟨account', p, found, carries, takes⟩ := kept "ada" token obtained
  cases stored.symm.trans found
  have claims : p = c.wholeSeconds := TokenMaker.eq_wholeSeconds_of_carries carries
  refine ⟨_, _, token, account, request, sessions, obtained, stored, roles, presents, ?_⟩
  intro f here
  refine (takes g request f rfl here presents ?_ ?_).1 rfl
  · rw [claims]
    change known.today.nanos < _
    rw [today]
    exact (by decide : (0 : Int) < 3600000000000)
  · change known.revoked.isRevoked p.id = false
    rw [entered.after]
    rfl

end SignIn

end HttpService
