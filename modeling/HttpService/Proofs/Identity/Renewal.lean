import HttpService.Identity.SignIn
import HttpService.Proofs.Act
import HttpService.Proofs.Concat
import HttpService.Proofs.Token.Issuing

/-!
# Refreshes that overlap

A refresh reads its token, waits for the user manager, and then revokes the token and issues a
fresh one whatever has happened to the token meanwhile. So a token that has been exchanged or given
back is never read again, but refreshes that have read it before get their fresh tokens too.
-/

namespace HttpService

namespace SignIn

/-! ## The two parts of a refresh -/

/-- What a manager's answer says of the user that claims are about. -/
def known : Except Failure User → Except Failure User
  | .ok user => .ok user
  | .error f =>
      if f.code = .notFound then .error (.unauthenticated "user no longer exists") else .error f

/-- The part of a refresh that follows the manager's answer. -/
def conclude (s : SignIn) (c : Claims) (answer : Except Failure User) :
    Act Site (Except Failure Response) :=
  Act.attempt (Act.pure (known answer)) fun user => s.renew c user

section

variable {s : SignIn} {c : Claims} {user : User} {request : Request} {token : String} {site : Site}

theorem resolve_eq (s : SignIn) (c : Claims) :
    s.resolve c = Act.bind (s.users.get c.subject) fun answer => Act.pure (known answer) := by
  unfold resolve
  refine congrArg (Act.bind (s.users.get c.subject)) (funext fun answer => ?_)
  cases answer with
  | ok user => rfl
  | error f =>
      unfold known
      dsimp only
      split <;> rfl

/-- A refresh reads the token, asks the manager, and concludes. -/
theorem refresh_eq (s : SignIn) (context : Context) (request : Request) :
    s.refresh context request = Act.attempt (s.presented request) fun c =>
      Act.bind (s.users.get c.subject) (s.conclude c) := by
  refine congrArg (Act.attempt (s.presented request)) (funext fun c => ?_)
  change Act.bind (s.resolve c) _ = _
  rw [resolve_eq, Act.bind_assoc]
  rfl

theorem presented_eq (s : SignIn) (presents : Credential.ofRequest? request = some token)
    (site : Site) :
    s.presented request site =
      (.done (s.maker.verifyAt site.revoked token site.today), site) := by
  unfold presented
  rw [presents]
  rfl

/-! ## What the parts do to the list of revoked tokens -/

theorem issue_eq (s : SignIn) (user : User) (site : Site) :
    s.issue user site =
      (match
          s.maker.create? (Uuid.ofSeed site.seed) user.username user.id s.lifetime site.today with
        | some (token, claims) => .done ⟨token, claims.expiresAt, user⟩
        | none => .panicked (.text "time overflows the calendar"),
        { site with seed := site.seed + 1 }) := by
  let drawn : Site := { site with seed := site.seed + 1 }
  have random : Site.random site = (.done site.seed, drawn) := rfl
  have calendar : Site.calendar drawn = (.done site.today, drawn) := rfl
  refine (Act.bind_done random _).trans ((Act.bind_done calendar _).trans ?_)
  cases s.maker.create? (Uuid.ofSeed site.seed) user.username user.id s.lifetime site.today <;> rfl

/-- What is granted, when the calendar reaches the expiry. -/
theorem grant_of_create? {claims : Claims}
    (issued : s.maker.create? (Uuid.ofSeed site.seed) user.username user.id s.lifetime site.today =
      some (token, claims)) :
    s.grant user site =
      (.done (.ok (Response.ok (Grant.toJson ⟨token, claims.expiresAt, user⟩))),
        { site with seed := site.seed + 1 }) := by
  have granted := s.issue_eq user site
  rw [issued] at granted
  exact Act.bind_done granted _

/-- What has been granted was issued at the calendar's time. -/
theorem grant_ok {site' : Site} {response : Response}
    (granted : s.grant user site = (.done (.ok response), site')) :
    ∃ token claims,
      s.maker.create? (Uuid.ofSeed site.seed) user.username user.id s.lifetime site.today =
        some (token, claims) ∧
      response = Response.ok (Grant.toJson ⟨token, claims.expiresAt, user⟩) ∧
      site' = { site with seed := site.seed + 1 } := by
  cases made : s.maker.create? (Uuid.ofSeed site.seed) user.username user.id s.lifetime
      site.today with
  | none =>
      have issued := s.issue_eq user site
      rw [made] at issued
      cases (Act.bind_panicked issued _).symm.trans granted
  | some issued =>
      obtain ⟨token, claims⟩ := issued
      cases (grant_of_create? made).symm.trans granted
      exact ⟨token, claims, rfl, rfl, rfl⟩

theorem revoked_grant (s : SignIn) (user : User) (site : Site) :
    (s.grant user site).2.revoked = site.revoked := by
  have granted := s.issue_eq user site
  cases made : s.maker.create? (Uuid.ofSeed site.seed) user.username user.id s.lifetime
      site.today with
  | some made => rw [grant_of_create? made]
  | none =>
      rw [made] at granted
      have panicked : s.grant user site = _ := Act.bind_panicked granted _
      rw [panicked]

theorem revoked_renew (s : SignIn) (c : Claims) (user : User) (site : Site) :
    (s.renew c user site).2.revoked = site.revoked.revoke c.id c.expiresAt :=
  s.revoked_grant user { site with revoked := site.revoked.revoke c.id c.expiresAt }

/-- The response has a token that the service has issued. -/
def Fresh (s : SignIn) (response : Response) : Prop :=
  ∃ (user : User) (id : Uuid) (now : Instant) (token : String) (claims : Claims),
    s.maker.create? id user.username user.id s.lifetime now = some (token, claims) ∧
      response = Response.ok (Grant.toJson ⟨token, claims.expiresAt, user⟩)

theorem fresh_renew {made : String × Claims}
    (issued : s.maker.create? (Uuid.ofSeed site.seed) user.username user.id s.lifetime site.today =
      some made) :
    ∃ response, s.Fresh response ∧ s.renew c user site =
      (.done (.ok response),
        { site with revoked := site.revoked.revoke c.id c.expiresAt, seed := site.seed + 1 }) := by
  let listed : Site := { site with revoked := site.revoked.revoke c.id c.expiresAt }
  have granted : s.grant user listed = _ := grant_of_create? issued
  exact ⟨_, ⟨user, _, _, made.1, made.2, issued, rfl⟩, granted⟩

theorem conclude_of_known {answer : Except Failure User} (found : known answer = .ok user) :
    s.conclude c answer site = s.renew c user site := by
  unfold conclude
  rw [found]
  rfl

theorem conclude_of_unknown {answer : Except Failure User} {f : Failure}
    (missing : known answer = .error f) : s.conclude c answer site = (.done (.error f), site) := by
  unfold conclude
  rw [missing]
  rfl

variable {context : Context}

theorem logout_of_valid (presents : Credential.ofRequest? request = some token)
    (valid : s.maker.verifyAt site.revoked token site.today = .ok c) :
    s.logout context request site =
      (.done (.ok (Response.ok (.object [("logged_out", .bool true)]))),
        { site with revoked := site.revoked.revoke c.id c.expiresAt }) := by
  have read := s.presented_eq presents site
  rw [valid] at read
  exact Act.attempt_ok read _

theorem logout_of_invalid {f : Failure} (presents : Credential.ofRequest? request = some token)
    (invalid : s.maker.verifyAt site.revoked token site.today = .error f) :
    s.logout context request site = (.done (.error f), site) := by
  have read := s.presented_eq presents site
  rw [invalid] at read
  exact Act.attempt_error read _

end

/-! ## Calls that overlap -/

/-- What is seen of the calls to a service. The place of a refresh among the events is the number
that its conclusion refers to. -/
inductive CallEvent
  | began (token : String) (answer : Except Failure Claims)
  | concluded (start : Nat) (token : String) (out : Ending (Except Failure Response))
  | loggedOut (token : String) (out : Ending (Except Failure Response))
  | elsewhere

/-- The event ends the life of a token: a refresh or a logout of it succeeds. -/
inductive CallEvent.Spends (token : String) : CallEvent → Prop
  | renewed (start : Nat) (response : Response) :
      Spends token (.concluded start token (.done (.ok response)))
  | returned (response : Response) : Spends token (.loggedOut token (.done (.ok response)))

/-- A call runs on until it waits: a refresh begins and waits for the manager, or concludes on an
answer, whatever that is; a logout does not wait. Whatever else goes on unlists no token. -/
inductive Step (s : SignIn) (events : List CallEvent) (site : Site) : CallEvent → Site → Prop
  | begin {site' : Site} {request : Request} {token : String} {answer : Except Failure Claims}
      (presents : Credential.ofRequest? request = some token)
      (read : s.presented request site = (.done answer, site')) :
      Step s events site (.began token answer) site'
  | conclude {site' : Site} {start : Nat} {token : String} {c : Claims}
      {answer : Except Failure User} {out : Ending (Except Failure Response)}
      (began : events[start]? = some (.began token (.ok c)))
      (waits : ∀ token out, .concluded start token out ∉ events)
      (rest : s.conclude c answer site = (out, site')) :
      Step s events site (.concluded start token out) site'
  | logout {site' : Site} {request : Request} {token : String} {context : Context}
      {out : Ending (Except Failure Response)}
      (presents : Credential.ofRequest? request = some token)
      (returned : s.logout context request site = (out, site')) :
      Step s events site (.loggedOut token out) site'
  | elsewhere {site' : Site}
      (lasting : ∀ id, site.revoked.isRevoked id = true → site'.revoked.isRevoked id = true) :
      Step s events site .elsewhere site'

/-- Any number of calls, each running on whenever it can. -/
inductive Schedule (s : SignIn) : List CallEvent → Site → Prop
  | refl (site : Site) : Schedule s [] site
  | tail {events : List CallEvent} {site site' : Site} {e : CallEvent}
      (schedule : Schedule s events site) (step : Step s events site e site') :
      Schedule s (events ++ [e]) site'

/-- The token's life has ended at this place among the events. -/
def SpentAt (events : List CallEvent) (token : String) (place : Nat) : Prop :=
  ∃ e, events[place]? = some e ∧ e.Spends token

/-! ## What a schedule keeps -/

section

variable {s : SignIn} {events : List CallEvent} {site site' : Site} {e : CallEvent}

/-- Claims that were read are those that the token carries, a conclusion has a beginning, and a
spent token is listed and was not read after it had been spent. -/
structure Kept (s : SignIn) (events : List CallEvent) (site : Site) : Prop where
  carried : ∀ (i : Nat) token c, events[i]? = some (.began token (.ok c)) →
    s.maker.Carries token c
  started : ∀ (place : Nat) i token out, events[place]? = some (.concluded i token out) →
    i < place ∧ ∃ c, events[i]? = some (.began token (.ok c))
  listed : ∀ place token c, SpentAt events token place → s.maker.Carries token c →
    site.revoked.isRevoked c.id = true
  early : ∀ place i token c, SpentAt events token place →
    events[i]? = some (.began token (.ok c)) → i < place

/-- What an event may be so that everything is kept. -/
theorem Kept.concat (kept : Kept s events site)
    (lasting : ∀ id, site.revoked.isRevoked id = true → site'.revoked.isRevoked id = true)
    (reads : ∀ token c, e = .began token (.ok c) →
      s.maker.Carries token c ∧ site.revoked.isRevoked c.id = false)
    (starts : ∀ i token out, e = .concluded i token out →
      ∃ c, events[i]? = some (.began token (.ok c)))
    (lists : ∀ token c, e.Spends token → s.maker.Carries token c →
      site'.revoked.isRevoked c.id = true) : Kept s (events ++ [e]) site' where
  carried i token c found := by
    obtain old | ⟨-, rfl⟩ := getElem?_concat_cases found
    · exact kept.carried i token c old
    · exact (reads token c rfl).1
  started place i token out found := by
    obtain old | ⟨rfl, rfl⟩ := getElem?_concat_cases found
    · obtain ⟨before, c, began⟩ := kept.started place i token out old
      exact ⟨before, c, getElem?_concat_old began⟩
    · obtain ⟨c, began⟩ := starts i token out rfl
      exact ⟨(List.getElem?_eq_some_iff.mp began).1, c, getElem?_concat_old began⟩
  listed place token c spent carries := by
    obtain ⟨x, found, spends⟩ := spent
    obtain old | ⟨-, rfl⟩ := getElem?_concat_cases found
    · exact lasting _ (kept.listed place token c ⟨x, old, spends⟩ carries)
    · exact lists token c spends carries
  early place i token c spent began := by
    obtain ⟨x, found, spends⟩ := spent
    obtain old | ⟨rfl, rfl⟩ := getElem?_concat_cases found <;>
      obtain earlier | ⟨rfl, rfl⟩ := getElem?_concat_cases began
    · exact kept.early place i token c ⟨x, old, spends⟩ earlier
    · -- The token has just been read, so it is not listed, but it is spent.
      obtain ⟨carries, unlisted⟩ := reads token c rfl
      rw [kept.listed place token c ⟨x, old, spends⟩ carries] at unlisted
      cases unlisted
    · exact (List.getElem?_eq_some_iff.mp earlier).1
    · cases spends

theorem lasting_revoke {l : RevocationList} (id : Uuid) (expiry : Instant) (other : Uuid)
    (listed : l.isRevoked other = true) : (l.revoke id expiry).isRevoked other = true := by
  rw [RevocationList.isRevoked_revoke, listed, Bool.or_true]

theorem listed_revoke (l : RevocationList) (id : Uuid) (expiry : Instant) :
    (l.revoke id expiry).isRevoked id = true := by
  rw [RevocationList.isRevoked_revoke, decide_eq_true rfl, Bool.true_or]

theorem Kept.step (kept : Kept s events site) (step : Step s events site e site') :
    Kept s (events ++ [e]) site' := by
  cases step with
  | @begin site' request token answer presents read =>
      rw [s.presented_eq presents site] at read
      obtain ⟨same, rfl⟩ := Prod.mk.inj read
      refine kept.concat (fun _ listed => listed) ?_ (by simp) ?_
      · intro text c same'
        cases same'
        obtain ⟨carries, -, -, unlisted⟩ := TokenMaker.accepted_of_verifyAt (Ending.done.inj same)
        exact ⟨carries, unlisted⟩
      · intro text c spends
        cases spends
  | @conclude site' start token c answer out began waits rest =>
      have carries := kept.carried start token c began
      cases found : known answer with
      | error f =>
          rw [conclude_of_unknown found] at rest
          cases rest
          refine kept.concat (fun _ listed => listed) (by simp) ?_ ?_
          · intro i text ended same
            cases same
            exact ⟨c, began⟩
          · intro text other spends
            cases spends
      | ok user =>
          rw [conclude_of_known found] at rest
          have revoked : site'.revoked = site.revoked.revoke c.id c.expiresAt := by
            rw [← s.revoked_renew c user site, rest]
          refine kept.concat ?_ (by simp) ?_ ?_
          · rw [revoked]
            exact lasting_revoke c.id c.expiresAt
          · intro i text ended same
            cases same
            exact ⟨c, began⟩
          · intro text other spends carried
            have one : text = token := by cases spends; rfl
            subst one
            rw [TokenMaker.carries_unique carried carries, revoked]
            exact listed_revoke _ _ _
  | @logout site' request token context out presents returned =>
      cases valid : s.maker.verifyAt site.revoked token site.today with
      | error f =>
          rw [logout_of_invalid presents valid] at returned
          cases returned
          refine kept.concat (fun _ listed => listed) (by simp) (by simp) ?_
          intro text other spends
          cases spends
      | ok c =>
          rw [logout_of_valid presents valid] at returned
          cases returned
          refine kept.concat (lasting_revoke c.id c.expiresAt) (by simp) (by simp) ?_
          intro text other spends carried
          have one : text = token := by cases spends; rfl
          subst one
          rw [TokenMaker.carries_unique carried (TokenMaker.accepted_of_verifyAt valid).carries]
          exact listed_revoke _ _ _
  | elsewhere lasting =>
      refine kept.concat lasting (by simp) (by simp) ?_
      intro text other spends
      cases spends

theorem Schedule.kept (schedule : Schedule s events site) : Kept s events site := by
  induction schedule with
  | refl site =>
      exact ⟨by simp, by simp, fun _ _ _ ⟨_, found, _⟩ => by simp at found, by simp⟩
  | tail schedule step ih => exact ih.step step

/-- A refresh that is not interrupted is three of these steps, the manager's among them. -/
theorem Schedule.refresh {request : Request} {context : Context} {token : String} {c : Claims}
    {answer : Except Failure User} {out : Ending (Except Failure Response)} {asked : Site}
    (schedule : Schedule s events site) (presents : Credential.ofRequest? request = some token)
    (valid : s.maker.verifyAt site.revoked token site.today = .ok c)
    (manager : s.users.get c.subject site = (.done answer, asked))
    (lasting : ∀ id, site.revoked.isRevoked id = true → asked.revoked.isRevoked id = true)
    (ran : s.refresh context request site = (out, site')) :
    Schedule s (events ++ [.began token (.ok c)] ++ [.elsewhere] ++
      [.concluded events.length token out]) site' := by
  have read := s.presented_eq presents site
  rw [valid] at read
  have whole : s.refresh context request site = s.conclude c answer asked := by
    rw [refresh_eq, Act.attempt_ok read]
    exact Act.bind_done manager _
  have prior := (schedule.tail (.begin presents read)).tail (.elsewhere lasting)
  refine prior.tail (.conclude (by simp) ?_ (whole.symm.trans ran))
  intro text ended member
  simp only [List.append_assoc, List.cons_append, List.nil_append, List.mem_append, List.mem_cons,
    reduceCtorEq, List.not_mem_nil, or_false] at member
  obtain ⟨place, found⟩ := List.mem_iff_getElem?.mp member
  obtain ⟨-, c', began⟩ := schedule.kept.started place _ text ended found
  exact absurd (List.getElem?_eq_some_iff.mp began).1 (Nat.lt_irrefl _)

/-- A spent token is refused to every refresh that begins later: one that is answered with a fresh
token had begun before any refresh or logout of its token succeeded. -/
theorem Schedule.renewals_overlap (schedule : Schedule s events site) {token : String}
    {place : Nat} (spent : SpentAt events token place) :
    (∀ (i : Nat) answer, place < i → events[i]? = some (.began token answer) →
      ∃ f, answer = .error f) ∧
    ∀ (later : Nat) start response,
      events[later]? = some (.concluded start token (.done (.ok response))) → start < place := by
  have kept := schedule.kept
  refine ⟨?_, ?_⟩
  · intro i answer after began
    cases answer with
    | error f => exact ⟨f, rfl⟩
    | ok c => exact absurd (kept.early place i token c spent began) (Nat.lt_asymm after)
  · intro later start response concluded
    obtain ⟨-, c, began⟩ := kept.started later start token _ concluded
    exact kept.early place start token c spent began

/-- Two refreshes that have both read a token before either concludes are both answered with a fresh
one. -/
theorem schedule_overlapping (s : SignIn) {request : Request} {token : String} {c : Claims}
    {user : User} (presents : Credential.ofRequest? request = some token)
    (valid : s.maker.verifyAt site.revoked token site.today = .ok c)
    (reaches : ∀ id, ∃ made,
      s.maker.create? id user.username user.id s.lifetime site.today = some made) :
    ∃ response response' site', s.Fresh response ∧ s.Fresh response' ∧
      Schedule s [.began token (.ok c), .began token (.ok c),
        .concluded 0 token (.done (.ok response)), .concluded 1 token (.done (.ok response'))]
        site' := by
  have read := s.presented_eq presents site
  rw [valid] at read
  have start : Schedule s [] site := .refl site
  have both := (start.tail (.begin presents read)).tail (.begin presents read)
  let between : Site :=
    { site with revoked := site.revoked.revoke c.id c.expiresAt, seed := site.seed + 1 }
  obtain ⟨made, issued⟩ := reaches (Uuid.ofSeed site.seed)
  obtain ⟨made', issued'⟩ := reaches (Uuid.ofSeed between.seed)
  obtain ⟨response, fresh, renewed⟩ : ∃ response, s.Fresh response ∧
      s.renew c user site = (.done (.ok response), between) := fresh_renew issued
  obtain ⟨response', fresh', renewed'⟩ : ∃ response, s.Fresh response ∧
      s.renew c user between = (.done (.ok response), _) := fresh_renew issued'
  have answered : known (.ok user) = .ok user := rfl
  have first : Step s [.began token (.ok c), .began token (.ok c)] site
      (.concluded 0 token (.done (.ok response))) between :=
    .conclude rfl (by simp) ((conclude_of_known answered).trans renewed)
  have second : Step s [.began token (.ok c), .began token (.ok c),
      .concluded 0 token (.done (.ok response))] between
      (.concluded 1 token (.done (.ok response'))) _ :=
    .conclude rfl (by simp) ((conclude_of_known answered).trans renewed')
  exact ⟨response, response', _, fresh, fresh', (both.tail first).tail second⟩

/-- A service, a token that it has issued for an hour, and two refreshes of it that overlap. -/
theorem exists_schedule_overlapping :
    ∃ (s : SignIn) (token : String) (c : Claims) (response response' : Response) (site : Site),
      s.Fresh response ∧ s.Fresh response' ∧
        Schedule s [.began token (.ok c), .began token (.ok c),
          .concluded 0 token (.done (.ok response)), .concluded 1 token (.done (.ok response'))]
          site := by
  let s : SignIn := ⟨{ secret := List.replicate 32 0 }, .directory, 3600000000000⟩
  let c : Claims := ⟨⟨1⟩, "ada", "user-1", ⟨0⟩, ⟨3600000000000⟩, none⟩
  let user := User.new "user-1" "ada"
  let token := s.maker.encode c
  let site : Site := {}
  have carries : s.maker.Carries token c := s.maker.carries_encode (by decide) (by decide)
  have valid : s.maker.verifyAt site.revoked token site.today = .ok c :=
    TokenMaker.verifyAt_of_accepted ⟨carries, by decide, nofun, rfl⟩
  have presents : Credential.ofRequest?
      ⟨.post, ⟨"/api/v1/auth/refresh", none⟩, [("authorization", "Bearer " ++ token)], ""⟩ =
        some token :=
    Credential.ofRequest?_bearer (fun _ => s.maker.marks_encode) s.maker.encode_ne_empty _ _ _
  have reaches (id : Uuid) : ∃ made,
      s.maker.create? id user.username user.id s.lifetime site.today = some made := ⟨_, rfl⟩
  obtain ⟨response, response', site, fresh, fresh', schedule⟩ :=
    schedule_overlapping s presents valid reaches
  exact ⟨s, token, c, response, response', site, fresh, fresh', schedule⟩

/-- A token is not spent at most once: the second of two fresh tokens is issued after the first
refresh has succeeded. -/
theorem not_spent_once :
    ¬ ∀ (s : SignIn) (events : List CallEvent) (site : Site), Schedule s events site →
      ∀ (token : String) (place later start : Nat) (response : Response),
        SpentAt events token place → place < later →
          events[later]? = some (.concluded start token (.done (.ok response))) →
            ¬ s.Fresh response := by
  intro once
  obtain ⟨s, token, c, response, response', site, -, fresh, schedule⟩ :=
    exists_schedule_overlapping
  exact once s _ site schedule token 2 3 1 response' ⟨_, rfl, .renewed 0 response⟩ (by decide) rfl
    fresh

theorem Schedule.renewals_overlap_twice :
    ∃ (s : SignIn) (events : List CallEvent) (site : Site) (token : String) (response : Response),
      Schedule s events site ∧ SpentAt events token 2 ∧
        events[3]? = some (.concluded 1 token (.done (.ok response))) ∧ 1 < 2 := by
  obtain ⟨s, token, c, response, response', site, -, -, schedule⟩ := exists_schedule_overlapping
  let events : List CallEvent := [.began token (.ok c), .began token (.ok c),
    .concluded 0 token (.done (.ok response)), .concluded 1 token (.done (.ok response'))]
  have spent : SpentAt events token 2 := ⟨_, rfl, .renewed 0 response⟩
  exact ⟨s, events, site, token, response', schedule, spent, rfl,
    (schedule.renewals_overlap spent).2 3 1 response' rfl⟩

end

end SignIn

end HttpService
