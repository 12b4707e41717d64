import HttpService.Proofs.Identity.Directory
import HttpService.Proofs.Identity.Renewal
import HttpService.Proofs.Message.Envelope
import HttpService.Proofs.Token.Revocation

/-!
# What signing in grants

What the calls of a service that has the site's own directory do to it, and whom the tokens name that
they grant: a login the user whose password it was, and a refresh the user whom the old token names.
-/

namespace HttpService

/-! ## The token in an answer -/

/-- The token among the data of an answer. -/
def Grant.tokenReader : Json.Reader String :=
  Json.Reader.record ["token"] false fun f => f.required "token" Json.Reader.string

/-- The token that an answer grants, as its receiver reads it. -/
def Response.grantedToken? (r : Response) : Option String :=
  match Json.read (Envelope.reader Grant.tokenReader) r.body with
  | .ok ⟨true, some token, _⟩ => some token
  | _ => none

theorem Grant.tokenReader_toJson (level : Nat) (g : Grant) :
    tokenReader (level + 1) g.toJson.document = .ok g.token := by
  have token : Json.known ["token"] [("token", .text g.token), ("token_type", .text "Bearer"),
      ("expires_at", .text g.expiresAt.toString), ("user", g.user.toJson)] =
        [("token", .text g.token)] := by
    simp [Json.known]
  unfold tokenReader toJson
  rw [Json.Reader.record_known level (by simp [token]), token]
  exact Json.Reader.string_text level g.token

theorem grantedToken?_ok (g : Grant) : (Response.ok g.toJson).grantedToken? = some g.token := by
  have data (level : Nat) : Json.Reader.option Grant.tokenReader (level + 1) g.toJson.document =
      .ok (some g.token) := by
    have read : Json.Reader.option Grant.tokenReader (level + 1) g.toJson.document =
        (Grant.tokenReader (level + 1) g.toJson.document).map some :=
      Json.Reader.option_object ..
    rw [read, Grant.tokenReader_toJson]
    rfl
  have read : Json.read (Envelope.reader Grant.tokenReader) (Response.ok g.toJson).body =
      .ok ⟨true, some g.token, none⟩ := by
    change Json.read _ (Response.successBody g.toJson).render = _
    rw [Json.read_render, Json.depthLimit, Envelope.reader, Response.successBody,
      Json.Reader.record_object 126 (by simp) (by simp)]
    simp [Json.Fields.required, Json.Fields.optional, Json.Fields.find?, Json.written,
      Json.Reader.bool_bool, data, bind, Except.bind]
  unfold Response.grantedToken?
  rw [read]

/-! ## Issuing -/

/-- The token is signed and names this user. -/
def TokenMaker.Names (m : TokenMaker) (token : String) (user : User) : Prop :=
  ∃ c, m.Carries token c ∧ m.IssuerFits c ∧ c.subject = user.id ∧ c.username = user.username

theorem TokenMaker.names_of_create? {m : TokenMaker} {id : Uuid} {user : User} {lifetime : Int}
    {now : Instant} {token : String} {claims : Claims} (dated : now.inRange = true)
    (issued : m.create? id user.username user.id lifetime now = some (token, claims)) :
    m.Names token user := by
  have carries := carries_of_create? dated issued
  obtain ⟨rfl, -, -⟩ := create?_eq_some_iff.mp issued
  exact ⟨_, carries, fun _ asked => asked, rfl, rfl⟩

namespace SignIn

section

variable {s : SignIn} {site site' : Site} {request : Request} {context : Context} {user : User}
  {response : Response}

/-- An answer that grants a token grants one that names the user. -/
theorem names_of_grant (dated : site.today.inRange = true)
    (granted : s.grant user site = (.done (.ok response), site')) {token : String}
    (read : response.grantedToken? = some token) : s.maker.Names token user := by
  obtain ⟨text, claims, issued, rfl, -⟩ := grant_ok granted
  obtain rfl := Option.some.inj ((grantedToken?_ok _).symm.trans read)
  exact TokenMaker.names_of_create? dated issued

/-! ## The calls -/

theorem login_ok (own : s.users = .directory)
    (ok : s.login context request site = (.done (.ok response), site')) :
    ∃ form user, Request.jsonBody LoginForm.reader request = .ok form ∧
      site.directory.authenticate form.username form.password = .ok user ∧
      s.grant user site = (.done (.ok response), site') := by
  obtain ⟨form, formed, read, rest⟩ := Act.of_attempt_ok ok
  obtain ⟨given, rfl⟩ := Prod.mk.inj read
  obtain ⟨user, asked, known, granted⟩ := Act.of_attempt_ok rest
  rw [own] at known
  obtain ⟨found, rfl⟩ := Prod.mk.inj known
  exact ⟨form, user, Ending.done.inj given, Ending.done.inj found, granted⟩

theorem login_of_known {form : LoginForm}
    (formed : Request.jsonBody LoginForm.reader request = .ok form)
    (known : s.users.authenticate form.username form.password site = (.done (.ok user), site'))
    (context : Context) : s.login context request site = s.grant user site' := by
  have read : SignIn.form request site = (.done (.ok form), site) := by
    rw [← formed]
    rfl
  exact (Act.attempt_ok read _).trans (Act.attempt_ok known _)

theorem login_eq_grant (own : s.users = .directory) {form : LoginForm}
    (formed : Request.jsonBody LoginForm.reader request = .ok form)
    (proved : site.directory.authenticate form.username form.password = .ok user)
    (context : Context) : s.login context request site = s.grant user site := by
  have found : s.users.authenticate form.username form.password site =
      (.done (.ok user), site) := by
    rw [own, ← proved]
    rfl
  exact login_of_known formed found context

theorem known_eq_ok {answer : Except Failure User} (found : known answer = .ok user) :
    answer = .ok user := by
  cases answer with
  | ok other => exact found
  | error f =>
      unfold known at found
      dsimp only at found
      split at found <;> cases found

theorem refresh_ok (own : s.users = .directory)
    (ok : s.refresh context request site = (.done (.ok response), site')) :
    ∃ token c user, Credential.ofRequest? request = some token ∧
      s.maker.verifyAt site.revoked token site.today = .ok c ∧
      site.directory.get c.subject = .ok user ∧
      s.grant user { site with revoked := site.revoked.revoke c.id c.expiresAt } =
        (.done (.ok response), site') := by
  obtain ⟨c, read, shown, rest⟩ := Act.of_attempt_ok ok
  obtain ⟨user, asked, resolved, renewed⟩ := Act.of_attempt_ok rest
  cases presents : Credential.ofRequest? request with
  | none =>
      unfold presented at shown
      rw [presents] at shown
      cases shown
  | some token =>
      obtain ⟨valid, rfl⟩ := Prod.mk.inj ((s.presented_eq presents site).symm.trans shown)
      rw [resolve_eq, own] at resolved
      obtain ⟨found, rfl⟩ := Prod.mk.inj resolved
      exact ⟨token, c, user, rfl, Ending.done.inj valid, known_eq_ok (Ending.done.inj found),
        renewed⟩

/-- The site has this directory. -/
def HasDirectory (d : Directory) (site : Site) : Prop :=
  site.directory = d

theorem directory_grant (s : SignIn) (user : User) (d : Directory) :
    (s.grant user).Preserves (HasDirectory d) := by
  refine .bind (.bind (fun _ has => has) fun seed => .bind (fun _ has => has) fun today => ?_)
    fun g => .pure _
  split
  · exact .pure _
  · exact .panic _

theorem directory_presented (s : SignIn) (request : Request) (d : Directory) :
    (s.presented request).Preserves (HasDirectory d) := by
  unfold presented
  split
  · exact fun _ has => has
  · exact .pure _

theorem directory_login (own : s.users = .directory) (context : Context) (request : Request)
    (d : Directory) : (s.login context request).Preserves (HasDirectory d) := by
  refine .attempt (.pure _) fun form => .attempt ?_ fun user => s.directory_grant user d
  rw [own]
  exact fun _ has => has

theorem directory_refresh (own : s.users = .directory) (context : Context) (request : Request)
    (d : Directory) : (s.refresh context request).Preserves (HasDirectory d) := by
  refine .attempt (s.directory_presented request d) fun c => .attempt ?_ fun user => ?_
  · rw [resolve_eq, own]
    exact .bind (fun _ has => has) fun answer => .pure _
  · exact .bind (fun _ has => has) fun _ => s.directory_grant user d

theorem directory_logout (s : SignIn) (context : Context) (request : Request) (d : Directory) :
    (s.logout context request).Preserves (HasDirectory d) :=
  .attempt (s.directory_presented request d) fun _ => .bind (fun _ has => has) fun _ => .pure _

/-! ## Registering -/

/-- The next id off the random source belongs to nobody. -/
def Unclaimed (site : Site) : Prop :=
  site.directory.byId? (Uuid.ofSeed site.seed).toString = none

/-- An account with a new name and this password is entered under the next id. -/
structure Entered (site : Site) (password : String) (account : Account) (site' : Site) : Prop where
  after : site' =
    { site with directory := site.directory.enter account, seed := site.seed + 2 }
  drawn : account.user.id = (Uuid.ofSeed site.seed).toString
  plain : account.user.extra = []
  right : Directory.passwordDigest account.salt password = account.digest
  newName : site.directory.ids.find? account.user.username = none

namespace Entered

variable {password : String} {account : Account}

theorem directory (entered : Entered site password account site') :
    site'.directory = site.directory.enter account := by
  rw [entered.after]

theorem admits (entered : Entered site password account site') (unclaimed : Unclaimed site) :
    site.directory.Admits account where
  newId := by
    rw [entered.drawn]
    exact unclaimed
  newName := entered.newName

end Entered

theorem manager_register_cases (username password : String) (roles : RoleSet) (site : Site) :
    (∃ f, site.directory.refusal? username password = some f ∧
      UserManager.register username password roles site = (.done (.error f), site)) ∨
    ∃ account after, Entered site password account after ∧ account.user.username = username ∧
      account.user.roles = roles ∧
      UserManager.register username password roles site = (.done (.ok account.user), after) := by
  unfold UserManager.register Act.update
  obtain ⟨f, refused, failed⟩ | ⟨account, is, right, -, free, entered⟩ :=
    site.directory.register_cases (Uuid.ofSeed site.seed) (Uuid.ofSeed (site.seed + 1)).bytes
      username password roles
  · exact .inl ⟨f, refused, by simp only [failed]⟩
  · refine .inr ⟨account, _, ⟨rfl, ?_, ?_, right, ?_⟩, ?_, ?_, by simp only [entered]⟩
    · rw [is]
    · rw [is]
    · rw [is]
      exact free
    · rw [is]
    · rw [is]

/-- A registration either fails and leaves everything as it was, or enters an ordinary user under the
name that the form gives. -/
theorem register_cases (own : s.users = .directory) (context : Context) (request : Request)
    (site : Site) :
    (∃ f, s.register context request site = (.done (.error f), site) ∧
      ∀ form, Request.jsonBody LoginForm.reader request = .ok form →
        (site.directory.refusal? form.username form.password).isSome = true) ∨
    ∃ form account after, Request.jsonBody LoginForm.reader request = .ok form ∧
      Entered site form.password account after ∧ account.user.username = form.username ∧
      account.user.roles = { user := true } ∧
      s.register context request site = (.done (.ok (.created account.user.toJson)), after) := by
  have read : SignIn.form request site =
      (.done (Request.jsonBody LoginForm.reader request), site) := rfl
  cases formed : Request.jsonBody LoginForm.reader request with
  | error f =>
      rw [formed] at read
      exact .inl ⟨f, Act.attempt_error read _, fun _ same => by cases same⟩
  | ok form =>
      rw [formed] at read
      have ordinary : RoleSet.ofList [.user] = { user := true } := rfl
      have rest : s.register context request site =
          Act.attempt (UserManager.register form.username form.password { user := true })
            (fun user => Act.pure (.ok (Response.created user.toJson))) site := by
        rw [← ordinary]
        have attempted : s.register context request site = _ := Act.attempt_ok read _
        rw [attempted, own]
        rfl
      obtain ⟨f, refused, failed⟩ | ⟨account, after, entered, name, roles, done⟩ :=
        manager_register_cases form.username form.password { user := true } site
      · refine .inl ⟨f, rest.trans (Act.attempt_error failed _), fun other same => ?_⟩
        cases same
        rw [refused]
        rfl
      · exact .inr ⟨form, account, after, rfl, entered, name, roles,
          rest.trans (Act.attempt_ok done _)⟩

/-- A form that the directory does not refuse registers its user. -/
theorem register_of_allowed (own : s.users = .directory) {form : LoginForm}
    (formed : Request.jsonBody LoginForm.reader request = .ok form)
    (allowed : site.directory.refusal? form.username form.password = none) :
    ∃ account after, Entered site form.password account after ∧
      account.user.username = form.username ∧ account.user.roles = { user := true } ∧
      ∀ context, s.register context request site =
        (.done (.ok (.created account.user.toJson)), after) := by
  obtain ⟨f, -, refused⟩ | ⟨form', account, after, read, entered, name, roles, done⟩ :=
    register_cases own (.withSignal 0) request site
  · have some := refused form formed
    rw [allowed] at some
    cases some
  · cases formed.symm.trans read
    exact ⟨account, after, entered, name, roles, fun _ => done⟩

/-- Whatever else the body of a registration says is not looked at. -/
theorem form_of_members {username password : String} {others : List (String × Json)}
    (strange : ∀ m ∈ others, m.1 ≠ "username" ∧ m.1 ≠ "password")
    (body : request.body = (Json.object (("username", .text username) ::
      ("password", .text password) :: others)).render) :
    Request.jsonBody LoginForm.reader request = .ok ⟨username, password⟩ := by
  have full : request.body.isEmpty = false := by
    rw [body, Json.render]
    have start := Json.renderChars_length_pos (Json.legible (.object
      (("username", .text username) :: ("password", .text password) :: others)))
    simpa [String.isEmpty_eq_false_iff] using List.ne_nil_of_length_pos start
  have members : Json.known ["username", "password"] (("username", .text username) ::
      ("password", .text password) :: others) =
        [("username", .text username), ("password", .text password)] := by
    simpa [Json.known] using fun name value member => strange (name, value) member
  have read : Json.read LoginForm.reader request.body = .ok ⟨username, password⟩ := by
    rw [body, Json.read_render, Json.depthLimit, LoginForm.reader,
      Json.Reader.record_known 126 (by simp [members]), members]
    simp [Json.Fields.required, Json.Fields.find?, Json.written, Json.Reader.string_text, bind,
      Except.bind]
  unfold Request.jsonBody
  rw [full, read]
  rfl

end

end SignIn

end HttpService
