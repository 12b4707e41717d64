import HttpService.Proofs.Identity.Grants
import HttpService.Settings.Conversion

/-!
# How long tokens last

The minutes of valid settings become a lifetime, and the lifetime an expiry in the calendar. Valid
settings say only that there are minutes: a lifetime exists unless the minutes are too many to be
counted in milliseconds and yet too few to be cut down, and a token can be issued as long as the
calendar reaches its expiry.
-/

namespace HttpService

/-! ## From minutes to a lifetime -/

namespace AuthSettings

variable {s : AuthSettings} {lifetime : Int}

theorem tokenExpirationMinutes_pos (valid : s.validate = .ok ()) :
    0 < s.tokenExpirationMinutes := by
  unfold validate at valid
  cases secret : s.tokenSecret <;>
    simp only [secret, rule_seq_eq_ok, positive_eq_ok] at valid <;> exact valid.2.1

/-- Minutes that do not fit are cut down, and these are too few for that. -/
theorem lifetime?_eq_none_iff : s.lifetime? = none ↔
    minutesBound < s.tokenExpirationMinutes ∧ s.tokenExpirationMinutes < Nat.pow 2 63 := by
  simp only [lifetime?, lifetimeMinutes?, countedMinutes, Option.map_eq_none_iff]
  split <;> simp_all

/-- Valid settings give a lifetime of a minute at least. -/
theorem minute_le_lifetime (valid : s.validate = .ok ()) (lasts : s.lifetime? = some lifetime) :
    60 * Instant.nanosPerSecond ≤ lifetime := by
  have pos := tokenExpirationMinutes_pos valid
  have counted : 0 < s.countedMinutes := by
    unfold countedMinutes
    split
    · exact pos
    · decide
  obtain ⟨minutes, among, rfl⟩ := Option.map_eq_some_iff.mp lasts
  obtain ⟨-, same⟩ := Option.ite_none_right_eq_some.mp among
  obtain rfl := Option.some.inj same
  unfold Instant.nanosPerSecond
  omega

end AuthSettings

/-! ## From a lifetime to an expiry -/

/-- The calendar ends before a token that is issued now would expire. -/
def Instant.Overruns (now : Instant) (lifetime : Int) : Prop :=
  last.nanos < now.floorSecond.nanos + lifetime

section

variable {lifetime : Int} {now : Instant}

theorem Instant.add?_floorSecond (dated : now.inRange = true) (long : 0 ≤ lifetime) :
    now.floorSecond.add? lifetime = none ↔ now.Overruns lifetime := by
  have start := inRange_floorSecond dated
  simp only [inRange, Bool.and_eq_true, decide_eq_true_eq] at start
  simp only [add?, Overruns, inRange, Bool.and_eq_true, decide_eq_true_eq, ite_eq_right_iff,
    reduceCtorEq, imp_false]
  omega

/-- A token can be issued unless the calendar ends before its expiry. -/
theorem TokenMaker.create?_eq_none_iff (m : TokenMaker) (id : Uuid) (username subject : String)
    (dated : now.inRange = true) (long : 0 ≤ lifetime) :
    m.create? id username subject lifetime now = none ↔ now.Overruns lifetime := by
  rw [← Instant.add?_floorSecond dated long]
  unfold create? claimsFor?
  cases reached : now.floorSecond.add? lifetime <;> simp [reached]

theorem TokenMaker.expiry_of_create? {m : TokenMaker} {id : Uuid} {username subject token : String}
    {c : Claims} (issued : m.create? id username subject lifetime now = some (token, c)) :
    c.expiresAt.nanos = now.floorSecond.nanos + lifetime := by
  obtain ⟨rfl, -, -⟩ := create?_eq_some_iff.mp issued
  rfl

/-- A token that is good for a second or more is not expired when it is issued. -/
theorem Claims.not_expiredAt {c : Claims} (long : Instant.nanosPerSecond ≤ lifetime)
    (expiry : c.expiresAt.nanos = now.floorSecond.nanos + lifetime) : c.expiredAt now = false := by
  simp only [expiredAt, Instant.le, expiry, Instant.floorSecond, Instant.seconds,
    decide_eq_false_iff_not]
  unfold Instant.nanosPerSecond at *
  omega

end

/-! ## Signing in -/

/-- A manager that does not panic and does not take the calendar beyond its bounds. -/
structure UserManager.Calm (u : UserManager) : Prop where
  authenticates : ∀ name password site, ¬ (u.authenticate name password).Panics site
  gets : ∀ id site, ¬ (u.get id).Panics site
  authenticateDated : ∀ name password,
    Act.Preserves (fun site => site.today.inRange = true) (u.authenticate name password)
  getDated : ∀ id, Act.Preserves (fun site => site.today.inRange = true) (u.get id)

theorem UserManager.calm_directory : UserManager.directory.Calm where
  authenticates _ _ _ := fun ⟨_, panicked⟩ => nomatch panicked
  gets _ _ := fun ⟨_, panicked⟩ => nomatch panicked
  authenticateDated _ _ _ dated := dated
  getDated _ _ dated := dated

namespace SignIn

variable {s : SignIn} {c : Claims} {user : User} {request : Request} {context : Context}
  {site site' : Site}

theorem panics_grant_iff (dated : site.today.inRange = true) (long : 0 ≤ s.lifetime) :
    (s.grant user).Panics site ↔ site.today.Overruns s.lifetime := by
  rw [← s.maker.create?_eq_none_iff (Uuid.ofSeed site.seed) user.username user.id dated long]
  have issued := s.issue_eq user site
  cases made : s.maker.create? (Uuid.ofSeed site.seed) user.username user.id s.lifetime
      site.today with
  | none =>
      rw [made] at issued
      have panicked : s.grant user site = _ := Act.bind_panicked issued _
      simp [Act.Panics, panicked]
  | some made =>
      have granted := grant_of_create? made
      simp [Act.Panics, granted]

/-- The request proves who a user is, and the manager has said so when the site is this one. -/
def LogsIn (s : SignIn) (request : Request) (site site' : Site) : Prop :=
  ∃ form user, Request.jsonBody LoginForm.reader request = .ok form ∧
    s.users.authenticate form.username form.password site = (.done (.ok user), site')

/-- The request presents a valid token of a user whom the manager knows. -/
def Renews (s : SignIn) (request : Request) (site site' : Site) : Prop :=
  ∃ token c user, Credential.ofRequest? request = some token ∧
    s.maker.verifyAt site.revoked token site.today = .ok c ∧
    s.users.get c.subject site = (.done (.ok user), site')

theorem presented_of_none (absent : Credential.ofRequest? request = none) (site : Site) :
    s.presented request site = (.done (.error missingToken), site) := by
  unfold presented
  rw [absent]
  rfl

theorem presented_ok_iff : s.presented request site = (.done (.ok c), site') ↔
    site' = site ∧ ∃ token, Credential.ofRequest? request = some token ∧
      s.maker.verifyAt site.revoked token site.today = .ok c := by
  cases presents : Credential.ofRequest? request with
  | none => simp [presented_of_none presents]
  | some token =>
      rw [s.presented_eq presents site]
      simp [eq_comm, and_comm]

theorem not_panics_presented : ¬ (s.presented request).Panics site := by
  rintro ⟨p, panicked⟩
  cases presents : Credential.ofRequest? request with
  | none =>
      rw [presented_of_none presents] at panicked
      cases panicked
  | some token =>
      rw [s.presented_eq presents site] at panicked
      cases panicked

theorem resolve_ok_iff : s.resolve c site = (.done (.ok user), site') ↔
    s.users.get c.subject site = (.done (.ok user), site') := by
  rw [resolve_eq]
  change (s.users.get c.subject >>= _) site = _ ↔ _
  cases asked : s.users.get c.subject site with
  | mk ending t =>
      cases ending with
      | done answer =>
          rw [Act.bind_done asked]
          constructor
          · intro resolved
            obtain ⟨found, rfl⟩ := Prod.mk.inj resolved
            rw [known_eq_ok (Ending.done.inj found)]
          · intro found
            obtain ⟨given, rfl⟩ := Prod.mk.inj found
            rw [Ending.done.inj given]
            rfl
      | panicked p => simp [Act.bind_panicked asked]
      | dropped => simp [Act.bind_dropped asked]

theorem not_panics_resolve (calm : s.users.Calm) : ¬ (s.resolve c).Panics site := by
  rw [resolve_eq]
  intro panics
  rcases Act.panics_bind_iff.mp panics with first | ⟨answer, t, -, rest⟩
  · exact calm.gets _ _ first
  · exact Act.not_panics_pure _ t rest

section

variable (calm : s.users.Calm) (dated : site.today.inRange = true) (long : 0 ≤ s.lifetime)

include calm dated long

/-- A login panics exactly if it comes to issue a token that the calendar does not see expire. -/
theorem panics_login_iff : (s.login context request).Panics site ↔
    ∃ site', s.LogsIn request site site' ∧ site'.today.Overruns s.lifetime := by
  have after {form : LoginForm} {user : User} {t : Site}
      (proved : s.users.authenticate form.username form.password site = (.done (.ok user), t)) :
      (s.grant user).Panics t ↔ t.today.Overruns s.lifetime := by
    have dated' := calm.authenticateDated form.username form.password site dated
    rw [proved] at dated'
    exact panics_grant_iff dated' long
  constructor
  · intro panics
    rcases Act.panics_attempt_iff.mp panics with first | ⟨form, t, read, rest⟩
    · exact absurd first (Act.not_panics_pure _ site)
    obtain ⟨given, rfl⟩ := Prod.mk.inj read
    rcases Act.panics_attempt_iff.mp rest with first | ⟨user, t, proved, rest⟩
    · exact absurd first (calm.authenticates _ _ _)
    exact ⟨t, ⟨form, user, Ending.done.inj given, proved⟩, (after proved).mp rest⟩
  · rintro ⟨t, ⟨form, user, read, proved⟩, overruns⟩
    have given : SignIn.form request site = (.done (.ok form), site) := by
      rw [← read]
      rfl
    exact Act.panics_attempt_iff.mpr (.inr ⟨form, site, given,
      Act.panics_attempt_iff.mpr (.inr ⟨user, t, proved, (after proved).mpr overruns⟩)⟩)

theorem panics_refresh_iff : (s.refresh context request).Panics site ↔
    ∃ site', s.Renews request site site' ∧ site'.today.Overruns s.lifetime := by
  -- The token is taken back before the fresh one is issued, which leaves the calendar alone.
  have after {c : Claims} {user : User} {t : Site}
      (found : s.users.get c.subject site = (.done (.ok user), t)) :
      (s.renew c user).Panics t ↔ t.today.Overruns s.lifetime := by
    have dated' := calm.getDated c.subject site dated
    rw [found] at dated'
    let revoked : Site := { t with revoked := t.revoked.revoke c.id c.expiresAt }
    have issues : (s.grant user).Panics revoked ↔ revoked.today.Overruns s.lifetime :=
      panics_grant_iff dated' long
    exact issues
  constructor
  · intro panics
    rcases Act.panics_attempt_iff.mp panics with first | ⟨c, t, shown, rest⟩
    · exact absurd first not_panics_presented
    obtain ⟨rfl, token, presents, valid⟩ := presented_ok_iff.mp shown
    rcases Act.panics_attempt_iff.mp rest with first | ⟨user, t, resolved, rest⟩
    · exact absurd first (not_panics_resolve calm)
    have found := resolve_ok_iff.mp resolved
    exact ⟨t, ⟨token, c, user, presents, valid, found⟩, (after found).mp rest⟩
  · rintro ⟨t, ⟨token, c, user, presents, valid, found⟩, overruns⟩
    have shown := presented_ok_iff.mpr ⟨rfl, token, presents, valid⟩
    have resolved := resolve_ok_iff.mpr found
    exact Act.panics_attempt_iff.mpr (.inr ⟨c, site, shown,
      Act.panics_attempt_iff.mpr (.inr ⟨user, t, resolved, (after found).mpr overruns⟩)⟩)

end

end SignIn

/-! ## What valid settings promise -/

namespace Settings

/-- Valid settings give a lifetime unless their minutes lie in the band that is neither counted nor
cut down. With the lifetime, a token is issued, with its expiry ahead, unless the calendar ends
before; and a login or a refresh panics only when it has come to issue a token and the calendar
ends before its expiry. -/
theorem issuing_exact {t : Settings} {filters : FilterReader}
    (valid : t.validate filters = .ok ()) :
    (t.auth.lifetime? = none ↔ AuthSettings.minutesBound < t.auth.tokenExpirationMinutes ∧
      t.auth.tokenExpirationMinutes < Nat.pow 2 63) ∧
    ∀ lifetime, t.auth.lifetime? = some lifetime →
      (∀ (m : TokenMaker) (id : Uuid) (username subject : String) (now : Instant),
        now.inRange = true →
          (m.create? id username subject lifetime now = none ↔ now.Overruns lifetime) ∧
          ∀ token c, m.create? id username subject lifetime now = some (token, c) →
            c.expiresAt.nanos = now.floorSecond.nanos + lifetime ∧ c.expiredAt now = false) ∧
      ∀ (s : SignIn) (context : Context) (request : Request) (site : Site),
        s.lifetime = lifetime → s.users.Calm → site.today.inRange = true →
          ((s.login context request).Panics site ↔
            ∃ site', s.LogsIn request site site' ∧ site'.today.Overruns lifetime) ∧
          ((s.refresh context request).Panics site ↔
            ∃ site', s.Renews request site site' ∧ site'.today.Overruns lifetime) := by
  obtain ⟨-, auth, -⟩ := validate_eq_ok.mp valid
  refine ⟨AuthSettings.lifetime?_eq_none_iff, fun lifetime lasts => ?_⟩
  have minute := AuthSettings.minute_le_lifetime auth lasts
  have second : Instant.nanosPerSecond ≤ lifetime := by
    unfold Instant.nanosPerSecond at *
    omega
  have long : 0 ≤ lifetime := Int.le_trans (by decide) second
  constructor
  · intro m id username subject now dated
    refine ⟨m.create?_eq_none_iff id username subject dated long, fun token c issued => ?_⟩
    have expiry := TokenMaker.expiry_of_create? issued
    exact ⟨expiry, Claims.not_expiredAt second expiry⟩
  · rintro s context request site rfl calm dated
    exact ⟨SignIn.panics_login_iff calm dated long, SignIn.panics_refresh_iff calm dated long⟩

/-- An hour is counted and reached: at the start of 1970 no login panics. -/
theorem issuing_exact_hour :
    ({} : Settings).validate .levels = .ok () ∧
    ({} : Settings).auth.lifetime? = some (3600 * Instant.nanosPerSecond) ∧
    (∀ (m : TokenMaker) (id : Uuid),
      m.create? id "ada" "1" (3600 * Instant.nanosPerSecond) ⟨0⟩ ≠ none) ∧
    ∀ (m : TokenMaker) (context : Context) (request : Request),
      ¬ (SignIn.login { maker := m, users := .directory } context request).Panics {} := by
  have valid : ({} : Settings).validate .levels = .ok () :=
    validate_eq_ok.mpr ⟨rfl, rfl, rfl, rfl, rfl⟩
  have lasts : ({} : Settings).auth.lifetime? = some (3600 * Instant.nanosPerSecond) := by
    decide +kernel
  have reached : ¬ Instant.Overruns ⟨0⟩ (3600 * Instant.nanosPerSecond) := by
    unfold Instant.Overruns
    decide +kernel
  obtain ⟨-, exact⟩ := issuing_exact valid
  obtain ⟨issuing, signing⟩ := exact _ lasts
  refine ⟨valid, lasts, fun m id none => ?_, fun m context request panics => ?_⟩
  · exact reached ((issuing m id "ada" "1" ⟨0⟩ (by decide +kernel)).1.mp none)
  · obtain ⟨site', ⟨form, user, -, proved⟩, overruns⟩ :=
      (signing { maker := m, users := .directory } context request {} rfl
        UserManager.calm_directory (by decide +kernel)).1.mp panics
    obtain ⟨-, rfl⟩ := Prod.mk.inj proved
    exact reached overruns

/-- One minute more than can be counted, and minutes whose lifetime the calendar does not reach,
whatever filters there are beside the names of levels. -/
theorem not_always_issuing :
    (¬ ∃ filters : FilterReader, filters.KnowsLevels ∧
      ∀ t : Settings, t.validate filters = .ok () → t.auth.lifetime?.isSome = true) ∧
    ¬ ∃ filters : FilterReader, filters.KnowsLevels ∧
      ∀ (t : Settings) (lifetime : Int), t.validate filters = .ok () →
        t.auth.lifetime? = some lifetime →
        ∀ (m : TokenMaker) (id : Uuid) (username subject : String) (now : Instant),
          now.inRange = true → (m.create? id username subject lifetime now).isSome = true := by
  constructor
  · rintro ⟨filters, knows, always⟩
    have logging := LoggingSettings.validate_standard knows
    have counted := always { auth := { tokenExpirationMinutes := 153722867280913 } }
      (validate_eq_ok.mpr ⟨rfl, rfl, rfl, rfl, logging⟩)
    cases counted
  · rintro ⟨filters, knows, always⟩
    have logging := LoggingSettings.validate_standard knows
    let secret := Text.utf8 "0123456789abcdef0123456789abcdef"
    have issued := always { auth := { tokenExpirationMinutes := 200000000000 } }
      (200000000000 * 60 * Instant.nanosPerSecond)
      (validate_eq_ok.mpr ⟨rfl, rfl, rfl, rfl, logging⟩) (by decide +kernel)
      { secret := secret } (Uuid.ofSeed 0) "ada" "1" ⟨0⟩ (by decide +kernel)
    have overruns : Instant.Overruns ⟨0⟩ (200000000000 * 60 * Instant.nanosPerSecond) := by
      unfold Instant.Overruns
      decide +kernel
    rw [(TokenMaker.create?_eq_none_iff _ _ _ _ (by decide +kernel) (by decide)).mpr overruns]
      at issued
    cases issued

end Settings

end HttpService
