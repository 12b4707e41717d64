import HttpService.Proofs.Identity.Grants

/-!
# When tokens end

A token says its expiry in whole seconds, and what is announced with it has the fraction of its
lifetime too. So a token ends at the start of the second in which it was announced to end: at the
announced instant itself if the lifetime is a number of whole seconds, and at once if it is less than
a second.
-/

namespace HttpService

namespace Instant

theorem floorSecond_eq_self_iff {t : Instant} : t.floorSecond = t ↔ nanosPerSecond ∣ t.nanos := by
  rw [Int.dvd_iff_emod_eq_zero]
  constructor
  · intro whole
    rw [← whole]
    exact Int.mul_emod_left t.seconds nanosPerSecond
  · intro whole
    exact congrArg mk (Int.ediv_mul_cancel (Int.dvd_of_emod_eq_zero whole))

theorem nanos_sub_floorSecond (t : Instant) :
    t.nanos - t.floorSecond.nanos = t.nanos % nanosPerSecond := by
  simp only [floorSecond, seconds, nanosPerSecond]
  omega

end Instant

namespace TokenMaker

variable {m : TokenMaker} {token : String} {p : Claims} {now : Instant} {lifetime : Int}

/-- The token is refused because it has expired. -/
def Expired (m : TokenMaker) (revoked : RevocationList) (token : String) (now : Instant) : Prop :=
  ∃ f, m.verifyAt revoked token now = .error f ∧ f.code = .expiredToken

/-- The token has expired from this instant on, and never before, whatever is revoked. -/
def ExpiresFrom (m : TokenMaker) (token : String) (t : Instant) : Prop :=
  ∀ revoked now, m.Expired revoked token now ↔ t.nanos ≤ now.nanos

theorem ExpiresFrom.unique {t u : Instant} (one : m.ExpiresFrom token t)
    (other : m.ExpiresFrom token u) : t = u := by
  have later := (other .empty t).mp ((one .empty t).mpr (Int.le_refl _))
  have earlier := (one .empty u).mp ((other .empty u).mpr (Int.le_refl _))
  exact congrArg Instant.mk (Int.le_antisymm earlier later)

/-- A token ends at the expiry that it carries. -/
theorem Carries.expiresFrom (carries : m.Carries token p) : m.ExpiresFrom token p.expiresAt := by
  intro revoked now
  constructor
  · rintro ⟨f, failed, code⟩
    cases refused_of_verifyAt failed with
    | expired carries' passed => exact carries_unique carries carries' ▸ passed
    | shape | header | algorithm | encoding | signature | claims | issuer | revoked => cases code
  · intro passed
    exact ⟨_, verifyAt_of_refused (.expired carries passed), rfl⟩

/-- When a token ends that was issued at an instant for a lifetime, and what is announced of it. -/
structure Ends (m : TokenMaker) (token : String) (issued announced : Instant) (lifetime : Int) :
    Prop where
  total : announced.nanos = issued.nanos + lifetime
  carried : ∃ c, m.Carries token c ∧ c.issuedAt = issued ∧ c.expiresAt = announced.floorSecond
  ended : m.ExpiresFrom token announced.floorSecond
  early : announced.nanos - announced.floorSecond.nanos = lifetime % Instant.nanosPerSecond
  exact : m.ExpiresFrom token announced ↔ Instant.nanosPerSecond ∣ lifetime
  born : ∀ revoked, m.Expired revoked token issued ↔ lifetime < Instant.nanosPerSecond

/-- What the signed claims say in whole seconds settles when the token ends. -/
theorem Carries.ends (carries : m.Carries token p.wholeSeconds) (second : Int)
    (start : p.issuedAt = ⟨second * Instant.nanosPerSecond⟩)
    (total : p.expiresAt.nanos = p.issuedAt.nanos + lifetime) :
    m.Ends token p.issuedAt p.expiresAt lifetime := by
  have ended : m.ExpiresFrom token p.expiresAt.floorSecond := carries.expiresFrom
  have whole : p.issuedAt.floorSecond = p.issuedAt := by rw [start, Instant.floorSecond_seconds]
  have seconds : p.issuedAt.nanos = second * Instant.nanosPerSecond := congrArg Instant.nanos start
  have early : p.expiresAt.nanos - p.expiresAt.floorSecond.nanos =
      lifetime % Instant.nanosPerSecond := by
    rw [p.expiresAt.nanos_sub_floorSecond, total, seconds, Int.add_comm,
      Int.add_mul_emod_self_right]
  have real : p.expiresAt.floorSecond = p.expiresAt ↔ Instant.nanosPerSecond ∣ lifetime := by
    rw [Instant.floorSecond_eq_self_iff, total, seconds]
    exact Int.dvd_add_right (Int.dvd_mul_left _ _)
  refine ⟨total, ⟨_, carries, whole, rfl⟩, ended, early, ?_, fun revoked => ?_⟩
  · rw [← real]
    exact ⟨ended.unique, fun same => same ▸ ended⟩
  · rw [ended revoked p.issuedAt]
    unfold Instant.nanosPerSecond at *
    omega

/-- Whatever the lifetime, an issued token carries the second of its announced expiry. -/
theorem ends_of_create? {id : Uuid} {username subject : String} (dated : now.inRange = true)
    (issued : m.create? id username subject lifetime now = some (token, p)) :
    p.issuedAt = now.floorSecond ∧ m.Ends token p.issuedAt p.expiresAt lifetime := by
  have carries := carries_of_create? dated issued
  obtain ⟨rfl, -, rfl⟩ := create?_eq_some_iff.mp issued
  exact ⟨rfl, carries.ends now.seconds rfl rfl⟩

end TokenMaker

namespace UserManager

/-- A manager that knows one user, and takes anybody for that user. -/
def trusting (user : User) : UserManager where
  get _ := Act.pure (.ok user)
  authenticate _ _ := Act.pure (.ok user)
  create _ _ _ := Act.pure (.ok user)

end UserManager

namespace SignIn

variable {s : SignIn} {site site' : Site} {request : Request} {context : Context}
  {response : Response}

theorem grant_of_login (ok : s.login context request site = (.done (.ok response), site')) :
    ∃ user t, s.grant user t = (.done (.ok response), site') := by
  obtain ⟨form, t, -, rest⟩ := Act.of_attempt_ok ok
  obtain ⟨user, t', -, granted⟩ := Act.of_attempt_ok rest
  exact ⟨user, t', granted⟩

theorem grant_of_refresh (ok : s.refresh context request site = (.done (.ok response), site')) :
    ∃ user t, s.grant user t = (.done (.ok response), site') := by
  obtain ⟨c, t, -, rest⟩ := Act.of_attempt_ok ok
  obtain ⟨user, t', -, renewed⟩ := Act.of_attempt_ok rest
  exact ⟨user, { t' with revoked := t'.revoked.revoke c.id c.expiresAt }, renewed⟩

theorem ends_of_grant {user : User} (dated : site'.today.inRange = true)
    (granted : s.grant user site = (.done (.ok response), site')) :
    ∃ g : Grant, response = .ok g.toJson ∧
      s.maker.Ends g.token site'.today.floorSecond g.expiresAt s.lifetime := by
  obtain ⟨token, claims, issued, rfl, rfl⟩ := grant_ok granted
  obtain ⟨start, ends⟩ := TokenMaker.ends_of_create? dated issued
  exact ⟨⟨token, claims.expiresAt, user⟩, rfl, start ▸ ends⟩

/-- For any lifetime, and at any time of the calendar, what is announced with a token is the second of
its issue and the lifetime after it, and the token ends at the start of the second in which this
lies. So the two are the same if and only if the lifetime is a number of whole seconds, and the token
has expired when it is issued if and only if the lifetime is less than a second. -/
theorem expiry_exact (s : SignIn) :
    (∀ id username subject now token p, now.inRange = true →
      s.maker.create? id username subject s.lifetime now = some (token, p) →
        p.issuedAt = now.floorSecond ∧
          s.maker.Ends token p.issuedAt p.expiresAt s.lifetime) ∧
    ∀ context request site site' response, site'.today.inRange = true →
      (s.login context request site = (.done (.ok response), site') ∨
        s.refresh context request site = (.done (.ok response), site')) →
      ∃ g : Grant, response = .ok g.toJson ∧
        s.maker.Ends g.token site'.today.floorSecond g.expiresAt s.lifetime := by
  constructor
  · intro id username subject now token p dated issued
    exact TokenMaker.ends_of_create? dated issued
  · rintro context request site site' response dated (ok | ok)
    · obtain ⟨user, t, granted⟩ := grant_of_login ok
      exact ends_of_grant dated granted
    · obtain ⟨user, t, granted⟩ := grant_of_refresh ok
      exact ends_of_grant dated granted

/-- A token for a second and a half ends after a second, both when it is made on its own and when it
is granted to a user who logs in. -/
theorem expiry_exact_second_and_half :
    let maker : TokenMaker := { secret := List.replicate 32 0 }
    let s : SignIn := ⟨maker, .trusting (.new "1" "ada"), 1500000000⟩
    (∃ token p, maker.create? ⟨1⟩ "ada" "1" 1500000000 ⟨1999999999⟩ = some (token, p) ∧
      p.issuedAt = ⟨1000000000⟩ ∧ p.expiresAt = ⟨2500000000⟩ ∧
      maker.ExpiresFrom token ⟨2000000000⟩ ∧ ¬ maker.Expired .empty token p.issuedAt) ∧
    ∃ (request : Request) (site : Site) (g : Grant),
      s.login (.withSignal 0) request {} = (.done (.ok (.ok g.toJson)), site) ∧
      g.expiresAt = ⟨1500000000⟩ ∧ maker.ExpiresFrom g.token ⟨1000000000⟩ := by
  intro maker s
  obtain ⟨created, granted⟩ := expiry_exact s
  constructor
  · let p := maker.claims ⟨1⟩ "ada" "1" 1500000000 ⟨1999999999⟩
    have issued : maker.create? ⟨1⟩ "ada" "1" 1500000000 ⟨1999999999⟩ = some (maker.encode p, p) :=
      TokenMaker.create?_eq_some_iff.mpr ⟨rfl, by decide, rfl⟩
    obtain ⟨-, ends⟩ := created _ _ _ _ _ _ (by decide) issued
    exact ⟨_, p, issued, rfl, rfl, ends.ended, fun expired => absurd ((ends.born _).mp expired)
      (by decide)⟩
  · let request : Request :=
      ⟨.post, ⟨"/api/v1/auth/login", none⟩, [], (LoginForm.toJson ⟨"ada", "secret"⟩).render⟩
    let user : User := .new "1" "ada"
    have formed : Request.jsonBody LoginForm.reader request = .ok ⟨"ada", "secret"⟩ :=
      form_of_members (List.forall_mem_nil _) rfl
    have known : s.users.authenticate "ada" "secret" {} = (.done (.ok user), {}) := rfl
    have issued : maker.create? (Uuid.ofSeed 0) user.username user.id s.lifetime ⟨0⟩ = some (_, _) :=
      TokenMaker.create?_eq_some_iff.mpr ⟨rfl, by decide, rfl⟩
    have answered : s.login (.withSignal 0) request {} = _ :=
      (login_of_known formed known _).trans (grant_of_create? issued)
    obtain ⟨g, same, ends⟩ := granted _ _ _ _ _ (by decide) (.inl answered)
    have announced : g.expiresAt = ⟨1500000000⟩ := congrArg Instant.mk ends.total
    have ended := ends.ended
    rw [announced] at ended
    exact ⟨request, _, g, same ▸ answered, announced, ended⟩

/-- So a token need not last until the instant that is announced, and may have expired when it is
issued although its lifetime is positive. -/
theorem not_always_at_announced :
    (¬ ∀ (m : TokenMaker) (id : Uuid) (username subject : String) (lifetime : Int) (now : Instant)
        (token : String) (p : Claims), now.inRange = true →
      m.create? id username subject lifetime now = some (token, p) →
        m.ExpiresFrom token p.expiresAt) ∧
    ¬ ∀ (m : TokenMaker) (id : Uuid) (username subject : String) (lifetime : Int) (now : Instant)
        (token : String) (p : Claims), now.inRange = true → 0 < lifetime →
      m.create? id username subject lifetime now = some (token, p) →
        ¬ m.Expired .empty token p.issuedAt := by
  let m : TokenMaker := { secret := List.replicate 32 0 }
  have issued (lifetime : Int) (reached : Instant.inRange ⟨lifetime⟩ = true) :
      m.create? ⟨1⟩ "ada" "1" lifetime ⟨0⟩ =
        some (m.encode (m.claims ⟨1⟩ "ada" "1" lifetime ⟨0⟩),
          m.claims ⟨1⟩ "ada" "1" lifetime ⟨0⟩) := by
    refine TokenMaker.create?_eq_some_iff.mpr ⟨rfl, ?_, rfl⟩
    change Instant.inRange ⟨0 + lifetime⟩ = true
    rwa [Int.zero_add]
  constructor
  · intro always
    have half := issued 1500000000 (by decide)
    obtain ⟨-, ends⟩ := TokenMaker.ends_of_create? (by decide) half
    have whole := ends.exact.mp (always _ _ _ _ _ _ _ _ (by decide) half)
    exact absurd whole (by decide)
  · intro never
    have half := issued 500000000 (by decide)
    obtain ⟨-, ends⟩ := TokenMaker.ends_of_create? (by decide) half
    exact never _ _ _ _ _ _ _ _ (by decide) (by decide) half ((ends.born _).mpr (by decide))

end SignIn

end HttpService
