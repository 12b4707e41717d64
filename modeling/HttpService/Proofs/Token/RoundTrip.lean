import HttpService.Proofs.Token.Issuing

/-!
# Issued tokens are verified

A token that lasts a number of whole seconds is verified by every maker that has the secret and asks
for no other issuer, whatever algorithm either of them signs with: as the claims that it was issued
with until it expires, and as an expired token from then on.
-/

namespace HttpService

namespace TokenMaker

variable {m v : TokenMaker} {token : String} {p : Claims}

/-- The header of a token names its algorithm, so a verifier needs nothing but the secret. -/
theorem Carries.of_secret (carries : m.Carries token p) (secret : v.secret = m.secret) :
    v.Carries token p := by
  obtain ⟨c, ⟨h, s, header, a, headed, named, code⟩, read⟩ := carries
  exact ⟨c, ⟨h, s, header, a, headed, named, secret ▸ code⟩, read⟩

theorem IssuerFits.of_issuer (fits : m.IssuerFits p)
    (issuer : v.issuer = none ∨ v.issuer = m.issuer) : v.IssuerFits p := by
  intro name asked
  obtain none | same := issuer
  · rw [none] at asked
    cases asked
  · exact fits name (same ▸ asked)

theorem issuerFits_claims (m : TokenMaker) (id : Uuid) (username subject : String) (lifetime : Int)
    (now : Instant) : m.IssuerFits (m.claims id username subject lifetime now) :=
  fun _ asked => asked

/-- A lifetime of whole seconds leaves nothing to round. -/
theorem wholeSeconds_claims (m : TokenMaker) (id : Uuid) (username subject : String) (seconds : Int)
    (now : Instant) :
    let c := m.claims id username subject (seconds * Instant.nanosPerSecond) now
    c.wholeSeconds = c := by
  intro c
  have start : c.issuedAt.floorSecond = c.issuedAt := Instant.floorSecond_seconds now.seconds
  have stop : c.expiresAt = ⟨(now.seconds + seconds) * Instant.nanosPerSecond⟩ :=
    congrArg Instant.mk (Int.add_mul ..).symm
  rw [Claims.wholeSeconds, start, stop, Instant.floorSecond_seconds, ← stop]

/-- What a verifier answers to a token at each time, if the token is not revoked or has expired. -/
structure Verifies (v : TokenMaker) (token : String) (p : Claims) : Prop where
  before : ∀ revoked clock, clock.nanos < p.expiresAt.nanos → revoked.isRevoked p.id = false →
    v.verifyAt revoked token clock = .ok p
  after : ∀ revoked clock, p.expiresAt.nanos ≤ clock.nanos →
    v.verifyAt revoked token clock = .error (.new .expiredToken "token has expired")

theorem Carries.verifies (carries : v.Carries token p) (fits : v.IssuerFits p) :
    v.Verifies token p where
  before _ _ current unlisted := verifyAt_of_accepted ⟨carries, current, fits, unlisted⟩
  after _ _ passed := verifyAt_of_refused (.expired carries passed)

/-- A token for a number of whole seconds whose expiry the calendar reaches is issued, with the
claims that were asked for, and every maker with the same secret and the same issuer or none gives
back these claims until they expire. -/
theorem verifies_created (m v : TokenMaker) (secret : v.secret = m.secret)
    (issuer : v.issuer = none ∨ v.issuer = m.issuer) (id : Uuid) (username subject : String)
    (seconds : Int) (now : Instant) (dated : now.inRange = true)
    (reached : Instant.inRange ⟨now.floorSecond.nanos + seconds * Instant.nanosPerSecond⟩ = true) :
    ∃ token p,
      m.create? id username subject (seconds * Instant.nanosPerSecond) now = some (token, p) ∧
      p = m.claims id username subject (seconds * Instant.nanosPerSecond) now ∧
      v.Verifies token p := by
  let p := m.claims id username subject (seconds * Instant.nanosPerSecond) now
  have issued : m.create? id username subject (seconds * Instant.nanosPerSecond) now =
      some (m.encode p, p) := create?_eq_some_iff.mpr ⟨rfl, reached, rfl⟩
  have carries : m.Carries (m.encode p) p := by
    have carries := carries_of_create? dated issued
    rwa [wholeSeconds_claims] at carries
  have fits := m.issuerFits_claims id username subject (seconds * Instant.nanosPerSecond) now
  exact ⟨_, p, issued, rfl, (carries.of_secret secret).verifies (fits.of_issuer issuer)⟩

/-- A token with an issuer, signed with the longest code, is shown to a maker that asks for no
issuer and signs with the shortest: in its last nanosecond, and at its expiry. -/
theorem verifies_created_for_other_settings :
    ∃ (m v : TokenMaker) (token : String) (p : Claims),
      m.algorithm = .hs512 ∧ m.issuer = some "auth" ∧ v.algorithm = .hs256 ∧ v.issuer = none ∧
      m.create? ⟨1⟩ "ada\n" "user-1" 3600000000000 ⟨-1500000000⟩ = some (token, p) ∧
      p.issuedAt = ⟨-2000000000⟩ ∧ p.username = "ada\n" ∧
      v.verifyAt .empty token ⟨3597999999999⟩ = .ok p ∧
      v.verifyAt .empty token ⟨3598000000000⟩ =
        .error (.new .expiredToken "token has expired") := by
  let secret : List UInt8 := List.replicate 32 7
  let m : TokenMaker := ⟨secret, .hs512, some "auth"⟩
  let v : TokenMaker := ⟨secret, .hs256, none⟩
  obtain ⟨token, p, issued, rfl, verifies⟩ := verifies_created m v rfl (.inl rfl) ⟨1⟩ "ada\n"
    "user-1" 3600 ⟨-1500000000⟩ (by decide) (by decide)
  exact ⟨m, v, token, _, rfl, rfl, rfl, rfl, issued, rfl, rfl,
    verifies.before .empty _ (by decide) rfl, verifies.after .empty _ (by decide)⟩

end TokenMaker

end HttpService
