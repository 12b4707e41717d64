import HttpService.Proofs.Concat
import HttpService.Proofs.Token.Issuing

/-!
# Revocation is permanent

Any number of makers share one list of revoked tokens, which may be purged at any time. The list is
purged at the very instant from which a token is refused as expired, and the expiry that is kept for
a token is never before the one it carries, so a revoked token is never valid again.
-/

namespace HttpService

/-- What happens to the tokens of makers that share a list of revoked tokens. -/
inductive TokenEvent
  | created (token : String) (payload : Claims)
  | verified (m : TokenMaker) (token : String) (now : Instant) (answer : Except Failure Claims)
  | revoked (token : String) (payload : Claims)
  | purged (now : Instant)

/-- A payload that was given out for a token, on its creation or on a verification. -/
inductive Handed (events : List TokenEvent) (token : String) (p : Claims) : Prop
  | created (event : .created token p ∈ events)
  | verified (m : TokenMaker) (now : Instant) (event : .verified m token now (.ok p) ∈ events)

/-- The events of a run, with the list and the clock that it ends with. A token is revoked by a
payload that was given out for it; the clock does not go back. -/
inductive TokenRun : List TokenEvent → RevocationList → Instant → Prop
  | start (clock : Instant) : TokenRun [] .empty clock
  | create {events : List TokenEvent} {l : RevocationList} {clock now : Instant} {m : TokenMaker}
      {id : Uuid} {username subject token : String} {lifetime : Int} {p : Claims}
      (run : TokenRun events l clock) (later : clock.nanos ≤ now.nanos)
      (issued : m.create? id username subject lifetime now = some (token, p)) :
      TokenRun (events ++ [.created token p]) l now
  | verify {events : List TokenEvent} {l : RevocationList} {clock now : Instant}
      (m : TokenMaker) (token : String) (run : TokenRun events l clock)
      (later : clock.nanos ≤ now.nanos) :
      TokenRun (events ++ [.verified m token now (m.verifyAt l token now)]) l now
  | revoke {events : List TokenEvent} {l : RevocationList} {clock : Instant} {token : String}
      {p : Claims} (run : TokenRun events l clock) (handed : Handed events token p) :
      TokenRun (events ++ [.revoked token p]) (l.revoke p.id p.expiresAt) clock
  | purge {events : List TokenEvent} {l : RevocationList} {clock now : Instant}
      (run : TokenRun events l clock) (later : clock.nanos ≤ now.nanos) :
      TokenRun (events ++ [.purged now]) (l.purge now) now

/-- A token of a run and its id: one that was created, or one with a good signature that a maker
was asked about. -/
inductive Bears (events : List TokenEvent) (token : String) : Uuid → Prop
  | created {p : Claims} (event : .created token p ∈ events) : Bears events token p.id
  | shown {m : TokenMaker} {now : Instant} {answer : Except Failure Claims} {p : Claims}
      (event : .verified m token now answer ∈ events) (carries : m.Carries token p) :
      Bears events token p.id

/-- No two tokens of a run have one id. -/
def DistinctIds (events : List TokenEvent) : Prop :=
  ∀ token other id, Bears events token id → Bears events other id → token = other

theorem Bears.append {events : List TokenEvent} {token : String} {id : Uuid}
    (bears : Bears events token id) (more : List TokenEvent) : Bears (events ++ more) token id := by
  cases bears with
  | created event => exact .created (List.mem_append_left more event)
  | shown event carries => exact .shown (List.mem_append_left more event) carries

theorem DistinctIds.of_append {events more : List TokenEvent}
    (distinct : DistinctIds (events ++ more)) : DistinctIds events :=
  fun token other id bears others =>
    distinct token other id (bears.append more) (others.append more)

theorem Handed.append {events : List TokenEvent} {token : String} {p : Claims}
    (handed : Handed events token p) (more : List TokenEvent) :
    Handed (events ++ more) token p := by
  cases handed with
  | created event => exact .created (List.mem_append_left more event)
  | verified m now event => exact .verified m now (List.mem_append_left more event)

/-! ## What stands behind each event -/

/-- Created tokens are encoded payloads, verified payloads are carried by their tokens, and revoked
payloads were given out. -/
structure Backed (events : List TokenEvent) : Prop where
  created : ∀ token p, .created token p ∈ events → ∃ m : TokenMaker, token = m.encode p
  verified : ∀ m token now p, .verified m token now (.ok p) ∈ events → m.Carries token p
  revoked : ∀ token p, .revoked token p ∈ events → Handed events token p

/-- A new event is backed by itself, and the others stay backed. -/
theorem Backed.concat {events : List TokenEvent} {e : TokenEvent} (backed : Backed events)
    (created : ∀ token p, e = .created token p → ∃ m : TokenMaker, token = m.encode p)
    (verified : ∀ m token now p, e = .verified m token now (.ok p) → m.Carries token p)
    (revoked : ∀ token p, e = .revoked token p → Handed events token p) :
    Backed (events ++ [e]) where
  created token p event := by
    obtain old | new := List.mem_append.mp event
    · exact backed.created token p old
    · exact created token p (List.mem_singleton.mp new).symm
  verified m token now p event := by
    obtain old | new := List.mem_append.mp event
    · exact backed.verified m token now p old
    · exact verified m token now p (List.mem_singleton.mp new).symm
  revoked token p event := by
    obtain old | new := List.mem_append.mp event
    · exact (backed.revoked token p old).append [e]
    · exact (revoked token p (List.mem_singleton.mp new).symm).append [e]

theorem TokenRun.backed {events : List TokenEvent} {l : RevocationList} {clock : Instant}
    (run : TokenRun events l clock) : Backed events := by
  induction run with
  | start clock =>
      exact ⟨fun _ _ event => absurd event List.not_mem_nil,
        fun _ _ _ _ event => absurd event List.not_mem_nil,
        fun _ _ event => absurd event List.not_mem_nil⟩
  | @create events l clock now m id username subject token lifetime p run later issued ih =>
      refine ih.concat ?_ (by simp) (by simp)
      rintro token' p' ⟨⟩
      exact ⟨m, (TokenMaker.create?_eq_some_iff.mp issued).2.2⟩
  | @verify events l clock now m token run later ih =>
      refine ih.concat (by simp) ?_ (by simp)
      rintro m' token' now' p same
      injection same with maker text time answer
      subst maker text
      exact (TokenMaker.accepted_of_verifyAt answer).carries
  | revoke run handed ih =>
      refine ih.concat (by simp) (by simp) ?_
      rintro token' p' ⟨⟩
      exact handed
  | purge run later ih => exact ih.concat (by simp) (by simp) (by simp)

theorem Handed.bears {events : List TokenEvent} {token : String} {p : Claims}
    (backed : Backed events) (handed : Handed events token p) : Bears events token p.id := by
  cases handed with
  | created event => exact .created event
  | verified m now event => exact .shown event (backed.verified m token now p event)

/-- A payload that was given out has its token's id, and an expiry not before the token's. -/
theorem Handed.covers {events : List TokenEvent} {token : String} {m : TokenMaker} {p q : Claims}
    (backed : Backed events) (handed : Handed events token p) (carries : m.Carries token q) :
    q.id = p.id ∧ q.expiresAt.nanos ≤ p.expiresAt.nanos := by
  cases handed with
  | created event =>
      obtain ⟨issuer, rfl⟩ := backed.created token p event
      rw [TokenMaker.eq_wholeSeconds_of_carries carries]
      exact ⟨rfl, p.wholeSeconds_expiresAt_le⟩
  | verified asked now event =>
      rw [TokenMaker.carries_unique carries (backed.verified asked token now p event)]
      exact ⟨rfl, Int.le_refl _⟩

/-! ## What the list holds -/

/-- The list has an entry for every revoked token that is not expired yet, kept at least until the
token's expiry, and no entry for anything else. -/
structure Covers (events : List TokenEvent) (l : RevocationList) (clock : Instant) : Prop where
  listed : ∀ e ∈ l.entries, ∃ token p, .revoked token p ∈ events ∧ p.id = e.1
  kept : ∀ token p m q, .revoked token p ∈ events → TokenMaker.Carries m token q →
    q.expiresAt.nanos ≤ clock.nanos ∨
      ∃ e ∈ l.entries, e.1 = q.id ∧ q.expiresAt.nanos ≤ e.2.nanos

section

variable {events : List TokenEvent} {l : RevocationList} {clock now : Instant}

/-- Time alone changes nothing, nor does an event that revokes nothing. -/
theorem Covers.later {e : TokenEvent} (covers : Covers events l clock)
    (passed : clock.nanos ≤ now.nanos) (other : ∀ token p, e ≠ .revoked token p) :
    Covers (events ++ [e]) l now where
  listed entry member := by
    obtain ⟨token, p, event, same⟩ := covers.listed entry member
    exact ⟨token, p, List.mem_append_left [e] event, same⟩
  kept token p m q event carries := by
    obtain old | new := List.mem_append.mp event
    · exact (covers.kept token p m q old carries).imp_left fun expired =>
        Int.le_trans expired passed
    · exact absurd (List.mem_singleton.mp new).symm (other token p)

theorem RevocationList.mem_revoke {l : RevocationList} {id : Uuid} {t : Instant}
    {e : Uuid × Instant} :
    e ∈ (l.revoke id t).entries ↔ (e ∈ l.entries ∧ e.1 ≠ id) ∨ e = (id, t) := by
  simp [revoke]

theorem RevocationList.mem_purge {l : RevocationList} {t : Instant} {e : Uuid × Instant} :
    e ∈ (l.purge t).entries ↔ e ∈ l.entries ∧ t.nanos < e.2.nanos := by
  simp [purge]

/-- An entry that is dropped is one whose token has expired. -/
theorem Covers.purge (covers : Covers events l now) : Covers events (l.purge now) now where
  listed entry member := covers.listed entry (RevocationList.mem_purge.mp member).1
  kept token p m q event carries := by
    obtain expired | ⟨entry, member, same, reaches⟩ := covers.kept token p m q event carries
    · exact .inl expired
    · by_cases live : now.nanos < entry.2.nanos
      · exact .inr ⟨entry, RevocationList.mem_purge.mpr ⟨member, live⟩, same, reaches⟩
      · exact .inl (Int.le_trans reaches (Int.not_lt.mp live))

/-- An entry that is given another expiry belongs to the token that is revoked. -/
theorem Covers.revoke {token : String} {p : Claims} (covers : Covers events l clock)
    (backed : Backed events) (distinct : DistinctIds events) (handed : Handed events token p) :
    Covers (events ++ [.revoked token p]) (l.revoke p.id p.expiresAt) clock where
  listed entry member := by
    obtain ⟨old, -⟩ | rfl := RevocationList.mem_revoke.mp member
    · obtain ⟨token', p', event, same⟩ := covers.listed entry old
      exact ⟨token', p', List.mem_append_left _ event, same⟩
    · exact ⟨token, p, List.mem_append_right events (List.mem_singleton_self _), rfl⟩
  kept token' p' m q event carries := by
    have entry : (p.id, p.expiresAt) ∈ (l.revoke p.id p.expiresAt).entries :=
      RevocationList.mem_revoke.mpr (.inr rfl)
    obtain old | new := List.mem_append.mp event
    · by_cases same : q.id = p.id
      · -- The token has the id that is revoked, so it is the token that is revoked.
        have handed' := backed.revoked token' p' old
        have one : token' = token := by
          refine distinct token' token p.id ?_ (handed.bears backed)
          rw [← same, (handed'.covers backed carries).1]
          exact handed'.bears backed
        subst one
        exact .inr ⟨_, entry, same.symm, (handed.covers backed carries).2⟩
      · obtain expired | ⟨other, member, id, reaches⟩ := covers.kept token' p' m q old carries
        · exact .inl expired
        · have kept : other ∈ (l.revoke p.id p.expiresAt).entries :=
            RevocationList.mem_revoke.mpr (.inl ⟨member, fun clash => same (id ▸ clash)⟩)
          exact .inr ⟨other, kept, id, reaches⟩
    · cases List.mem_singleton.mp new
      obtain ⟨same, reaches⟩ := handed.covers backed carries
      exact .inr ⟨_, entry, same.symm, reaches⟩

end

theorem TokenRun.covers {events : List TokenEvent} {l : RevocationList} {clock : Instant}
    (run : TokenRun events l clock) (distinct : DistinctIds events) : Covers events l clock := by
  induction run with
  | start clock =>
      exact ⟨fun _ member => absurd member List.not_mem_nil,
        fun _ _ _ _ event => absurd event List.not_mem_nil⟩
  | create run later issued ih => exact (ih distinct.of_append).later later (by simp)
  | verify m token run later ih => exact (ih distinct.of_append).later later (by simp)
  | revoke run handed ih =>
      exact (ih distinct.of_append).revoke run.backed distinct.of_append handed
  | purge run later ih => exact ((ih distinct.of_append).later later (by simp)).purge

/-! ## The next verification -/

section

variable {events : List TokenEvent} {l : RevocationList} {clock now : Instant} {token : String}
  {m : TokenMaker}

theorem RevocationList.isRevoked_iff {l : RevocationList} {id : Uuid} :
    l.isRevoked id = true ↔ ∃ e ∈ l.entries, e.1 = id := by
  simp [isRevoked]

theorem Covers.not_verified {p q : Claims} (covers : Covers events l clock)
    (later : clock.nanos ≤ now.nanos) (event : .revoked token p ∈ events) :
    m.verifyAt l token now ≠ .ok q := by
  intro verified
  obtain ⟨carries, current, -, unlisted⟩ := TokenMaker.accepted_of_verifyAt verified
  obtain expired | ⟨entry, member, same, -⟩ := covers.kept token p m q event carries
  · omega
  · rw [RevocationList.isRevoked_iff.mpr ⟨entry, member, same⟩] at unlisted
    cases unlisted

/-- The message of a refusal tells whether the token was listed. -/
theorem TokenMaker.Refused.listed_of_message {l : RevocationList} {f : Failure}
    (refused : Refused m l token now f) (message : f.message = "token has been revoked") :
    ∃ q, m.Carries token q ∧ l.isRevoked q.id = true := by
  cases refused with
  | revoked carries current issued listed => exact ⟨_, carries, listed⟩
  | algorithm headed unknown =>
      simp only [Failure.new] at message
      split at message
      · exact absurd message (by decide)
      · have characters := congrArg String.toList message
        simp at characters
  | shape => exact absurd message (by decide)
  | header => exact absurd message (by decide)
  | encoding => exact absurd message (by decide)
  | signature => exact absurd message (by decide)
  | claims => exact absurd message (by decide)
  | expired => exact absurd message (by decide)
  | issuer => exact absurd message (by decide)

theorem Covers.asked {f : Failure} (covers : Covers events l clock)
    (failed : m.verifyAt l token now = .error f) (message : f.message = "token has been revoked") :
    ∃ q other p, m.Carries token q ∧ .revoked other p ∈ events ∧ p.id = q.id := by
  obtain ⟨q, carries, listed⟩ := (TokenMaker.refused_of_verifyAt failed).listed_of_message message
  obtain ⟨entry, member, same⟩ := RevocationList.isRevoked_iff.mp listed
  obtain ⟨other, p, event, id⟩ := covers.listed entry member
  exact ⟨q, other, p, carries, event, id.trans same⟩

/-- No id but those of revoked tokens matters. -/
theorem Covers.unaffected (covers : Covers events l clock)
    (others : ∀ q other p, m.Carries token q → .revoked other p ∈ events → p.id ≠ q.id) :
    m.verifyAt l token now = m.verifyAt .empty token now := by
  refine TokenMaker.verifyAt_of_list fun q carries => ?_
  refine Bool.eq_false_iff.mpr fun listed => ?_
  obtain ⟨entry, member, same⟩ := RevocationList.isRevoked_iff.mp listed
  obtain ⟨other, p, event, id⟩ := covers.listed entry member
  exact others q other p carries event (id.trans same)

end

/-! ## Whole runs -/

/-- The events before a verification are a run, and its list decided the answer. -/
theorem TokenRun.before_verified {events before after : List TokenEvent} {l : RevocationList}
    {clock now : Instant} {m : TokenMaker} {token : String} {answer : Except Failure Claims}
    (run : TokenRun events l clock)
    (place : events = before ++ .verified m token now answer :: after) :
    ∃ l clock, TokenRun before l clock ∧ clock.nanos ≤ now.nanos ∧
      answer = m.verifyAt l token now := by
  induction run generalizing after with
  | start clock => exact absurd place (by simp)
  | create run later issued ih =>
      obtain ⟨same, -⟩ | ⟨rest, place⟩ := split_concat place
      · cases same
      · exact ih place
  | @verify events l clock now' m' token' run later ih =>
      obtain ⟨same, rfl⟩ | ⟨rest, place⟩ := split_concat place
      · injection same with maker text time given
        subst maker text time given
        exact ⟨l, clock, run, later, rfl⟩
      · exact ih place
  | revoke run handed ih =>
      obtain ⟨same, -⟩ | ⟨rest, place⟩ := split_concat place
      · cases same
      · exact ih place
  | purge run later ih =>
      obtain ⟨same, -⟩ | ⟨rest, place⟩ := split_concat place
      · cases same
      · exact ih place

/-- How revocation shows in the answer of a verification, given the events before it. -/
structure Lasting (before : List TokenEvent) (m : TokenMaker) (token : String) (now : Instant)
    (answer : Except Failure Claims) : Prop where
  /-- A token that was revoked is not valid. -/
  refused : ∀ p, .revoked token p ∈ before → ∀ q, answer ≠ .ok q
  /-- Only a token that was revoked is refused as revoked. -/
  asked : ∀ f, answer = .error f → f.message = "token has been revoked" →
    ∃ p, .revoked token p ∈ before
  /-- The revocation of other tokens makes no difference. -/
  unaffected : (∀ p, .revoked token p ∉ before) → answer = m.verifyAt .empty token now

/-- In every run whose tokens have ids of their own, and at each of its verifications, revocation
lasts. -/
theorem TokenRun.revocation_permanent {events before after : List TokenEvent} {l : RevocationList}
    {clock now : Instant} {m : TokenMaker} {token : String} {answer : Except Failure Claims}
    (run : TokenRun events l clock) (distinct : DistinctIds events)
    (place : events = before ++ .verified m token now answer :: after) :
    Lasting before m token now answer := by
  obtain ⟨l, clock, earlier, later, rfl⟩ := run.before_verified place
  subst place
  have covers := earlier.covers distinct.of_append
  -- A revoked token with the id that this token carries is this token.
  have one : ∀ q other p, m.Carries token q → .revoked other p ∈ before → p.id = q.id →
      token = other := by
    intro q other p carries event id
    have bears := (earlier.backed.revoked other p event).bears earlier.backed
    have here : .verified m token now (m.verifyAt l token now) ∈
        before ++ .verified m token now (m.verifyAt l token now) :: after :=
      List.mem_append_right before List.mem_cons_self
    exact distinct token other q.id (.shown here carries) (id ▸ bears.append _)
  refine ⟨fun p event q => covers.not_verified later event, ?_, ?_⟩
  · intro f failed message
    obtain ⟨q, other, p, carries, event, id⟩ := covers.asked failed message
    exact ⟨p, one q other p carries event id ▸ event⟩
  · intro never
    refine covers.unaffected fun q other p carries event id => ?_
    exact never p (one q other p carries event id ▸ event)

/-- Events about one token. -/
theorem DistinctIds.of_one {events : List TokenEvent} (token : String)
    (created : ∀ other p, .created other p ∈ events → other = token)
    (verified : ∀ m other now answer, .verified m other now answer ∈ events → other = token) :
    DistinctIds events := by
  have one : ∀ other id, Bears events other id → other = token := by
    intro other id bears
    cases bears with
    | created event => exact created other _ event
    | shown event carries => exact verified _ other _ _ event
  intro first second id bears others
  rw [one first id bears, one second id others]

/-- A token that lives for an hour is revoked, and is asked about at its expiry, when its entry has
just been purged. -/
theorem TokenRun.revocation_permanent_at_expiry :
    ∃ (m : TokenMaker) (token : String) (p : Claims) (l : RevocationList) (now : Instant),
      m.create? ⟨1⟩ "ada" "user-1" 3600000000000 ⟨1700000000500000000⟩ = some (token, p) ∧
      p.expiresAt = now ∧ l.size = 0 ∧
      TokenRun [.created token p, .revoked token p, .purged now,
        .verified m token now (m.verifyAt l token now)] l now ∧
      ∀ q, m.verifyAt l token now ≠ .ok q := by
  let m : TokenMaker := { secret := List.replicate 32 0 }
  let issue : Instant := ⟨1700000000000000000⟩
  let now : Instant := ⟨1700003600000000000⟩
  let p : Claims := ⟨⟨1⟩, "ada", "user-1", issue, now, none⟩
  let l := (RevocationList.empty.revoke p.id p.expiresAt).purge now
  let token := m.encode p
  have issued : m.create? ⟨1⟩ "ada" "user-1" 3600000000000 ⟨1700000000500000000⟩ =
      some (token, p) := rfl
  let events : List TokenEvent := [.created token p, .revoked token p, .purged now,
    .verified m token now (m.verifyAt l token now)]
  have run : TokenRun events l now := by
    have created := TokenRun.create (.start issue) (by decide) issued
    have revoked := created.revoke (.created (List.mem_singleton_self _))
    exact .verify m token (revoked.purge (by decide)) (by decide)
  have distinct : DistinctIds events := by
    refine .of_one token ?_ ?_
    · simp [events]
    · intro m' other now' answer event
      simp only [events, List.mem_cons, reduceCtorEq, TokenEvent.verified.injEq, List.not_mem_nil,
        or_false, false_or] at event
      exact event.2.1
  have place : events = [.created token p, .revoked token p, .purged now] ++
      .verified m token now (m.verifyAt l token now) :: [] := rfl
  have lasting := TokenRun.revocation_permanent run distinct place
  exact ⟨m, token, p, l, now, issued, rfl, by decide, run, lasting.refused p (by simp)⟩

end HttpService
