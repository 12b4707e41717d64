import HttpService.Proofs.Identity.Directory
import HttpService.Proofs.Table
import HttpService.Proofs.Uuid
import HttpService.Identity.Manager

/-!
# Who is in the directory

Whatever calls are made of it, a directory holds the users whose registration it has accepted, each
under a name and an id of its own. It knows a user by the password of the registration and by no
other, tells a wrong password and an unknown name apart in no way, and never changes a record.
-/

namespace HttpService

namespace Directory

/-! ## Calls -/

/-- A registration: what is asked for, and the id and the salt that are drawn for it. -/
structure Enrolment where
  id : Uuid
  salt : List UInt8
  username : String
  password : String
  roles : RoleSet

namespace Enrolment

def user (e : Enrolment) : User :=
  ⟨e.id.toString, e.username, e.roles, []⟩

def account (e : Enrolment) : Account :=
  ⟨e.user, e.salt, passwordDigest e.salt e.password⟩

end Enrolment

/-- Registers a user as asked. -/
def enrol (d : Directory) (e : Enrolment) : Except Failure (User × Directory) :=
  d.register e.id e.salt e.username e.password e.roles

/-- A call and its answer. -/
inductive Event
  | registered (enrolment : Enrolment) (answer : Except Failure User)
  | authenticated (username password : String) (answer : Except Failure User)
  | looked (id : String) (answer : Except Failure User)

namespace Event

def answer : Event → Except Failure User
  | registered _ answer | authenticated _ _ answer | looked _ answer => answer

/-- The registration, if it was accepted. -/
def enrolment? : Event → Option Enrolment
  | registered e (.ok _) => some e
  | _ => none

end Event

/-- The registrations that were accepted, in the order of the calls. -/
def enrolments (events : List Event) : List Enrolment :=
  events.filterMap Event.enrolment?

/-- What one call does. -/
inductive Step (d : Directory) : Event → Directory → Prop
  | accepted {e : Enrolment} {user : User} {d' : Directory} (call : d.enrol e = .ok (user, d')) :
      Step d (.registered e (.ok user)) d'
  | refused {e : Enrolment} {f : Failure} (call : d.enrol e = .error f) :
      Step d (.registered e (.error f)) d
  | authenticated (username password : String) :
      Step d (.authenticated username password (d.authenticate username password)) d
  | looked (id : String) : Step d (.looked id (d.get id)) d

/-- What any number of calls make of an empty directory. -/
inductive Run : List Event → Directory → Prop
  | start : Run [] {}
  | tail {events : List Event} {d d' : Directory} {e : Event} (run : Run events d)
      (step : Step d e d') : Run (events ++ [e]) d'

section

variable {d d' : Directory} {events : List Event} {e : Enrolment} {event : Event}

theorem enrolments_append (events more : List Event) :
    enrolments (events ++ more) = enrolments events ++ enrolments more :=
  List.filterMap_append

theorem refusal?_eq_none_iff {username password : String} :
    d.refusal? username password = none ↔
      Text.blank username = false ∧ 8 ≤ (Text.utf8 password).length ∧
        d.ids.find? username = none := by
  unfold refusal? Table.contains minPasswordLength
  split
  · next blank => simp [blank]
  · next shown =>
      split
      · next short => simp [short]
      · next long =>
          split
          · next taken => simp [Option.isSome_iff_ne_none.mp taken]
          · next free =>
              have none : d.ids.find? username = none := Option.not_isSome_iff_eq_none.mp free
              simp [shown, Nat.not_lt.mp long, none]

theorem enrol_of_refused {f : Failure} (refused : d.refusal? e.username e.password = some f) :
    d.enrol e = .error f := by
  rw [enrol, register, refused]

theorem enrol_of_allowed (allowed : d.refusal? e.username e.password = none) :
    d.enrol e = .ok (e.user, d.enter e.account) := by
  rw [enrol, register, allowed]
  rfl

theorem enrol_eq_ok {user : User} (call : d.enrol e = .ok (user, d')) :
    d.refusal? e.username e.password = none ∧ user = e.user ∧ d' = d.enter e.account := by
  cases allowed : d.refusal? e.username e.password with
  | some f => cases (enrol_of_refused allowed).symm.trans call
  | none =>
      have done := Prod.mk.inj (Except.ok.inj ((enrol_of_allowed allowed).symm.trans call))
      exact ⟨rfl, done.1.symm, done.2.symm⟩

/-! ## What a run keeps -/

/-- The directory holds the users that were registered, each under a name of its own. -/
structure Holds (events : List Event) (d : Directory) : Prop where
  linked : d.Linked
  byId : ∀ id a, d.byId? id = some a ↔
    ∃ e ∈ enrolments events, e.account = a ∧ e.id.toString = id
  accounts : d.accounts.length = (enrolments events).length
  ids : d.ids.length = (enrolments events).length
  answered : ∀ event ∈ events, ∀ user, event.answer = .ok user →
    ∃ e ∈ enrolments events, e.user = user
  registered : ∀ e answer, .registered e (.ok answer) ∈ events → answer = e.user

theorem holds_start : Holds [] {} where
  linked := linked_empty
  byId id a := by simp [enrolments, byId?, Table.find?]
  accounts := rfl
  ids := rfl
  answered _ member := absurd member List.not_mem_nil
  registered _ _ member := absurd member List.not_mem_nil

theorem Holds.answers_ok {user : User} (holds : Holds events d) {id : String} {a : Account}
    (found : d.byId? id = some a) (same : a.user = user) :
    ∃ e ∈ enrolments events, e.user = user := by
  obtain ⟨e, member, rfl, -⟩ := (holds.byId id a).mp found
  exact ⟨e, member, same⟩

/-- A call that changes nothing, whose answer is a user that was registered or a failure. -/
theorem Holds.idle (holds : Holds events d) (none : event.enrolment? = none)
    (known : ∀ user, event.answer = .ok user → ∃ e ∈ enrolments events, e.user = user) :
    Holds (events ++ [event]) d := by
  have same : enrolments (events ++ [event]) = enrolments events := by
    simp [enrolments, none]
  refine ⟨holds.linked, ?_, ?_, ?_, ?_, ?_⟩
  · rw [same]
    exact holds.byId
  · rw [same]
    exact holds.accounts
  · rw [same]
    exact holds.ids
  · rw [same]
    intro other member
    obtain old | new := List.mem_append.mp member
    · exact holds.answered other old
    · rw [List.mem_singleton.mp new]
      exact known
  · intro e answer member
    obtain old | new := List.mem_append.mp member
    · exact holds.registered e answer old
    · rw [← List.mem_singleton.mp new] at none
      cases none

theorem Holds.admits (holds : Holds events d) (drawn : e.id ∉ (enrolments events).map Enrolment.id)
    (free : d.ids.find? e.username = none) : d.Admits e.account where
  newId := by
    refine Option.eq_none_iff_forall_not_mem.mpr fun a found => drawn ?_
    obtain ⟨o, member, -, same⟩ := (holds.byId _ a).mp found
    exact List.mem_map.mpr ⟨o, member, Uuid.toString_injective same⟩
  newName := free

theorem Holds.accept (holds : Holds events d) (admits : d.Admits e.account) :
    Holds (events ++ [.registered e (.ok e.user)]) (d.enter e.account) := by
  have more : enrolments (events ++ [.registered e (.ok e.user)]) = enrolments events ++ [e] :=
    enrolments_append ..
  refine ⟨holds.linked.enter admits, ?_, ?_, ?_, ?_, ?_⟩
  · intro id a
    rw [byId?_enter, more]
    constructor
    · intro found
      split at found
      · next own => exact ⟨e, by simp, Option.some.inj found, own⟩
      · next other =>
          obtain ⟨o, there, same⟩ := (holds.byId id a).mp found
          exact ⟨o, List.mem_append_left _ there, same⟩
    · rintro ⟨o, member, rfl, rfl⟩
      obtain old | new := List.mem_append.mp member
      · have found := (holds.byId _ _).mpr ⟨o, old, rfl, rfl⟩
        rw [if_neg ?_, found]
        intro same
        have none := admits.newId
        rw [same, found] at none
        cases none
      · rw [List.mem_singleton.mp new]
        exact if_pos rfl
  · rw [more, List.length_append, ← holds.accounts]
    exact Table.length_insert admits.newId _
  · rw [more, List.length_append, ← holds.ids]
    exact Table.length_insert admits.newName _
  · intro event member user answered
    rw [more]
    obtain old | new := List.mem_append.mp member
    · obtain ⟨o, there, same⟩ := holds.answered event old user answered
      exact ⟨o, List.mem_append_left _ there, same⟩
    · rw [List.mem_singleton.mp new] at answered
      exact ⟨e, by simp, Except.ok.inj answered⟩
  · intro o answer member
    obtain old | new := List.mem_append.mp member
    · exact holds.registered o answer old
    · obtain ⟨rfl, rfl⟩ : o = e ∧ answer = e.user := by simpa using new
      rfl

theorem Holds.step (holds : Holds events d)
    (fresh : ((enrolments (events ++ [event])).map Enrolment.id).Nodup) (step : Step d event d') :
    Holds (events ++ [event]) d' := by
  cases step with
  | @accepted e user d' call =>
      obtain ⟨allowed, rfl, rfl⟩ := enrol_eq_ok call
      refine holds.accept (holds.admits ?_ (refusal?_eq_none_iff.mp allowed).2.2)
      have drawn : enrolments [.registered e (.ok e.user)] = [e] := rfl
      rw [enrolments_append, drawn, List.map_append] at fresh
      exact fun member =>
        (List.nodup_append.mp fresh).2.2 e.id member e.id List.mem_cons_self rfl
  | refused call => exact holds.idle rfl nofun
  | authenticated username password =>
      refine holds.idle rfl fun user right => ?_
      obtain ⟨a, named, -, same⟩ := authenticate_eq_ok_iff.mp right
      exact holds.answers_ok (holds.linked.byName?_iff.mp named).1 same
  | looked id =>
      refine holds.idle rfl fun user known => ?_
      obtain ⟨a, found, same⟩ := get_eq_ok_iff.mp known
      exact holds.answers_ok found same

theorem Run.holds (run : Run events d) (fresh : ((enrolments events).map Enrolment.id).Nodup) :
    Holds events d := by
  induction run with
  | start => exact holds_start
  | tail run step ih =>
      refine (ih ?_).step fresh step
      rw [enrolments_append, List.map_append] at fresh
      exact (List.nodup_append.mp fresh).1

/-! ## What the calls come to -/

theorem mem_enrolments_iff :
    e ∈ enrolments events ↔ ∃ user, .registered e (.ok user) ∈ events := by
  unfold enrolments
  rw [List.mem_filterMap]
  constructor
  · rintro ⟨event, member, found⟩
    cases event with
    | registered o answer =>
        cases answer with
        | ok user =>
            cases found
            exact ⟨user, member⟩
        | error f => cases found
    | authenticated | looked => cases found
  · rintro ⟨user, member⟩
    exact ⟨_, member, rfl⟩

theorem Holds.mem_iff (holds : Holds events d) {user : User} :
    .registered e (.ok user) ∈ events ↔ e ∈ enrolments events ∧ e.user = user := by
  constructor
  · intro member
    exact ⟨mem_enrolments_iff.mpr ⟨user, member⟩, (holds.registered e user member).symm⟩
  · rintro ⟨member, rfl⟩
    obtain ⟨user, there⟩ := mem_enrolments_iff.mp member
    rwa [holds.registered e user there] at there

theorem Holds.byName?_iff (holds : Holds events d) {username : String} {a : Account} :
    d.byName? username = some a ↔
      ∃ e ∈ enrolments events, e.account = a ∧ e.username = username := by
  rw [holds.linked.byName?_iff, holds.byId]
  constructor
  · rintro ⟨⟨e, member, rfl, -⟩, named⟩
    exact ⟨e, member, rfl, named⟩
  · rintro ⟨e, member, rfl, named⟩
    exact ⟨⟨e, member, rfl, rfl⟩, named⟩

/-- What the site's user manager does with the site's directory, and with nothing else of the site
but the random source. -/
structure Managed (site : Site) : Prop where
  create : ∀ username password roles, ∃ answer site',
    UserManager.directory.create username password roles site = (.done answer, site') ∧
      Step site.directory (.registered ⟨Uuid.ofSeed site.seed, (Uuid.ofSeed (site.seed + 1)).bytes,
        username, password, roles⟩ answer) site'.directory ∧
      ∀ f, answer = .error f → site' = site
  authenticate : ∀ username password,
    UserManager.directory.authenticate username password site =
      (.done (site.directory.authenticate username password), site)
  get : ∀ id, UserManager.directory.get id site = (.done (site.directory.get id), site)

theorem managed (site : Site) : Managed site where
  create username password roles := by
    let e : Enrolment :=
      ⟨Uuid.ofSeed site.seed, (Uuid.ofSeed (site.seed + 1)).bytes, username, password, roles⟩
    cases call : site.directory.enrol e with
    | ok done =>
        refine ⟨.ok done.1, { site with directory := done.2, seed := site.seed + 2 }, ?_,
          .accepted call, nofun⟩
        unfold enrol at call
        simp only [UserManager.directory, UserManager.register, Act.update, e] at call ⊢
        rw [call]
    | error f =>
        refine ⟨.error f, site, ?_, .refused call, fun _ _ => rfl⟩
        unfold enrol at call
        simp only [UserManager.directory, UserManager.register, Act.update, e] at call ⊢
        rw [call]
  authenticate _ _ := rfl
  get _ := rfl

end

end Directory

end HttpService
