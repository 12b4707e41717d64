import HttpService.Identity.Directory

/-!
# The two maps of the directory

The directory finds a user by id and, through the id, by name. Its maps stay linked as long as no
user is entered under an id that another has.
-/

namespace HttpService.Directory

variable {d d' : Directory} {account a : Account} {id name password : String} {user : User}

/-- An id leads to the account of a user with this id, from whose name it is found again; and a name
leads to the account of a user with this name. -/
structure Linked (d : Directory) : Prop where
  ofId : ∀ id a, d.byId? id = some a → a.user.id = id ∧ d.ids.find? a.user.username = some id
  ofName : ∀ name id, d.ids.find? name = some id → ∃ a, d.byId? id = some a ∧ a.user.username = name

theorem linked_empty : Linked {} where
  ofId _ _ found := by cases found
  ofName _ _ found := by cases found

theorem Linked.byName?_iff (linked : d.Linked) :
    d.byName? name = some a ↔ d.byId? a.user.id = some a ∧ a.user.username = name := by
  unfold byName?
  rw [Option.bind_eq_some_iff]
  constructor
  · rintro ⟨id, named, found⟩
    obtain ⟨b, found', same⟩ := linked.ofName name id named
    cases found.symm.trans found'
    rw [(linked.ofId id a found).1]
    exact ⟨found, same⟩
  · rintro ⟨found, rfl⟩
    exact ⟨a.user.id, (linked.ofId _ a found).2, found⟩

/-! ## Entering a user -/

theorem byId?_enter (d : Directory) (account : Account) (id : String) :
    (d.enter account).byId? id = if account.user.id = id then some account else d.byId? id :=
  Table.find?_insert ..

theorem find?_ids_enter (d : Directory) (account : Account) (name : String) :
    (d.enter account).ids.find? name =
      if account.user.username = name then some account.user.id else d.ids.find? name :=
  Table.find?_insert ..

/-- Nobody in the directory has the id or the name of the account. -/
structure Admits (d : Directory) (account : Account) : Prop where
  newId : d.byId? account.user.id = none
  newName : d.ids.find? account.user.username = none

theorem Linked.enter (linked : d.Linked) (admits : d.Admits account) : (d.enter account).Linked where
  ofId id a found := by
    rw [byId?_enter] at found
    rw [find?_ids_enter]
    split at found
    · next same =>
        cases found
        exact ⟨same, by rw [if_pos rfl, same]⟩
    · obtain ⟨own, named⟩ := linked.ofId id a found
      have other : account.user.username ≠ a.user.username := by
        intro same
        rw [← same, admits.newName] at named
        cases named
      exact ⟨own, by rw [if_neg other, named]⟩
  ofName name id named := by
    rw [find?_ids_enter] at named
    split at named
    · next same =>
        cases named
        exact ⟨account, by rw [byId?_enter, if_pos rfl], same⟩
    · obtain ⟨a, found, same⟩ := linked.ofName name id named
      have other : account.user.id ≠ id := by
        rintro rfl
        rw [admits.newId] at found
        cases found
      exact ⟨a, by rw [byId?_enter, if_neg other, found], same⟩

/-! ## Growing -/

/-- Whoever is found in the first directory is found in the second, with the same record. -/
def Grows (d d' : Directory) : Prop :=
  ∀ id a, d.byId? id = some a → d'.byId? id = some a

theorem Grows.byName? (grows : d.Grows d') (linked : d.Linked) (linked' : d'.Linked)
    (found : d.byName? name = some a) : d'.byName? name = some a := by
  obtain ⟨own, named⟩ := linked.byName?_iff.mp found
  exact linked'.byName?_iff.mpr ⟨grows _ a own, named⟩

theorem grows_enter (admits : d.Admits account) : d.Grows (d.enter account) := by
  intro id a found
  have other : account.user.id ≠ id := by
    rintro rfl
    rw [admits.newId] at found
    cases found
  rw [byId?_enter, if_neg other, found]

/-! ## What the calls answer -/

theorem get_eq_ok_iff : d.get id = .ok user ↔ ∃ a, d.byId? id = some a ∧ a.user = user := by
  unfold get
  cases d.byId? id with
  | none => simp
  | some a => simp

/-- The user is the one who has this name, and the password is this user's. -/
theorem authenticate_eq_ok_iff : d.authenticate name password = .ok user ↔
    ∃ a, d.byName? name = some a ∧ passwordDigest a.salt password = a.digest ∧ a.user = user := by
  unfold authenticate
  cases d.byName? name with
  | none => simp
  | some a =>
      by_cases right : passwordDigest a.salt password = a.digest
      · simp [right]
      · simp [right]

/-- A registration that is not refused enters a user with the given name and roles and nothing else,
whose password is the given one. -/
theorem register_cases (d : Directory) (id : Uuid) (salt : List UInt8) (name password : String)
    (roles : RoleSet) :
    (∃ f, d.refusal? name password = some f ∧ d.register id salt name password roles = .error f) ∨
      ∃ account : Account, account.user = ⟨id.toString, name, roles, []⟩ ∧
        passwordDigest account.salt password = account.digest ∧
        d.refusal? name password = none ∧ d.ids.find? name = none ∧
        d.register id salt name password roles = .ok (account.user, d.enter account) := by
  unfold register
  cases refused : d.refusal? name password with
  | some f => exact .inl ⟨f, rfl, rfl⟩
  | none =>
      have free : d.ids.find? name = none := by
        unfold refusal? at refused
        split at refused
        · cases refused
        · split at refused
          · cases refused
          · split at refused
            · cases refused
            · next unknown =>
                unfold Table.contains at unknown
                exact Option.not_isSome_iff_eq_none.mp unknown
      exact .inr ⟨⟨⟨id.toString, name, roles, []⟩, salt, passwordDigest salt password⟩, rfl, rfl,
        rfl, free, rfl⟩

end HttpService.Directory
