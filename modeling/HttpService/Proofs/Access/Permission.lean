import HttpService.Access.Permission
import HttpService.Proofs.Text.Split
import Mathlib.Data.List.Infix

/-!
# What rules allow

A pattern for a subtree covers the resources whose segments begin with those of its base. Of the
rules that apply to a user, a resource and an action, whichever of the user's roles they are for, the
first one decides. So rules count only by the verdict of the first one that applies.
-/

namespace HttpService

namespace PermissionRule

/-! ## Patterns -/

theorem base?_eq_some_iff {pattern base : List Char} :
    base? pattern = some base ↔ pattern = base ++ ['/', '*'] := by
  unfold base?
  constructor
  · intro found
    split at found
    · next rest ends =>
        obtain rfl := Option.some.inj found
        rw [← List.reverse_reverse pattern, ends]
        simp
    · cases found
  · rintro rfl
    simp

theorem covers_subtree_iff {base resource : List Char} :
    covers (base ++ ['/', '*']) resource = true ↔
      Text.splitChars '/' base <+: Text.splitChars '/' resource := by
  have other : base ++ ['/', '*'] ≠ ['*'] := fun same => by simpa using congrArg List.length same
  rw [Text.splitChars_prefix_iff, covers, if_neg other, base?_eq_some_iff.mpr rfl]
  simp [List.isPrefixOf_iff_prefix]

theorem covers_self (resource : List Char) : covers resource resource = true := by
  unfold covers
  split
  · rfl
  · cases found : base? resource with
    | none => simp
    | some base =>
        -- The text of a pattern lies below the base of the pattern.
        rw [base?_eq_some_iff.mp found]
        simp [List.isPrefixOf_iff_prefix]

/-- What a pattern covers: everything, a base with all that lies below it, or one resource. -/
inductive Covers : String → String → Prop
  | everything (resource : String) : Covers "*" resource
  | subtree {base resource : String}
      (below : Text.split '/' base <+: Text.split '/' resource) : Covers (base ++ "/*") resource
  | itself (resource : String) : Covers resource resource

variable {r : PermissionRule} {u : User} {base resource : String} {a : Action}

theorem matchesResource_subtree_iff (subtree : r.pattern = base ++ "/*") :
    r.matchesResource resource = true ↔ Text.split '/' base <+: Text.split '/' resource := by
  have chars : r.pattern.toList = base.toList ++ ['/', '*'] := by
    rw [subtree, String.toList_append]
    rfl
  rw [matchesResource, chars, covers_subtree_iff, Text.split_prefix_iff]

theorem matchesResource_iff : r.matchesResource resource = true ↔ Covers r.pattern resource := by
  constructor
  · intro covered
    by_cases every : r.pattern = "*"
    · exact every ▸ .everything resource
    cases found : base? r.pattern.toList with
    | some base =>
        have subtree : r.pattern = String.ofList base ++ "/*" := by
          rw [← String.toList_inj, base?_eq_some_iff.mp found]
          simp
        exact subtree ▸ .subtree ((matchesResource_subtree_iff subtree).mp covered)
    | none =>
        have other : r.pattern.toList ≠ ['*'] := fun same => every (String.toList_inj.mp same)
        unfold matchesResource covers at covered
        simp only [found, if_neg other, decide_eq_true_eq, String.toList_inj] at covered
        exact covered ▸ .itself resource
  · intro covers
    generalize same : r.pattern = pattern at covers
    cases covers with
    | everything => simp [matchesResource, PermissionRule.covers, same]
    | subtree below => exact (matchesResource_subtree_iff same).mpr below
    | itself =>
        rw [matchesResource, same]
        exact covers_self _

/-- A resource that goes on otherwise than with a slash is no part of the subtree. -/
theorem not_matchesResource_sibling {rest : String} (subtree : r.pattern = base ++ "/*")
    (longer : rest ≠ "") (sibling : rest.toList.head? ≠ some '/') :
    r.matchesResource (base ++ rest) = false := by
  rw [← Bool.not_eq_true, matchesResource_subtree_iff subtree, Text.split_prefix_iff,
    Text.splitChars_prefix_iff, String.toList_append]
  rintro (same | below)
  · have none : rest.toList = [] := by simpa using same
    exact longer (by simpa using none)
  · rw [List.prefix_append_right_inj] at below
    obtain ⟨more, goesOn⟩ := below
    rw [← goesOn] at sibling
    exact sibling rfl

/-! ## Rules -/

/-- The rule is for one of the user's roles, for the action and for the resource. -/
structure Applies (r : PermissionRule) (u : User) (resource : String) (a : Action) : Prop where
  role : r.role ∈ u.roles.toList
  action : a ∈ r.actions
  resource : Covers r.pattern resource

theorem applies_iff : r.applies u resource a = true ↔ r.Applies u resource a := by
  simp only [applies, Bool.and_eq_true, User.hasRole, ← RoleSet.mem_toList, List.contains_iff_mem,
    matchesResource_iff]
  exact ⟨fun ⟨⟨role, action⟩, covers⟩ => ⟨role, action, covers⟩,
    fun ⟨role, action, covers⟩ => ⟨⟨role, action⟩, covers⟩⟩

instance (r : PermissionRule) (u : User) (resource : String) (a : Action) :
    Decidable (r.Applies u resource a) :=
  decidable_of_iff _ applies_iff

end PermissionRule

namespace Permissions

variable {rules more before after : List PermissionRule} {r q : PermissionRule} {u : User}
  {base resource : String} {a : Action} {p : Permissions}

/-- What the first rule that applies says, if one applies. -/
def verdict? (rules : List PermissionRule) (u : User) (resource : String) (a : Action) :
    Option Bool :=
  (rules.find? fun r => r.applies u resource a).map PermissionRule.allow

theorem verdict?_eq_some_iff {allowed : Bool} : verdict? rules u resource a = some allowed ↔
    ∃ before r after, rules = before ++ r :: after ∧ r.allow = allowed ∧
      r.Applies u resource a ∧ ∀ q ∈ before, ¬ q.Applies u resource a := by
  simp only [verdict?, Option.map_eq_some_iff, List.find?_eq_some_iff_append, Bool.not_eq_true',
    ← Bool.not_eq_true, PermissionRule.applies_iff]
  constructor
  · rintro ⟨r, ⟨applies, before, after, rfl, none⟩, allowed⟩
    exact ⟨before, r, after, rfl, allowed, applies, none⟩
  · rintro ⟨before, r, after, rfl, allowed, applies, none⟩
    exact ⟨r, ⟨applies, before, after, rfl, none⟩, allowed⟩

theorem verdict?_append (rules more : List PermissionRule) :
    verdict? (rules ++ more) u resource a =
      (verdict? rules u resource a).or (verdict? more u resource a) := by
  simp only [verdict?, List.find?_append, Option.map_or]

theorem verdict?_of_applies (applies : r.Applies u resource a) :
    verdict? [r] u resource a = some r.allow := by
  simp [verdict?, PermissionRule.applies_iff.mpr applies]

theorem verdict?_of_not_applies (idle : ¬ r.Applies u resource a) :
    verdict? [r] u resource a = none := by
  simp [verdict?, mt PermissionRule.applies_iff.mp idle]

theorem exists_verdict (applies : ∃ r ∈ rules, r.Applies u resource a) :
    ∃ allowed, verdict? rules u resource a = some allowed := by
  obtain ⟨r, member, applies⟩ := applies
  have found : (rules.find? fun r => r.applies u resource a).isSome = true :=
    List.find?_isSome.mpr ⟨r, member, PermissionRule.applies_iff.mpr applies⟩
  obtain ⟨q, found⟩ := Option.isSome_iff_exists.mp found
  exact ⟨q.allow, by rw [verdict?, found, Option.map_some]⟩

/-- A user who is not privileged is allowed what the first rule that applies allows. -/
theorem check_eq (unprivileged : u.isPrivileged = false) (p : Permissions) :
    p.check u resource a = (verdict? p.rules u resource a).getD false := by
  rw [check, unprivileged, Bool.false_or, decide, verdict?]
  cases p.rules.find? fun r => r.applies u resource a <;> rfl

theorem check_of_privileged (privileged : u.isPrivileged = true) (p : Permissions) :
    p.check u resource a = true := by
  rw [check, privileged, Bool.true_or]

/-- Rules with the same verdict make the same decision, for privileged users too. -/
theorem check_congr (same : verdict? rules u resource a = verdict? more u resource a) :
    check ⟨rules⟩ u resource a = check ⟨more⟩ u resource a := by
  cases privileged : u.isPrivileged with
  | true => rw [check_of_privileged privileged, check_of_privileged privileged]
  | false => rw [check_eq privileged, check_eq privileged, same]

theorem foldl_push (more : List PermissionRule) (p : Permissions) :
    more.foldl push p = ⟨p.rules ++ more⟩ := by
  induction more generalizing p with
  | nil => rw [List.foldl_nil, List.append_nil]
  | cons r more ih => rw [List.foldl_cons, ih, push, List.append_assoc, List.singleton_append]

/-! ## Decisions -/

theorem check_denied (first : r.Applies u resource a) (denies : r.allow = false)
    (unprivileged : u.isPrivileged = false) (rules : List PermissionRule) :
    check ⟨r :: rules⟩ u resource a = false := by
  have verdict : verdict? (r :: rules) u resource a = some r.allow := by
    rw [← List.singleton_append, verdict?_append, verdict?_of_applies first, Option.some_or]
  rw [check_eq unprivileged, verdict, Option.getD_some, denies]

theorem check_pushed (decided : ∃ r ∈ p.rules, r.Applies u resource a)
    (more : List PermissionRule) :
    (more.foldl push p).check u resource a = p.check u resource a := by
  obtain ⟨allowed, verdict⟩ := exists_verdict decided
  rw [foldl_push]
  refine check_congr ?_
  rw [verdict?_append, verdict, Option.some_or]

theorem check_removed (idle : ¬ r.Applies u resource a) (before after : List PermissionRule) :
    check ⟨before ++ r :: after⟩ u resource a = check ⟨before ++ after⟩ u resource a := by
  refine check_congr ?_
  rw [← List.singleton_append, verdict?_append, verdict?_append [r], verdict?_append before after,
    verdict?_of_not_applies idle, Option.none_or]

theorem check_swapped (same : r.allow = q.allow) (before after : List PermissionRule) :
    check ⟨before ++ r :: q :: after⟩ u resource a =
      check ⟨before ++ q :: r :: after⟩ u resource a := by
  have pair : verdict? ([r] ++ [q]) u resource a = verdict? ([q] ++ [r]) u resource a := by
    rw [verdict?_append, verdict?_append]
    by_cases one : r.Applies u resource a <;> by_cases other : q.Applies u resource a <;>
      simp [verdict?_of_applies, verdict?_of_not_applies, one, other, same]
  have split (one two : PermissionRule) :
      before ++ one :: two :: after = before ++ ([one] ++ [two] ++ after) := rfl
  refine check_congr ?_
  rw [split r q, split q r, verdict?_append, verdict?_append _ after, pair, ← verdict?_append,
    ← verdict?_append]

theorem check_iff (unprivileged : u.isPrivileged = false) (p : Permissions) :
    p.check u resource a = true ↔ ∃ before r after, p.rules = before ++ r :: after ∧
      r.allow = true ∧ r.Applies u resource a ∧ ∀ q ∈ before, ¬ q.Applies u resource a := by
  rw [check_eq unprivileged, ← verdict?_eq_some_iff]
  cases verdict? p.rules u resource a <;> simp

/-- A rule for a subtree covers the resources whose segments begin with those of the base, and so no
sibling whose name only starts alike. Privileged users are allowed everything, and others what the
first rule that applies allows. Hence nothing that follows a rule which denies a subtree to a role
gives any of it back, rules that are added leave the decisions of those before them as they are, and
rules that do not apply do not count, nor does the order of two neighbours that say the same. -/
theorem rules_exact (u : User) (resource : String) (a : Action) :
    (∀ (r : PermissionRule) (base : String), r.pattern = base ++ "/*" →
      (r.matchesResource resource = true ↔ Text.split '/' base <+: Text.split '/' resource) ∧
      ∀ rest, rest ≠ "" → rest.toList.head? ≠ some '/' →
        r.matchesResource (base ++ rest) = false) ∧
    (u.isPrivileged = true → ∀ p : Permissions, p.check u resource a = true) ∧
    (u.isPrivileged = false → ∀ p : Permissions, p.check u resource a = true ↔
      ∃ before r after, p.rules = before ++ r :: after ∧ r.allow = true ∧
        r.Applies u resource a ∧ ∀ q ∈ before, ¬ q.Applies u resource a) ∧
    (∀ (r : PermissionRule) (base : String) (rules : List PermissionRule),
      r.pattern = base ++ "/*" → r.allow = false → u.isPrivileged = false →
        r.role ∈ u.roles.toList → a ∈ r.actions →
          Text.split '/' base <+: Text.split '/' resource →
            check ⟨r :: rules⟩ u resource a = false) ∧
    (∀ (p : Permissions) (more : List PermissionRule),
      (∃ r ∈ p.rules, r.Applies u resource a) →
        (more.foldl push p).check u resource a = p.check u resource a) ∧
    (∀ (before after : List PermissionRule) (r : PermissionRule), ¬ r.Applies u resource a →
      check ⟨before ++ r :: after⟩ u resource a = check ⟨before ++ after⟩ u resource a) ∧
    ∀ (before after : List PermissionRule) (r q : PermissionRule), r.allow = q.allow →
      check ⟨before ++ r :: q :: after⟩ u resource a =
        check ⟨before ++ q :: r :: after⟩ u resource a := by
  refine ⟨?_, check_of_privileged, check_iff, ?_, ?_, ?_, ?_⟩
  · intro r base subtree
    exact ⟨PermissionRule.matchesResource_subtree_iff subtree,
      fun _ => PermissionRule.not_matchesResource_sibling subtree⟩
  · intro r base rules subtree denies unprivileged role action below
    have first : r.Applies u resource a := ⟨role, action, subtree ▸ .subtree below⟩
    exact check_denied first denies unprivileged rules
  · intro p more decided
    exact check_pushed decided more
  · intro before after r idle
    exact check_removed idle before after
  · intro before after r q same
    exact check_swapped same before after

/-- A user who is a guest as well: what one role is denied, the other is allowed, and their order
decides. The base ends in a slash, so that it has an empty segment after the last one. -/
theorem rules_exact_two_roles :
    let u : User := ((User.new "1" "ada").withRole .user).withRole .guest
    let denies : PermissionRule := ⟨.guest, "/files//*", [.read, .update], false⟩
    let allows : PermissionRule := ⟨.user, "/files/*", Action.all, true⟩
    let foreign : PermissionRule := ⟨.admin, "*", Action.all, false⟩
    let single : PermissionRule := ⟨.guest, "/files//secret", [.read], true⟩
    u.isPrivileged = false ∧
      denies.matchesResource "/files//secret" = true ∧
      denies.matchesResource "/files/secret" = false ∧
      check ⟨[denies, allows]⟩ u "/files//secret" .read = false ∧
      check ⟨[allows]⟩ u "/files//secret" .read = true ∧
      ([denies].foldl push ⟨[allows]⟩).check u "/files//secret" .read = true ∧
      check ⟨[foreign, allows, denies]⟩ u "/files//secret" .read =
        check ⟨[allows, denies]⟩ u "/files//secret" .read ∧
      check ⟨[single, allows, denies]⟩ u "/files//secret" .read =
        check ⟨[allows, single, denies]⟩ u "/files//secret" .read ∧
      check {} (u.withRole .system) "/files//secret" .delete = true := by
  intro u denies allows foreign single
  obtain ⟨covers, -, decides, denied, pushed, removed, swapped⟩ :=
    rules_exact u "/files//secret" .read
  obtain ⟨inside, -⟩ := covers denies "/files/" rfl
  obtain ⟨-, sibling⟩ := (rules_exact u "/files/secret" .read).1 denies "/files/" rfl
  obtain ⟨-, privileged, -⟩ := rules_exact (u.withRole .system) "/files//secret" .delete
  have below : Text.split '/' "/files/" <+: Text.split '/' "/files//secret" := by decide
  have allowed : check ⟨[allows]⟩ u "/files//secret" .read = true :=
    (decides rfl _).mpr ⟨[], allows, [], rfl, rfl, by decide, by simp⟩
  have applies : ∃ r ∈ [allows], r.Applies u "/files//secret" .read :=
    ⟨allows, List.mem_singleton_self _, by decide⟩
  refine ⟨rfl, inside.mpr below, sibling "secret" (by decide) (by decide), ?_, allowed, ?_, ?_, ?_,
    privileged rfl {}⟩
  · exact denied denies "/files/" [allows] rfl rfl rfl (by decide) (by decide) below
  · exact (pushed ⟨[allows]⟩ [denies] applies).trans allowed
  · exact removed [] [allows, denies] foreign (by decide)
  · exact swapped [] [denies] single allows rfl

end Permissions

end HttpService
