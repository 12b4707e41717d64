import HttpService.Route.Pattern
import Mathlib.Data.List.Chain
import Mathlib.Data.List.DropRight
import Mathlib.Data.List.Induction
import Mathlib.Data.String.Basic

/-!
# Patterns below paths

Putting patterns below paths is associative. So of paths and a pattern that lie below one another it
matters only how they follow each other: each part that is not empty stands with a slash in front,
and only slashes at its end are lost where another part follows.
-/

namespace HttpService.Pattern

variable {cs ds : List Char}

/-! ## Slashes at the ends -/

/-- The part with a slash in front, unless it starts with one. -/
def led (part : List Char) : List Char :=
  if part.head? = some '/' then part else '/' :: part

/-- The part without the slashes at its end. -/
def unslashed (part : List Char) : List Char :=
  part.rdropWhile (· == '/')

theorem head?_led (part : List Char) : (led part).head? = some '/' := by
  unfold led
  split
  · assumption
  · rfl

theorem ne_nil_of_head? (slash : cs.head? = some '/') : cs ≠ [] := by
  rintro rfl
  cases slash

theorem led_of_head? (slash : cs.head? = some '/') : led cs = cs :=
  if_pos slash

theorem unslashed_append (cs ds : List Char) :
    unslashed (cs ++ ds) = if unslashed ds = [] then unslashed cs else cs ++ unslashed ds := by
  induction ds using List.reverseRecOn with
  | nil => simp [unslashed]
  | append_singleton ds c ih =>
      unfold unslashed at ih ⊢
      rw [← List.append_assoc, List.rdropWhile_concat, List.rdropWhile_concat, ih]
      split
      · rfl
      · simp

/-- Only the slashes at the end of what stands last matter. -/
theorem unslashed_unslashed_append (cs ds : List Char) :
    unslashed (unslashed cs ++ ds) = unslashed cs ++ unslashed ds := by
  rw [unslashed_append]
  split
  · next none =>
      rw [none, List.append_nil]
      exact List.rdropWhile_idempotent _ _
  · rfl

theorem led_append (nonempty : cs ≠ []) (ds : List Char) : led (cs ++ ds) = led cs ++ ds := by
  obtain ⟨c, cs, rfl⟩ := List.exists_cons_of_ne_nil nonempty
  unfold led
  split <;> simp_all

theorem led_unslashed (left : unslashed cs ≠ []) : led (unslashed cs) = unslashed (led cs) := by
  obtain ⟨slashes, whole⟩ : unslashed cs <+: cs := List.rdropWhile_prefix _ _
  have same : (unslashed cs).head? = cs.head? :=
    (List.head?_append_of_ne_nil _ left).symm.trans (congrArg List.head? whole)
  unfold led
  rw [same]
  split
  · rfl
  · exact ((unslashed_append ['/'] cs).trans (if_neg left)).symm

/-- A part's slash in front is lost only if the part is nothing but slashes, and then the next part
has one. -/
theorem led_unslashed_append (nonempty : cs ≠ []) (slash : ds.head? = some '/') :
    led (unslashed cs ++ ds) = unslashed (led cs) ++ ds := by
  by_cases none : unslashed cs = []
  · have slashes : ∀ c ∈ cs, (c == '/') = true := List.rdropWhile_eq_nil_iff.mp none
    obtain ⟨c, cs, rfl⟩ := List.exists_cons_of_ne_nil nonempty
    have first : c = '/' := by simpa using slashes c List.mem_cons_self
    have start : (c :: cs).head? = some '/' := congrArg some first
    rw [led_of_head? start, none, List.nil_append, led_of_head? slash]
  · rw [led_append none, led_unslashed none]

/-! ## Joining -/

theorem startsWith_slash_iff (s : String) :
    Text.startsWith s "/" = true ↔ s.toList.head? = some '/' := by
  have slash : "/".toList = ['/'] := rfl
  rw [Text.startsWith, slash, List.isPrefixOf_iff_prefix]
  cases s.toList with
  | nil => simp
  | cons c cs => simp [List.cons_prefix_cons, eq_comm]

theorem toList_join (above below : String) :
    (join above below).toList =
      if below = "" then above.toList else unslashed above.toList ++ led below.toList := by
  unfold join
  by_cases empty : below = ""
  · simp [empty]
  · rw [if_neg (by simpa using empty), if_neg empty]
    dsimp only
    split
    · next starts =>
        rw [led_of_head? ((startsWith_slash_iff below).mp starts), String.toList_append,
          String.toList_ofList]
        rfl
    · next starts =>
        rw [led, if_neg (mt (startsWith_slash_iff below).mpr starts), String.toList_append,
          String.toList_append, String.toList_ofList, List.append_assoc]
        rfl

theorem toList_ne_nil {s : String} (nonempty : s ≠ "") : s.toList ≠ [] := by
  simpa using nonempty

theorem join_empty (above : String) : join above "" = above := rfl

theorem join_ne_empty (above : String) {below : String} (nonempty : below ≠ "") :
    join above below ≠ "" := by
  intro empty
  have joined := toList_join above below
  rw [empty, if_neg nonempty] at joined
  exact ne_nil_of_head? (head?_led _) (List.append_eq_nil_iff.mp joined.symm).2

theorem join_assoc (a b c : String) : join (join a b) c = join a (join b c) := by
  by_cases last : c = ""
  · rw [last, join_empty, join_empty]
  · apply String.toList_injective
    rw [toList_join, if_neg last, toList_join a (join b c), if_neg (join_ne_empty b last),
      toList_join, toList_join, if_neg last]
    by_cases middle : b = ""
    · rw [if_pos middle, middle]
      exact congrArg (unslashed a.toList ++ ·) (led_of_head? (head?_led _)).symm
    · rw [if_neg middle, unslashed_unslashed_append, List.append_assoc,
        led_unslashed_append (toList_ne_nil middle) (head?_led _)]

/-! ## Bracketings -/

/-- A way to join parts two by two. -/
inductive Bracketing
  | part (text : String)
  | pair (above below : Bracketing)

namespace Bracketing

def parts : Bracketing → List String
  | part text => [text]
  | pair above below => above.parts ++ below.parts

def joined : Bracketing → String
  | part text => text
  | pair above below => join above.joined below.joined

theorem join_joined (b : Bracketing) (path : String) :
    join path b.joined = b.parts.foldl join path := by
  induction b generalizing path with
  | part text => rfl
  | pair above below ihAbove ihBelow =>
      rw [joined, ← join_assoc, ihAbove, ihBelow, parts, List.foldl_append]

end Bracketing

theorem join_foldr (paths : List String) (path pattern : String) :
    join path (paths.foldr join pattern) = (paths ++ [pattern]).foldl join path := by
  induction paths generalizing path with
  | nil => rfl
  | cons first paths ih =>
      rw [List.foldr_cons, ← join_assoc, ih, List.cons_append, List.foldl_cons]

/-! ## Seams -/

/-- What is kept of a part where another one follows. -/
def Trimmed (part kept : List Char) : Prop :=
  kept.getLast? ≠ some '/' ∧ ∃ slashes, part = kept ++ List.replicate slashes '/'

/-- The parts that are not empty stand in their order, with a slash in front. Nothing else is put
between them, and nothing but slashes at the end of a part is lost where another one follows. -/
inductive Seamed : List (List Char) → List Char → Prop
  | nothing : Seamed [] []
  | skip {parts : List (List Char)} {whole : List Char} (rest : Seamed parts whole) :
      Seamed ([] :: parts) whole
  | last {part : List Char} {parts : List (List Char)} (nonempty : part ≠ [])
      (rest : Seamed parts []) : Seamed (part :: parts) (led part)
  | seam {part kept whole : List Char} {parts : List (List Char)} (nonempty : part ≠ [])
      (trimmed : Trimmed (led part) kept) (more : whole ≠ []) (rest : Seamed parts whole) :
      Seamed (part :: parts) (kept ++ whole)

section

variable {part kept whole : List Char} {parts : List (List Char)}

theorem trimmed_unslashed (part : List Char) : Trimmed part (unslashed part) := by
  constructor
  · intro slash
    have nonempty : unslashed part ≠ [] := fun none => by
      rw [none] at slash
      cases slash
    have last := List.rdropWhile_last_not (· == '/') part nonempty
    rw [List.getLast?_eq_some_getLast nonempty] at slash
    exact last (beq_iff_eq.mpr (Option.some.inj slash))
  · have slashes : ∀ c ∈ part.rtakeWhile (· == '/'), c = '/' := fun c member => by
      simpa using List.mem_rtakeWhile_imp member
    refine ⟨(part.rtakeWhile (· == '/')).length, ?_⟩
    rw [← List.eq_replicate_of_mem slashes]
    exact List.rdropWhile_append_rtakeWhile.symm

theorem Trimmed.eq_unslashed (trimmed : Trimmed part kept) : kept = unslashed part := by
  obtain ⟨noSlash, slashes, rfl⟩ := trimmed
  have lost : unslashed (List.replicate slashes '/') = [] :=
    List.rdropWhile_eq_nil_iff.mpr fun c member => by simpa using List.eq_of_mem_replicate member
  rw [unslashed_append, if_pos lost]
  refine (List.rdropWhile_eq_self_iff.mpr fun nonempty slash => noSlash ?_).symm
  rw [List.getLast?_eq_some_getLast nonempty]
  simpa using slash

theorem Seamed.concat (seamed : Seamed parts whole) (part : List Char) :
    Seamed (parts ++ [part]) (if part = [] then whole else unslashed whole ++ led part) := by
  induction seamed with
  | nothing =>
      split
      · next empty =>
          rw [empty]
          exact .skip .nothing
      · next nonempty => exact .last nonempty .nothing
  | skip rest ih => exact .skip ih
  | @last first parts nonempty rest ih =>
      split at ih
      · next empty =>
          rw [if_pos empty]
          exact .last nonempty ih
      · next follows =>
          rw [if_neg follows]
          exact .seam nonempty (trimmed_unslashed _) (ne_nil_of_head? (head?_led _)) ih
  | @seam first kept whole parts nonempty trimmed more rest ih =>
      split at ih
      · next empty =>
          rw [if_pos empty]
          exact .seam nonempty trimmed more ih
      · next follows =>
          have whole : unslashed (kept ++ whole) ++ led part =
              kept ++ (unslashed whole ++ led part) := by
            rw [trimmed.eq_unslashed, unslashed_unslashed_append, List.append_assoc]
          rw [if_neg follows, whole]
          refine .seam nonempty trimmed ?_ ih
          exact List.append_ne_nil_of_right_ne_nil _ (ne_nil_of_head? (head?_led _))

theorem seamed_foldl (texts : List String) :
    Seamed (texts.map String.toList) (texts.foldl join "").toList := by
  induction texts using List.reverseRecOn with
  | nil => exact .nothing
  | append_singleton texts text ih =>
      rw [List.foldl_concat, List.map_append, toList_join]
      have seamed := ih.concat text.toList
      simpa using seamed

/-- Whatever is joined starts with a slash, and nothing is joined of empty parts only. -/
theorem Seamed.head? (seamed : Seamed parts whole) :
    whole.head? = some '/' ∨ whole = [] ∧ ∀ part ∈ parts, part = [] := by
  induction seamed with
  | nothing => exact .inr ⟨rfl, by simp⟩
  | skip rest ih =>
      exact ih.imp_right fun ⟨ended, empty⟩ => ⟨ended, List.forall_mem_cons.mpr ⟨rfl, empty⟩⟩
  | last nonempty rest ih => exact .inl (head?_led _)
  | @seam first kept whole parts nonempty trimmed more rest ih =>
      left
      obtain ⟨-, slashes, split⟩ := trimmed
      cases kept with
      | nil => exact ih.resolve_right fun none => more none.1
      | cons c kept =>
          have start := head?_led first
          rwa [split] at start

/-- No two slashes follow each other. -/
def Single (cs : List Char) : Prop :=
  ¬ ['/', '/'] <:+: cs

theorem single_iff : Single cs ↔ cs.IsChain fun a b => ¬ (a = '/' ∧ b = '/') := by
  rw [List.isChain_iff_forall_rel_of_append_cons_cons]
  constructor
  · rintro single a b before after rfl ⟨rfl, rfl⟩
    exact single ⟨before, after, by simp⟩
  · rintro apart ⟨before, after, rfl⟩
    have doubled : before ++ ['/', '/'] ++ after = before ++ '/' :: '/' :: after := by simp
    exact apart doubled ⟨rfl, rfl⟩

theorem Single.led (single : Single part) : Single (led part) := by
  unfold Pattern.led
  split
  · exact single
  · next other =>
      rw [single_iff] at single ⊢
      refine List.isChain_cons.mpr ⟨?_, single⟩
      rintro c first ⟨-, rfl⟩
      exact other first

theorem Trimmed.single_append (trimmed : Trimmed part kept) (single : Single part)
    (more : Single whole) : Single (kept ++ whole) := by
  obtain ⟨noSlash, slashes, rfl⟩ := trimmed
  have before := (single_iff.mp single).left_of_append
  refine single_iff.mpr (before.append (single_iff.mp more) ?_)
  rintro c final d - ⟨rfl, -⟩
  exact noSlash final

theorem Seamed.single (seamed : Seamed parts whole) (single : ∀ part ∈ parts, Single part) :
    Single whole := by
  induction seamed with
  | nothing => simp [Single]
  | skip rest ih => exact ih (List.forall_mem_cons.mp single).2
  | last nonempty rest ih => exact (List.forall_mem_cons.mp single).1.led
  | seam nonempty trimmed more rest ih =>
      obtain ⟨here, later⟩ := List.forall_mem_cons.mp single
      exact trimmed.single_append here.led (ih later)

/-- Nothing but slashes at the end of what is above is lost where two parts meet. -/
theorem join_meets (above below : String) :
    below = "" ∧ join above below = above ∨
      ∃ kept, Trimmed above.toList kept ∧ (join above below).toList = kept ++ led below.toList := by
  by_cases empty : below = ""
  · exact .inl ⟨empty, by rw [empty, join_empty]⟩
  · exact .inr ⟨_, trimmed_unslashed _, by rw [toList_join, if_neg empty]⟩

theorem single_join {above below : String} (singleAbove : Single above.toList)
    (singleBelow : Single below.toList) : Single (join above below).toList := by
  obtain ⟨-, same⟩ | ⟨kept, trimmed, whole⟩ := join_meets above below
  · rwa [same]
  · rw [whole]
    exact trimmed.single_append singleAbove singleBelow.led

/-- What parts that lie below one another are joined to. -/
structure Joined (parts : List String) (whole : String) : Prop where
  seamed : Seamed (parts.map String.toList) whole.toList
  slash : whole.toList.head? = some '/' ∨ ∀ part ∈ parts, part = ""
  single : (∀ part ∈ parts, Single part.toList) → Single whole.toList

theorem joined_foldl (texts : List String) : Joined texts (texts.foldl join "") where
  seamed := seamed_foldl texts
  slash := by
    refine (seamed_foldl texts).head?.imp_right ?_
    rintro ⟨-, empty⟩ text member
    simpa using empty text.toList (List.mem_map_of_mem member)
  single each := by
    refine (seamed_foldl texts).single fun part member => ?_
    obtain ⟨text, here, rfl⟩ := List.mem_map.mp member
    exact each text here

end

end HttpService.Pattern
