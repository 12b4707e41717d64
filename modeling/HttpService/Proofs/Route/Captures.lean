import HttpService.Proofs.Route.Matching
import HttpService.Proofs.Route.Reading
import HttpService.Proofs.Table
import HttpService.Route.Router
import Mathlib

/-!
# What a pattern captures

A path matches a pattern exactly if it is the pattern's literal text with non-empty values without
slashes for the placeholders. The values captured make up the path again, and of all such values they
are the leftmost-longest ones.
-/

namespace HttpService.Pattern

/-- The text of the literals with the values between them. -/
def interleave (first : List Char) (rest : List (List Char × List Char))
    (values : List (List Char)) : List Char :=
  first ++ (List.zipWith (fun value entry => value ++ entry.2) values rest).flatten

/-- One value for each placeholder, with which the pattern's text becomes the given one. -/
structure Solution (first : List Char) (rest : List (List Char × List Char)) (cs : List Char)
    (values : List (List Char)) : Prop where
  count : values.length = rest.length
  valid : ∀ value ∈ values, IsValue value
  whole : interleave first rest values = cs

/-- The parts with what a table has for their placeholders. -/
def substitute (params : Table String) (parts : List Part) : List Char :=
  parts.flatMap fun
    | .literal text => text
    | .placeholder name => ((params.find? (String.ofList name)).getD "").toList

theorem Solution.fits {first cs : List Char} {rest : List (List Char × List Char)}
    {values : List (List Char)} (solution : Solution first rest cs values) :
    Fits (alternate first rest) cs ((rest.map Prod.fst).zip values) := by
  obtain ⟨count, valid, whole⟩ := solution
  subst whole
  induction rest generalizing first values with
  | nil =>
      cases List.length_eq_zero_iff.mp count
      exact .literal first .done
  | cons entry rest ih =>
      obtain ⟨name, text⟩ := entry
      cases values with
      | nil => cases count
      | cons value values =>
          have inner : Fits (alternate text rest) (interleave text rest values)
              ((rest.map Prod.fst).zip values) :=
            ih (Nat.succ.inj count) fun v member => valid v (List.mem_cons_of_mem _ member)
          have shape : interleave first ((name, text) :: rest) (value :: values) =
              first ++ (value ++ interleave text rest values) := by
            simp [interleave]
          rw [alternate_cons, shape]
          exact .literal first (.placeholder name (valid value List.mem_cons_self) inner)

theorem Fits.solution {first cs : List Char} {rest found : List (List Char × List Char)}
    (fits : Fits (alternate first rest) cs found) :
    ∃ values, Solution first rest cs values ∧ found = (rest.map Prod.fst).zip values := by
  induction rest generalizing first cs found with
  | nil =>
      cases fits with
      | literal _ nothing =>
          cases nothing
          exact ⟨[], ⟨rfl, by simp, by simp [interleave]⟩, rfl⟩
  | cons entry rest ih =>
      obtain ⟨name, text⟩ := entry
      rw [alternate_cons] at fits
      cases fits with
      | literal _ after =>
          cases after with
          | @placeholder _ _ _ _ value valid inner =>
              obtain ⟨values, solution, eq⟩ := ih inner
              refine ⟨value :: values, ⟨?_, ?_, ?_⟩, ?_⟩
              · simp [solution.count]
              · intro v member
                rcases List.mem_cons.mp member with same | later
                · exact same ▸ valid
                · exact solution.valid v later
              · rw [← solution.whole]
                simp [interleave]
              · simp [eq]

theorem substitute_alternate {params : Table String} {first : List Char}
    {rest : List (List Char × List Char)} {values : List (List Char)}
    (count : values.length = rest.length)
    (found : ∀ entry ∈ (rest.map Prod.fst).zip values,
      params.find? (String.ofList entry.1) = some (String.ofList entry.2)) :
    substitute params (alternate first rest) = interleave first rest values := by
  induction rest generalizing first values with
  | nil =>
      cases List.length_eq_zero_iff.mp count
      simp [substitute, alternate, interleave]
  | cons entry rest ih =>
      obtain ⟨name, text⟩ := entry
      cases values with
      | nil => cases count
      | cons value values =>
          have here : params.find? (String.ofList name) = some (String.ofList value) :=
            found (name, value) (by simp)
          have inner : substitute params (alternate text rest) = interleave text rest values :=
            ih (Nat.succ.inj count) fun e member => found e (List.mem_cons_of_mem _ member)
          unfold substitute at inner ⊢
          rw [alternate_cons, List.flatMap_cons, List.flatMap_cons, inner]
          simp [interleave, here]

/-! ## Captured parameters -/

/-- The names and values found, as entries of a table. -/
def entries (found : List (List Char × List Char)) : List (String × String) :=
  found.map fun (name, value) => (String.ofList name, String.ofList value)

theorem captures_eq (p : Pattern) (path : String) :
    p.captures path =
      (matchParts p.parts path.toList).map fun found => Table.ofList (entries found) := rfl

theorem keys_entries {names values : List (List Char)} (count : values.length = names.length) :
    (entries (names.zip values)).map Prod.fst = names.map String.ofList := by
  have firsts : (entries (names.zip values)).map Prod.fst =
      ((names.zip values).map Prod.fst).map String.ofList := by
    simp [entries, Function.comp_def]
  rw [firsts, List.map_fst_zip count.ge]

theorem captures_isSome_iff {p : Pattern} {first : List Char}
    {rest : List (List Char × List Char)} (shape : p.parts = alternate first rest) (path : String) :
    (p.captures path).isSome ↔ ∃ values, Solution first rest path.toList values := by
  rw [captures_eq, Option.isSome_map, shape]
  constructor
  · intro matched
    obtain ⟨found, eq⟩ := Option.isSome_iff_exists.mp matched
    obtain ⟨values, solution, -⟩ := (matchParts_sound eq).solution
    exact ⟨values, solution⟩
  · rintro ⟨values, solution⟩
    exact matchParts_complete solution.fits

/-- What is captured is a solution, and no other one has a longer value where they first differ. -/
theorem captures_eq_some {p : Pattern} {first : List Char} {rest : List (List Char × List Char)}
    (shape : p.parts = alternate first rest) {path : String} {params : Table String}
    (captured : p.captures path = some params) :
    ∃ values, Solution first rest path.toList values ∧
      params = Table.ofList (entries ((rest.map Prod.fst).zip values)) ∧
      ∀ other, Solution first rest path.toList other → ∀ i, other.take i = values.take i →
        (other.getD i []).length ≤ (values.getD i []).length := by
  rw [captures_eq, shape] at captured
  obtain ⟨found, matched, eq⟩ := Option.map_eq_some_iff.mp captured
  obtain ⟨values, solution, zipped⟩ := (matchParts_sound matched).solution
  subst zipped
  refine ⟨values, solution, eq.symm, fun other otherSolution i agree => ?_⟩
  have sameTake : ((rest.map Prod.fst).zip other).take i =
      ((rest.map Prod.fst).zip values).take i := by
    simp only [List.zip, List.take_zipWith, agree]
  have longest := matchParts_greedy matched otherSolution.fits i sameTake
  rwa [List.map_snd_zip (by simp [otherSolution.count]),
    List.map_snd_zip (by simp [solution.count])] at longest

/-- A router with one route for a pattern that is accepted answers with what the pattern captures. -/
theorem matchRoute_single {text : String} {p : Pattern} (compiled : compile text = .ok p)
    (method : Method) (handler : Handler) :
    ∃ r, Router.handle {} none method text handler = .ok r ∧
      ∀ path, r.matchRoute method path = (p.captures path).map fun params => ⟨text, params⟩ := by
  obtain ⟨sameText, -⟩ := compile_reads compiled
  refine ⟨{ routes := [⟨method, p, none, handler⟩] }, ?_, ?_⟩
  · simp [Router.handle, Router.insert, Router.has, compiled, bind, Except.bind]
  · intro path
    cases captured : p.captures path <;>
      simp [Router.matchRoute, Router.find, Route.captures?, captured, sameText]

/-- An accepted pattern is read as literals and placeholders in turn. A path matches exactly if
values for the placeholders make it up, and then one value for each name is captured, the earlier ones
as long as any solution allows; putting them back into the pattern gives the path. -/
theorem captures_exact {text : String} {p : Pattern} (compiled : compile text = .ok p) :
    ∃ first rest, Reads [] text.toList first rest ∧
      (∀ path : String,
        (p.captures path).isSome ↔ ∃ values, Solution first rest path.toList values) ∧
      (∀ path params, p.captures path = some params →
        params.keys.Perm (rest.map fun entry => String.ofList entry.1) ∧
        String.ofList (substitute params (alternate first rest)) = path ∧
        ∃ values, Solution first rest path.toList values ∧
          (∀ entry ∈ (rest.map Prod.fst).zip values,
            params.find? (String.ofList entry.1) = some (String.ofList entry.2)) ∧
          ∀ other, Solution first rest path.toList other → ∀ i, other.take i = values.take i →
            (other.getD i []).length ≤ (values.getD i []).length) ∧
      ∀ method handler, ∃ r, Router.handle {} none method text handler = .ok r ∧
        ∀ path, r.matchRoute method path = (p.captures path).map fun params => ⟨text, params⟩ := by
  obtain ⟨-, first, rest, shape, reads⟩ := compile_reads compiled
  refine ⟨first, rest, reads, captures_isSome_iff shape, ?_, matchRoute_single compiled⟩
  intro path params captured
  obtain ⟨values, solution, tabled, longest⟩ := captures_eq_some shape captured
  have names : (entries ((rest.map Prod.fst).zip values)).map Prod.fst =
      (rest.map Prod.fst).map String.ofList :=
    keys_entries (solution.count.trans (List.length_map _).symm)
  have distinct : ((rest.map Prod.fst).map String.ofList).Nodup :=
    List.Nodup.map (fun _ _ same => String.ofList_injective same)
      (List.nodup_append.mp reads.distinct).2.1
  rw [← names] at distinct
  have found : ∀ entry ∈ (rest.map Prod.fst).zip values,
      params.find? (String.ofList entry.1) = some (String.ofList entry.2) := by
    intro entry member
    rw [tabled]
    exact Table.find?_ofList distinct (List.mem_map_of_mem member)
  refine ⟨?_, ?_, values, solution, found, longest⟩
  · have perm := Table.keys_ofList_perm distinct
    rw [names, List.map_map] at perm
    exact tabled ▸ perm
  · rw [substitute_alternate solution.count found, solution.whole, String.ofList_toList]

/-- Three placeholders in one segment: of several solutions the leftmost-longest one is captured, and a
value does not reach over a slash. -/
theorem captures_exact_shared_segment :
    let text := "/\x7ba\x7d-\x7bb\x7d.\x7bc\x7d"
    ∃ p first rest, compile text = .ok p ∧ Reads [] text.toList first rest ∧
      p.captures "/x-y-z.t.u" = some [("a", "x-y"), ("b", "z.t"), ("c", "u")] ∧
      (∃ values, Solution first rest "/x-y-z.t.u".toList values) ∧
      ¬ ∃ values, Solution first rest "/x-y/z.t".toList values := by
  intro text
  let p : Pattern :=
    ⟨text, alternate ['/'] [(['a'], ['-']), (['b'], ['.']), (['c'], [])]⟩
  have compiled : compile text = .ok p := by cbv
  have captured : p.captures "/x-y-z.t.u" = some [("a", "x-y"), ("b", "z.t"), ("c", "u")] := by cbv
  have refused : (p.captures "/x-y/z.t").isSome = false := by cbv
  obtain ⟨first, rest, reads, accepts, -, -⟩ := captures_exact compiled
  refine ⟨p, first, rest, compiled, reads, captured, ?_, ?_⟩
  · exact (accepts "/x-y-z.t.u").mp (by rw [captured]; rfl)
  · intro solvable
    have accepted := (accepts "/x-y/z.t").mpr solvable
    rw [refused] at accepted
    cases accepted

end HttpService.Pattern
