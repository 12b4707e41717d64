import HttpService.Proofs.Server.Lifecycle

/-!
# When a server says that it runs

Whoever starts a server holds a future. It does nothing until it is polled, it is the accepting loop
once it has entered it, and its owner may drop it at any time. A server says that it runs from the
moment a loop is entered until it is shut down: a loop that is dropped leaves it saying so.
-/

namespace HttpService

/-- The call is one that goes into a loop, if it gets so far. -/
def ServerCall.serves : ServerCall → Bool
  | .start _ | .startTls .. | .serve _ => true
  | .shutdown | .loopEnds => false

/-- What has become of a future that is to serve. -/
inductive Serving
  /-- Not beyond what comes before the loop. -/
  | asked (call : ServerCall) (serves : call.serves = true)
  | accepting
  | ended (answer : Except Failure Unit)
  /-- Dropped before the loop. -/
  | forgotten
  /-- Dropped in the loop, and the loop with it. -/
  | abandoned

namespace Serving

/-- Where a future is that has got its answer from the server. -/
def ofAnswer : Except Failure Unit → Serving
  | .ok () => .accepting
  | .error f => .ended (.error f)

def isAccepting : Serving → Bool
  | .accepting => true
  | _ => false

def isAbandoned : Serving → Bool
  | .abandoned => true
  | _ => false

end Serving

/-- What can happen to a server and to the futures that are to serve for it. -/
inductive ServingMove
  | ask (call : ServerCall) (serves : call.serves = true)
  | poll (i : Nat)
  | drop (i : Nat)
  | shutdown

/-- A server and the futures that were asked for. -/
structure Served where
  server : Server
  futures : List Serving := []

namespace Served

def put (d : Served) (i : Nat) (server : Server) (stage : Serving) : Served where
  server := server
  futures := d.futures.set i stage

/-- A future goes on: to its answer if it has not entered the loop, and out of the loop if that has
to end. -/
def poll (d : Served) (i : Nat) : Served :=
  match d.futures[i]? with
  | some (.asked call _) =>
      d.put i (d.server.perform call).2 (.ofAnswer (d.server.perform call).1)
  | some .accepting =>
      if d.server.loopEnds then d.put i (d.server.perform .loopEnds).2 (.ended (.ok ())) else d
  | _ => d

/-- The owner of a future drops it; one that has ended is gone already. -/
def drop (d : Served) (i : Nat) : Served :=
  match d.futures[i]? with
  | some (.asked ..) => d.put i d.server .forgotten
  | some .accepting => d.put i (d.server.perform .loopEnds).2 .abandoned
  | _ => d

def move (d : Served) : ServingMove → Served
  | .ask call serves => { d with futures := d.futures ++ [.asked call serves] }
  | .poll i => d.poll i
  | .drop i => d.drop i
  | .shutdown => { d with server := (d.server.perform .shutdown).2 }

/-- A server with this configuration after these moves. -/
def after (c : ServerConfig) (moves : List ServingMove) : Served :=
  moves.foldl move { server := { config := c } }

/-- How many futures are in a loop. -/
def accepting (d : Served) : Nat :=
  d.futures.countP Serving.isAccepting

/-- How many futures were dropped in a loop. -/
def abandoned (d : Served) : Nat :=
  d.futures.countP Serving.isAbandoned

/-! ## One move -/

variable {c : ServerConfig} {d d' : Served} {moves : List ServingMove} {i : Nat} {server : Server}
  {call : ServerCall} {serves : call.serves = true}

theorem after_concat (c : ServerConfig) (moves : List ServingMove) (m : ServingMove) :
    after c (moves ++ [m]) = (after c moves).move m := by
  rw [after, List.foldl_append]
  rfl

/-- What happens to the server and to one of its futures, apart from a shutdown. -/
inductive Turns (s : Server) : Serving → Server → Serving → Prop
  | enters {call : ServerCall} {serves : call.serves = true} (listener : Option SocketAddress)
      (idle : s.phase = .idle) : Turns s (.asked call serves)
        { s with phase := .running, localAddr := listener, loops := s.loops + 1 } .accepting
  | fails {call : ServerCall} {serves : call.serves = true} (f : Failure) :
      Turns s (.asked call serves) s (.ended (.error f))
  | leaves (ends : s.loopEnds = true) : Turns s .accepting s.leave (.ended (.ok ()))
  | forgets {call : ServerCall} {serves : call.serves = true} :
      Turns s (.asked call serves) s .forgotten
  | abandons : Turns s .accepting s.leave .abandoned

/-- What a server answers a call that is to serve, and what becomes of it. -/
theorem turns_perform (same : server.config = c) (serves : call.serves = true) :
    Turns server (.asked call serves) (server.perform call).2
      (.ofAnswer (server.perform call).1) := by
  obtain ⟨listener, reaches⟩ | ⟨f, fails⟩ | rfl | rfl := call.cases_of_call c
  · rw [Server.perform_of_reaches same reaches]
    cases phase : server.phase with
    | idle =>
        rw [server.enter_of_idle listener phase]
        exact .enters listener phase
    | running =>
        rw [server.enter_of_running listener phase]
        exact .fails _
    | stopped =>
        rw [server.enter_of_stopped listener phase]
        exact .fails _
  · rw [Server.perform_of_fails same fails]
    exact .fails f
  · cases serves
  · cases serves

/-- A future that is polled or dropped stays as it is or has its turn. -/
theorem move_cases (same : d.server.config = c) (m : ServingMove) :
    (∃ call serves, m = .ask call serves) ∨ m = .shutdown ∨ d.move m = d ∨
      ∃ i server stage stage', d.futures[i]? = some stage ∧ Turns d.server stage server stage' ∧
        d.move m = d.put i server stage' ∧ (stage' = .abandoned → m = .drop i) := by
  cases m with
  | ask call serves => exact .inl ⟨call, serves, rfl⟩
  | shutdown => exact .inr (.inl rfl)
  | poll i =>
      refine .inr (.inr ?_)
      cases here : d.futures[i]? with
      | none => exact .inl (by simp only [move, poll, here])
      | some stage =>
          cases stage with
          | asked call serves =>
              refine .inr ⟨i, _, _, _, here, turns_perform same serves,
                by simp only [move, poll, here], fun left => ?_⟩
              cases answer : (d.server.perform call).1 <;> simp [answer, Serving.ofAnswer] at left
          | accepting =>
              by_cases ends : d.server.loopEnds = true
              · exact .inr ⟨i, _, _, _, here, .leaves ends,
                  by simp only [move, poll, here, if_pos ends]; rfl, fun left => nomatch left⟩
              · exact .inl (by simp only [move, poll, here, if_neg ends])
          | ended | forgotten | abandoned => exact .inl (by simp only [move, poll, here])
  | drop i =>
      refine .inr (.inr ?_)
      cases here : d.futures[i]? with
      | none => exact .inl (by simp only [move, drop, here])
      | some stage =>
          cases stage with
          | asked call serves =>
              exact .inr ⟨i, _, _, _, here, .forgets, by simp only [move, drop, here],
                fun left => nomatch left⟩
          | accepting =>
              exact .inr ⟨i, _, _, _, here, .abandons, by simp only [move, drop, here]; rfl,
                fun _ => rfl⟩
          | ended | forgotten | abandoned => exact .inl (by simp only [move, drop, here])

/-! ## All moves -/

/-- What is true of a server and its futures after some moves. -/
structure Sound (c : ServerConfig) (moves : List ServingMove) (d : Served) : Prop where
  config : d.server.config = c
  stopped : d.server.phase = .stopped ↔ .shutdown ∈ moves
  ends : d.server.loopEnds = true → .shutdown ∈ moves
  loops : d.server.loops = d.accepting
  once : d.accepting + d.abandoned ≤ 1
  /-- What the server says until it is shut down. -/
  running : .shutdown ∉ moves → (d.server.phase = .running ↔ d.accepting + d.abandoned = 1)

namespace Sound

theorem fresh (c : ServerConfig) : Sound c [] { server := { config := c } } where
  config := rfl
  stopped := by simp
  ends ended := nomatch ended
  loops := rfl
  once := Nat.zero_le 1
  running := by simp [accepting, abandoned]

theorem shuts (sound : Sound c moves d) :
    Sound c (moves ++ [.shutdown]) { d with server := d.server.stop } := by
  have shut : ServingMove.shutdown ∈ moves ++ [ServingMove.shutdown] := by simp
  exact ⟨sound.config, iff_of_true rfl shut, fun _ => shut, sound.loops, sound.once,
    fun unshut => absurd shut unshut⟩

/-- Futures that are in no loop do not count. -/
theorem keeps (sound : Sound c moves d) (same : d'.server = d.server)
    (accepting : d'.accepting = d.accepting) (abandoned : d'.abandoned = d.abandoned) :
    Sound c moves d' := by
  obtain ⟨config, stopped, ends, loops, once, running⟩ := sound
  rw [← same] at config stopped ends loops running
  rw [← accepting, ← abandoned] at once running
  exact ⟨config, stopped, ends, loops.trans accepting.symm, once, running⟩

theorem turns (sound : Sound c moves d) {stage stage' : Serving}
    (here : d.futures[i]? = some stage) (turn : Turns d.server stage server stage') :
    Sound c moves (d.put i server stage') := by
  have ⟨config, stopped, ends, loops, once, running⟩ := sound
  have accepting := countP_set_add Serving.isAccepting here stage'
  have abandoned := countP_set_add Serving.isAbandoned here stage'
  change (d.put i server stage').accepting + _ = d.accepting + _ at accepting
  change (d.put i server stage').abandoned + _ = d.abandoned + _ at abandoned
  cases turn with
  | enters listener idle =>
      have unshut : ServingMove.shutdown ∉ moves := by simp [← stopped, idle]
      have none : d.accepting + d.abandoned ≠ 1 := by simp [← running unshut, idle]
      simp only [Serving.isAccepting, Serving.isAbandoned, Bool.toNat_false, Bool.toNat_true,
        Nat.add_zero] at accepting abandoned
      refine ⟨config, iff_of_false nofun unshut, ends, ?_, by omega, fun _ =>
        iff_of_true rfl (by omega)⟩
      rw [accepting, ← loops]
      rfl
  | fails f => exact sound.keeps rfl accepting abandoned
  | leaves ended =>
      simp only [Serving.isAccepting, Serving.isAbandoned, Bool.toNat_false, Bool.toNat_true,
        Nat.add_zero] at accepting abandoned
      refine ⟨config, stopped, ends, ?_, by omega, fun unshut => absurd (ends ended) unshut⟩
      change d.server.leave.loops = _
      rw [Server.loops_leave]
      omega
  | forgets => exact sound.keeps rfl accepting abandoned
  | abandons =>
      simp only [Serving.isAccepting, Serving.isAbandoned, Bool.toNat_false, Bool.toNat_true,
        Nat.add_zero] at accepting abandoned
      -- The loop is gone, but what the server goes by counts it still.
      have moved : (d.put i d.server.leave .abandoned).accepting +
          (d.put i d.server.leave .abandoned).abandoned = d.accepting + d.abandoned := by omega
      refine ⟨config, stopped, ends, ?_, by omega, ?_⟩
      · change d.server.leave.loops = _
        rw [Server.loops_leave]
        omega
      · rw [moved]
        exact running

/-- Only a shutdown matters to what the server says of itself. -/
theorem extend (sound : Sound c moves d) {m : ServingMove} (other : m ≠ .shutdown) :
    Sound c (moves ++ [m]) d := by
  obtain ⟨config, stopped, ends, loops, once, running⟩ := sound
  have same : ServingMove.shutdown ∈ moves ++ [m] ↔ ServingMove.shutdown ∈ moves := by
    simp [Ne.symm other]
  exact ⟨config, stopped.trans same.symm, fun ended => same.mpr (ends ended), loops, once,
    fun unshut => running (mt same.mpr unshut)⟩

theorem concat (sound : Sound c moves d) (m : ServingMove) :
    Sound c (moves ++ [m]) (d.move m) := by
  by_cases shut : m = .shutdown
  · rw [shut]
    exact sound.shuts
  · refine extend ?_ shut
    obtain ⟨call, serves, rfl⟩ | shut' | same | ⟨i, server, stage, stage', here, turn, moved, -⟩ :=
      move_cases sound.config m
    · exact sound.keeps rfl (by simp [move, Served.accepting, Serving.isAccepting])
        (by simp [move, Served.abandoned, Serving.isAbandoned])
    · exact absurd shut' shut
    · rw [same]
      exact sound
    · rw [moved]
      exact sound.turns here turn

end Sound

theorem sound_after (c : ServerConfig) (moves : List ServingMove) :
    Sound c moves (after c moves) := by
  induction moves using List.reverseRecOn with
  | nil => exact .fresh c
  | append_singleton moves m ih =>
      rw [after_concat]
      exact ih.concat m

/-! ## Loops that were dropped -/

/-- Somebody has dropped a future in its loop. -/
def Dropped (c : ServerConfig) (moves : List ServingMove) : Prop :=
  ∃ before i rest, moves = before ++ .drop i :: rest ∧
    (after c before).futures[i]? = some .accepting

theorem Dropped.append (dropped : Dropped c moves) (further : List ServingMove) :
    Dropped c (moves ++ further) := by
  obtain ⟨before, i, rest, rfl, here⟩ := dropped
  exact ⟨before, i, rest ++ further, by simp, here⟩

theorem dropped_concat {m : ServingMove} : Dropped c (moves ++ [m]) ↔
    Dropped c moves ∨ ∃ i, m = .drop i ∧ (after c moves).futures[i]? = some .accepting := by
  constructor
  · rintro ⟨before, i, rest, split, here⟩
    obtain ⟨rfl, rfl⟩ | ⟨rest, rfl⟩ := split_concat split
    · exact .inr ⟨i, rfl, here⟩
    · exact .inl ⟨before, i, rest, rfl, here⟩
  · rintro (dropped | ⟨i, rfl, here⟩)
    · exact dropped.append [m]
    · exact ⟨moves, i, [], rfl, here⟩

theorem abandoned_put {stage stage' : Serving} (here : d.futures[i]? = some stage)
    (turn : Turns d.server stage server stage') :
    (d.put i server stage').abandoned = d.abandoned + stage'.isAbandoned.toNat := by
  have counts := countP_set_add Serving.isAbandoned here stage'
  cases turn <;> exact counts

theorem abandoned_move (same : d.server.config = c) (m : ServingMove) :
    0 < (d.move m).abandoned ↔
      0 < d.abandoned ∨ ∃ i, m = .drop i ∧ d.futures[i]? = some .accepting := by
  constructor
  · intro positive
    obtain ⟨call, serves, rfl⟩ | rfl | kept | ⟨i, server, stage, stage', here, turn, moved, left⟩ :=
      move_cases same m
    · exact .inl (by simpa [move, abandoned, Serving.isAbandoned] using positive)
    · exact .inl positive
    · exact .inl (kept ▸ positive)
    · rw [moved, abandoned_put here turn] at positive
      cases turn with
      | abandons => exact .inr ⟨i, left rfl, here⟩
      | enters | fails | leaves | forgets => exact .inl positive
  · rintro (positive | ⟨i, rfl, here⟩)
    · obtain ⟨call, serves, rfl⟩ | rfl | kept | ⟨i, server, stage, stage', here, turn, moved, -⟩ :=
        move_cases same m
      · simpa [move, abandoned, Serving.isAbandoned] using positive
      · exact positive
      · rwa [kept]
      · rw [moved, abandoned_put here turn]
        exact Nat.add_pos_left positive _
    · have moved : d.move (.drop i) = d.put i d.server.leave .abandoned := by
        simp only [move, drop, here]
        rfl
      rw [moved, abandoned_put here .abandons]
      exact Nat.succ_pos _

theorem abandoned_pos_iff (c : ServerConfig) (moves : List ServingMove) :
    0 < (after c moves).abandoned ↔ Dropped c moves := by
  induction moves using List.reverseRecOn with
  | nil => simp [after, abandoned, Dropped]
  | append_singleton moves m ih =>
      rw [after_concat, abandoned_move (sound_after c moves).config, ih, dropped_concat]

end Served

open Served

namespace Server

/-- Until it is shut down a server says that it runs while its loop is alive, and also once the
owner of that loop has dropped it: then it goes on saying so, no loop is ever alive again, and
whoever starts it is told that it runs already. -/
theorem isRunning_exact (c : ServerConfig) (moves : List ServingMove) :
    let d := Served.after c moves
    (d.server.isRunning = true ↔
      .shutdown ∉ moves ∧ (0 < d.server.loops ∨ Dropped c moves)) ∧
    d.server.loops = d.futures.countP Serving.isAccepting ∧ d.server.loops ≤ 1 ∧
    (Dropped c moves → ∀ further, (Served.after c (moves ++ further)).server.loops = 0) ∧
    (d.server.isRunning = true → ∀ call listener, call.Reaches c listener →
      d.server.perform call = (.error (.alreadyExists "server is already running"), d.server)) := by
  intro d
  have sound : Sound c moves d := sound_after c moves
  have dropped : 0 < d.abandoned ↔ Dropped c moves := abandoned_pos_iff c moves
  have tells : d.server.isRunning = true ↔ d.server.phase = .running := beq_iff_eq
  refine ⟨?_, sound.loops, sound.loops ▸ Nat.le_trans (Nat.le_add_right _ _) sound.once,
    fun left further => ?_, fun runs call listener reaches => ?_⟩
  · have alive : d.accepting + d.abandoned = 1 ↔ 0 < d.server.loops ∨ Dropped c moves := by
      rw [← dropped, sound.loops]
      have once := sound.once
      omega
    rw [tells, ← alive]
    constructor
    · intro running
      have unshut : ServingMove.shutdown ∉ moves := by
        rw [← sound.stopped, running]
        exact nofun
      exact ⟨unshut, (sound.running unshut).mp running⟩
    · exact fun ⟨unshut, one⟩ => (sound.running unshut).mpr one
  · have sound := sound_after c (moves ++ further)
    have left := (abandoned_pos_iff c _).mpr (left.append further)
    have once := sound.once
    rw [sound.loops]
    omega
  · rw [perform_of_reaches sound.config reaches, enter_of_running _ _ (tells.mp runs)]
    rfl

/-- A loop that its owner has dropped. -/
theorem not_only_while_accepting : ¬ ∀ (c : ServerConfig) (moves : List ServingMove),
    (Served.after c moves).server.isRunning = true → 0 < (Served.after c moves).server.loops := by
  intro only
  exact absurd (only {} [.ask (.serve none) rfl, .poll 0, .drop 0] rfl) (by decide)

end Server

end HttpService
