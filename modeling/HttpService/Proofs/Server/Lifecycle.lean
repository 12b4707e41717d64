import HttpService.Proofs.Concat
import HttpService.Proofs.Server.Preparation
import Mathlib.Data.List.Induction

/-!
# Histories of a server

Those who hold a server start it, serve at listeners of their own and shut it down, in any order,
and loops come to their end. The history alone says in which phase the server is and where it
listens: the loop is that of the first call to get so far, unless a shutdown comes before.
-/

namespace HttpService

/-- What can happen to a server. -/
inductive ServerCall
  | start (m : Machine)
  /-- Starting over TLS with files of the caller's. -/
  | startTls (m : Machine) (names : TlsFiles)
  /-- Serving at a listener that is bound already, whose address may not be known. -/
  | serve (listener : Option SocketAddress)
  | shutdown
  | loopEnds

namespace Server

/-- The answer of a call that is to go into a loop, and the server after it. -/
def settle (s : Server) : Except Failure Server → Except Failure Unit × Server
  | .ok entered => (.ok (), entered)
  | .error f => (.error f, s)

def perform (s : Server) : ServerCall → Except Failure Unit × Server
  | .start m => s.settle (s.start m)
  | .startTls m names => s.settle (s.startTls m names)
  | .serve listener => s.settle (s.enter listener)
  | .shutdown => (s.drain, s.stop)
  | .loopEnds => (.ok (), s.leave)

/-- A server after a history. -/
def after (c : ServerConfig) (calls : List ServerCall) : Server :=
  calls.foldl (fun s call => (s.perform call).2) { config := c }

end Server

/-! ## Before the loop -/

namespace ServerCall

variable (c : ServerConfig)

/-- The call gets as far as the loop, and has this listener there. -/
inductive Reaches : ServerCall → Option SocketAddress → Prop
  | start {m : Machine} {addr : SocketAddress} (listens : Server.Listens c m c.tls addr) :
      Reaches (.start m) (some addr)
  | startTls {m : Machine} {names : TlsFiles} {addr : SocketAddress}
      (listens : Server.Listens c m (some names) addr) : Reaches (.startTls m names) (some addr)
  | serve (listener : Option SocketAddress) : Reaches (.serve listener) listener

/-- The call fails before the loop: it has no address, no listener there or no use for its files. -/
inductive Fails : ServerCall → Failure → Prop
  | start {m : Machine} {f : Failure} (unprepared : Server.Unprepared c m c.tls f) :
      Fails (.start m) f
  | startTls {m : Machine} {names : TlsFiles} {f : Failure}
      (unprepared : Server.Unprepared c m (some names) f) : Fails (.startTls m names) f

variable {c} {call : ServerCall} {listener listener' : Option SocketAddress} {f : Failure}

theorem Reaches.unique (reaches : call.Reaches c listener) (reaches' : call.Reaches c listener') :
    listener = listener' := by
  cases reaches with
  | start listens =>
      cases reaches' with
      | start listens' => exact congrArg some (listens.unique listens')
  | startTls listens =>
      cases reaches' with
      | startTls listens' => exact congrArg some (listens.unique listens')
  | serve listener => cases reaches'; rfl

theorem Reaches.not_shutdown (reaches : call.Reaches c listener) : call ≠ .shutdown := by
  rintro rfl
  cases reaches

theorem Fails.not_shutdown (fails : call.Fails c f) : call ≠ .shutdown := by
  rintro rfl
  cases fails

theorem Fails.not_reaches (fails : call.Fails c f) : ¬ call.Reaches c listener := by
  intro reaches
  cases fails with
  | start unprepared => cases reaches with | start listens => exact unprepared.not_listens listens
  | startTls unprepared =>
      cases reaches with | startTls listens => exact unprepared.not_listens listens

variable (c call) in
/-- Whoever starts a server gets as far as the loop or fails before it. -/
theorem cases_of_call : (∃ listener, call.Reaches c listener) ∨ (∃ f, call.Fails c f) ∨
    call = .shutdown ∨ call = .loopEnds := by
  cases call with
  | start m =>
      obtain ⟨addr, listens⟩ | ⟨f, unprepared⟩ := Server.listens_or_unprepared c m c.tls
      · exact .inl ⟨_, .start listens⟩
      · exact .inr (.inl ⟨f, .start unprepared⟩)
  | startTls m names =>
      obtain ⟨addr, listens⟩ | ⟨f, unprepared⟩ := Server.listens_or_unprepared c m (some names)
      · exact .inl ⟨_, .startTls listens⟩
      · exact .inr (.inl ⟨f, .startTls unprepared⟩)
  | serve listener => exact .inl ⟨_, .serve listener⟩
  | shutdown => exact .inr (.inr (.inl rfl))
  | loopEnds => exact .inr (.inr (.inr rfl))

end ServerCall

namespace Server

variable {c : ServerConfig} {s s' : Server} {call : ServerCall}
  {listener listener' : Option SocketAddress} {f : Failure}

theorem perform_of_reaches (same : s.config = c) (reaches : call.Reaches c listener) :
    s.perform call = s.settle (s.enter listener) := by
  subst same
  cases reaches with
  | start listens =>
      have ready : s.prepare _ = .ok _ := prepareWith_of_listens listens
      simp only [perform, Server.start, ready]
      rfl
  | startTls listens =>
      simp only [perform, Server.startTls, prepareWith_of_listens listens]
      rfl
  | serve listener => rfl

/-- A call that fails before the loop leaves the server as it is. -/
theorem perform_of_fails (same : s.config = c) (fails : call.Fails c f) :
    s.perform call = (.error f, s) := by
  subst same
  cases fails with
  | start unprepared =>
      have failed : s.prepare _ = .error f := prepareWith_of_unprepared unprepared
      simp only [perform, Server.start, failed]
      rfl
  | startTls unprepared =>
      simp only [perform, Server.startTls, prepareWith_of_unprepared unprepared]
      rfl

theorem enter_of_idle (s : Server) (listener : Option SocketAddress) (idle : s.phase = .idle) :
    s.enter listener =
      .ok { s with phase := .running, localAddr := listener, loops := s.loops + 1 } := by
  simp [enter, idle]

theorem enter_of_running (s : Server) (listener : Option SocketAddress)
    (running : s.phase = .running) :
    s.enter listener = .error (.alreadyExists "server is already running") := by
  simp [enter, refusal, running]

theorem enter_of_stopped (s : Server) (listener : Option SocketAddress)
    (stopped : s.phase = .stopped) : s.enter listener =
      .error ((Failure.unavailable "server has been shut down").withDomain .network) := by
  simp [enter, refusal, stopped]

/-- A call that reaches the loop and finds the server in use, or shut down, changes nothing. -/
theorem perform_of_taken (same : s.config = c) (reaches : call.Reaches c listener)
    (taken : s.phase ≠ .idle) : (s.perform call).2 = s := by
  rw [perform_of_reaches same reaches]
  cases phase : s.phase with
  | idle => exact absurd phase taken
  | running => rw [s.enter_of_running listener phase]; rfl
  | stopped => rw [s.enter_of_stopped listener phase]; rfl

theorem after_concat (c : ServerConfig) (calls : List ServerCall) (call : ServerCall) :
    after c (calls ++ [call]) = ((after c calls).perform call).2 := by
  rw [after, List.foldl_append]
  rfl

end Server

/-! ## Histories -/

/-- Nobody has reached the loop in a history, and nobody has shut the server down. -/
def Untouched (c : ServerConfig) (calls : List ServerCall) : Prop :=
  .shutdown ∉ calls ∧ ∀ call ∈ calls, ∀ listener, ¬ call.Reaches c listener

/-- The loop that is entered in a history: that of the first call to reach it, if nobody has shut
the server down before. -/
def Enters (c : ServerConfig) (calls : List ServerCall) (listener : Option SocketAddress) : Prop :=
  ∃ before call rest, calls = before ++ call :: rest ∧ Untouched c before ∧
    call.Reaches c listener

section

variable {c : ServerConfig} {calls : List ServerCall} {call : ServerCall}
  {listener listener' : Option SocketAddress}

theorem untouched_concat : Untouched c (calls ++ [call]) ↔
    Untouched c calls ∧ call ≠ .shutdown ∧ ∀ listener, ¬ call.Reaches c listener := by
  simp only [Untouched, List.mem_append, List.mem_singleton, not_or, or_imp, forall_and,
    forall_eq, ne_comm (a := call)]
  tauto

theorem enters_concat : Enters c (calls ++ [call]) listener ↔
    Enters c calls listener ∨ Untouched c calls ∧ call.Reaches c listener := by
  constructor
  · rintro ⟨before, first, rest, split, untouched, reaches⟩
    obtain ⟨rfl, rfl⟩ | ⟨rest, rfl⟩ := split_concat split
    · exact .inr ⟨untouched, reaches⟩
    · exact .inl ⟨before, first, rest, rfl, untouched, reaches⟩
  · rintro (⟨before, first, rest, rfl, untouched, reaches⟩ | ⟨untouched, reaches⟩)
    · exact ⟨before, first, rest ++ [call], by simp, untouched, reaches⟩
    · exact ⟨calls, call, [], rfl, untouched, reaches⟩

theorem Untouched.not_enters (untouched : Untouched c calls) : ¬ Enters c calls listener := by
  rintro ⟨before, call, rest, rfl, -, reaches⟩
  exact untouched.2 call (by simp) listener reaches

end

namespace Server

variable {c : ServerConfig} {s s' : Server} {calls : List ServerCall} {call : ServerCall}
  {listener : Option SocketAddress}

/-- What a history makes of a server. -/
structure Lived (c : ServerConfig) (calls : List ServerCall) (s : Server) : Prop where
  config : s.config = c
  idle : s.phase = .idle ↔ Untouched c calls
  running : s.phase = .running ↔ .shutdown ∉ calls ∧ ∃ listener, Enters c calls listener
  stopped : s.phase = .stopped ↔ .shutdown ∈ calls
  bound : ∀ listener, Enters c calls listener → s.localAddr = listener
  unbound : (∀ listener, ¬ Enters c calls listener) → s.localAddr = none

namespace Lived

theorem fresh (c : ServerConfig) : Lived c [] { config := c } where
  config := rfl
  idle := by simp [Untouched]
  running := by simp [Enters]
  stopped := by simp
  bound := by simp [Enters]
  unbound _ := rfl

/-- A call that neither enters the loop nor shuts the server down leaves phase and address. -/
theorem keeps (lived : Lived c calls s) (config : s'.config = s.config) (phase : s'.phase = s.phase)
    (address : s'.localAddr = s.localAddr) (other : call ≠ .shutdown)
    (enters : ∀ listener, call.Reaches c listener → ¬ Untouched c calls) :
    Lived c (calls ++ [call]) s' := by
  have same (listener : Option SocketAddress) :
      Enters c (calls ++ [call]) listener ↔ Enters c calls listener := by
    rw [enters_concat, or_iff_left]
    exact fun ⟨untouched, reaches⟩ => enters listener reaches untouched
  have untouched : Untouched c (calls ++ [call]) ↔ Untouched c calls := by
    rw [untouched_concat, and_iff_left_iff_imp]
    exact fun untouched => ⟨other, fun listener reaches => enters listener reaches untouched⟩
  have shut : ServerCall.shutdown ∈ calls ++ [call] ↔ ServerCall.shutdown ∈ calls := by
    simp [Ne.symm other]
  refine ⟨config.trans lived.config, ?_, ?_, ?_, ?_, ?_⟩
  · rw [phase, untouched, lived.idle]
  · simp only [phase, shut, same, lived.running]
  · rw [phase, shut, lived.stopped]
  · simpa only [same, address] using lived.bound
  · simpa only [same, address] using lived.unbound

theorem enters (lived : Lived c calls s) (untouched : Untouched c calls)
    (reaches : call.Reaches c listener) :
    Lived c (calls ++ [call])
      { s with phase := .running, localAddr := listener, loops := s.loops + 1 } := by
  have entered : Enters c (calls ++ [call]) listener :=
    enters_concat.mpr (.inr ⟨untouched, reaches⟩)
  have unshut : ServerCall.shutdown ∉ calls ++ [call] := by
    rw [List.mem_append, List.mem_singleton, not_or]
    exact ⟨untouched.1, reaches.not_shutdown.symm⟩
  refine ⟨lived.config, ?_, ?_, ?_, fun listener' entered' => ?_, fun none => ?_⟩
  · exact ⟨fun idle => (nomatch idle), fun untouched => absurd entered untouched.not_enters⟩
  · exact ⟨fun _ => ⟨unshut, listener, entered⟩, fun _ => rfl⟩
  · exact ⟨fun stopped => (nomatch stopped), fun shut => absurd shut unshut⟩
  · obtain earlier | ⟨-, reaches'⟩ := enters_concat.mp entered'
    · exact absurd earlier untouched.not_enters
    · exact reaches.unique reaches'
  · exact absurd entered (none listener)

theorem stops (lived : Lived c calls s) : Lived c (calls ++ [.shutdown]) s.stop := by
  have shut : ServerCall.shutdown ∈ calls ++ [ServerCall.shutdown] := by simp
  have same (listener : Option SocketAddress) :
      Enters c (calls ++ [.shutdown]) listener ↔ Enters c calls listener := by
    rw [enters_concat, or_iff_left]
    exact fun ⟨_, reaches⟩ => reaches.not_shutdown rfl
  refine ⟨lived.config, ?_, ?_, ?_, ?_, ?_⟩
  · exact ⟨fun idle => (nomatch idle), fun untouched => absurd shut untouched.1⟩
  · exact ⟨fun running => (nomatch running), fun running => absurd shut running.1⟩
  · exact ⟨fun _ => shut, fun _ => rfl⟩
  · exact fun listener entered => lived.bound listener ((same listener).mp entered)
  · exact fun none => lived.unbound fun listener entered =>
      none listener ((same listener).mpr entered)

theorem concat (lived : Lived c calls s) (call : ServerCall) :
    Lived c (calls ++ [call]) (s.perform call).2 := by
  obtain ⟨listener, reaches⟩ | ⟨f, fails⟩ | rfl | rfl := call.cases_of_call c
  · by_cases untouched : Untouched c calls
    · rw [perform_of_reaches lived.config reaches,
        s.enter_of_idle listener (lived.idle.mpr untouched)]
      exact lived.enters untouched reaches
    · rw [perform_of_taken lived.config reaches (mt lived.idle.mp untouched)]
      exact lived.keeps rfl rfl rfl reaches.not_shutdown fun _ _ => untouched
  · rw [perform_of_fails lived.config fails]
    exact lived.keeps rfl rfl rfl fails.not_shutdown fun _ reaches =>
      absurd reaches fails.not_reaches
  · exact lived.stops
  · exact lived.keeps rfl rfl rfl (fun same => nomatch same) fun _ reaches => nomatch reaches

end Lived

/-- The history of a server says in which phase it is and where it listens. -/
theorem lived_after (c : ServerConfig) (calls : List ServerCall) :
    Lived c calls (after c calls) := by
  induction calls using List.reverseRecOn with
  | nil => exact .fresh c
  | append_singleton calls call ih =>
      rw [after_concat]
      exact ih.concat call

/-! ## The next call -/

end Server

/-- The ways in which a phase may change: never back. -/
inductive Phase.Moves : Phase → Phase → Prop
  | stays (p : Phase) : Moves p p
  | begins : Moves idle running
  | ends : Moves running stopped
  | skips : Moves idle stopped

theorem Phase.moves_stopped (p : Phase) : p.Moves stopped := by
  cases p with
  | idle => exact .skips
  | running => exact .ends
  | stopped => exact .stays _

namespace Server

/-- What a call after a history answers, and what it makes of the server. -/
structure Answers (c : ServerConfig) (calls : List ServerCall) (call : ServerCall) (s : Server)
    (answer : Except Failure Unit) (s' : Server) : Prop where
  moves : s.phase.Moves s'.phase
  goesIn : ∀ listener, call.Reaches c listener → (answer = .ok () ↔ Untouched c calls)
  busy : ∀ listener, call.Reaches c listener → .shutdown ∉ calls →
    ∀ other, Enters c calls other → answer = .error (.alreadyExists "server is already running")
  closed : ∀ listener, call.Reaches c listener → .shutdown ∈ calls →
    answer = .error ((Failure.unavailable "server has been shut down").withDomain .network)
  /-- A call that fails before the loop does not stand in the way of later ones. -/
  early : ∀ f, call.Fails c f → answer = .error f ∧ s' = s ∧
    (Untouched c calls → Untouched c (calls ++ [call]))

theorem Lived.answers (lived : Lived c calls s) (call : ServerCall) :
    Answers c calls call s (s.perform call).1 (s.perform call).2 := by
  have moves : s.phase.Moves (s.perform call).2.phase := by
    obtain ⟨listener, reaches⟩ | ⟨f, fails⟩ | rfl | rfl := call.cases_of_call c
    · by_cases idle : s.phase = .idle
      · rw [perform_of_reaches lived.config reaches, s.enter_of_idle listener idle, idle]
        exact .begins
      · rw [perform_of_taken lived.config reaches idle]
        exact .stays _
    · rw [perform_of_fails lived.config fails]
      exact .stays _
    · exact s.phase.moves_stopped
    · exact .stays _
  refine ⟨moves, fun listener reaches => ?_, fun listener reaches unshut other entered => ?_,
    fun listener reaches shut => ?_, fun f fails => ?_⟩
  · rw [perform_of_reaches lived.config reaches, ← lived.idle]
    cases phase : s.phase with
    | idle => simp [s.enter_of_idle listener phase, settle]
    | running => simp [s.enter_of_running listener phase, settle]
    | stopped => simp [s.enter_of_stopped listener phase, settle]
  · rw [perform_of_reaches lived.config reaches,
      s.enter_of_running listener (lived.running.mpr ⟨unshut, other, entered⟩)]
    rfl
  · rw [perform_of_reaches lived.config reaches,
      s.enter_of_stopped listener (lived.stopped.mpr shut)]
    rfl
  · rw [perform_of_fails lived.config fails]
    exact ⟨rfl, rfl, fun untouched =>
      untouched_concat.mpr ⟨untouched, fails.not_shutdown, fun _ => fails.not_reaches⟩⟩

/-- The call of that number goes into a loop. -/
def GoesIn (c : ServerConfig) (calls : List ServerCall) (i : Nat)
    (listener : Option SocketAddress) : Prop :=
  ∃ call, calls[i]? = some call ∧ call.Reaches c listener ∧
    ((after c (calls.take i)).perform call).1 = .ok ()

theorem goesIn_iff {i : Nat} : GoesIn c calls i listener ↔
    ∃ call, calls[i]? = some call ∧ call.Reaches c listener ∧ Untouched c (calls.take i) := by
  have decides (call : ServerCall) := ((lived_after c (calls.take i)).answers call).goesIn listener
  exact exists_congr fun call => and_congr_right fun _ => and_congr_right fun reaches =>
    decides call reaches

/-- Of two calls that reach the loop the second does not go in. -/
theorem GoesIn.le {i j : Nat} {other : Option SocketAddress} (first : GoesIn c calls i listener)
    (second : GoesIn c calls j other) : j ≤ i := by
  obtain ⟨call, here, reaches, -⟩ := goesIn_iff.mp first
  obtain ⟨-, -, -, untouched⟩ := goesIn_iff.mp second
  by_contra later
  have member : call ∈ calls.take j := List.mem_of_getElem?
    ((List.getElem?_take_of_lt (Nat.not_le.mp later)).trans here)
  exact untouched.2 call member listener reaches

/-- The loop that a history says is entered is the one that a call goes into. -/
theorem enters_iff_goesIn : Enters c calls listener ↔ ∃ i, GoesIn c calls i listener := by
  constructor
  · rintro ⟨before, call, rest, rfl, untouched, reaches⟩
    exact ⟨before.length, goesIn_iff.mpr ⟨call, by simp, reaches, by simpa using untouched⟩⟩
  · rintro ⟨i, goes⟩
    obtain ⟨call, here, reaches, untouched⟩ := goesIn_iff.mp goes
    obtain ⟨inside, rfl⟩ := List.getElem?_eq_some_iff.mp here
    exact ⟨calls.take i, calls[i], calls.drop (i + 1), by simp, untouched, reaches⟩

/-- A server goes from idle to running and to stopped and never back. The first call to reach the
loop goes in unless the server has been shut down, and no other ever does; the server listens where
that call does. What fails before the loop changes nothing. -/
theorem life_exact (c : ServerConfig) (calls : List ServerCall) :
    Lived c calls (after c calls) ∧
      (∀ call, Answers c calls call (after c calls) ((after c calls).perform call).1
        (after c (calls ++ [call]))) ∧
      (∀ call : ServerCall, (∃ listener, call.Reaches c listener) ∨ (∃ f, call.Fails c f) ∨
        call = .shutdown ∨ call = .loopEnds) ∧
      (∀ listener, Enters c calls listener ↔ ∃ i, GoesIn c calls i listener) ∧
      ∀ i j listener other, GoesIn c calls i listener → GoesIn c calls j other → i = j := by
  refine ⟨lived_after c calls, fun call => ?_, fun call => call.cases_of_call c,
    fun _ => enters_iff_goesIn,
    fun i j _ _ first second => Nat.le_antisymm (second.le first) (first.le second)⟩
  rw [after_concat]
  exact (lived_after c calls).answers call

/-- A start over TLS with files that are empty and one without a listener do not stand in the way of
the next start, which does. -/
theorem life_exact_after_refused_listener :
    let c : ServerConfig := {}
    let addr : SocketAddress := { ip := .v4 0 0 0 0, port := 8080 }
    let names : TlsFiles := ⟨"cert.pem", "key.pem"⟩
    let lib : TlsLibrary :=
      { certificates := fun _ => .ok [], privateKey? := fun _ => .ok none, versions := .ok ()
        accept := fun _ _ => .error "unusable" }
    let files : Files := fun _ => .ok []
    let secure : ServerCall := .startTls ⟨files, lib, .ok⟩ names
    let refused : ServerCall := .start ⟨files, lib, fun _ => .error "address in use"⟩
    let start : ServerCall := .start ⟨files, lib, .ok⟩
    let serve : ServerCall := .serve none
    let calls := [secure, refused, start, serve]
    ((after c []).perform secure).1 =
        .error (TlsMaterial.refuse "no certificates found in PEM") ∧
      GoesIn c calls 2 (some addr) ∧ (after c calls).localAddr = some addr ∧
      ¬ GoesIn c calls 3 none ∧
      ((after c [secure, refused, start]).perform serve).1 =
        .error (.alreadyExists "server is already running") ∧
      ((after c (calls ++ [.shutdown])).perform start).1 =
        .error ((Failure.unavailable "server has been shut down").withDomain .network) := by
  intro c addr names lib files secure refused start serve calls
  have read : c.socketAddr? = some addr := by decide +kernel
  have empty : Machine.Reads ⟨files, lib, .ok⟩ names [] [] := ⟨rfl, rfl⟩
  have rejects : secure.Fails c _ := .startTls (.files (.uncertified empty rfl))
  have unlisted : refused.Fails c _ := .start (.listener trivial read rfl)
  have reaches : start.Reaches c (some addr) := .start ⟨trivial, addr, read, rfl⟩
  obtain ⟨answer, -, first⟩ := ((life_exact c []).2.1 secure).early _ rejects
  have second := (((life_exact c [secure]).2.1 refused).early _ unlisted).2.2
  have untouched : Untouched c [secure, refused] := second (first ⟨List.not_mem_nil, by simp⟩)
  have ok := (((life_exact c [secure, refused]).2.1 start).goesIn _ reaches).mpr untouched
  have goes : GoesIn c calls 2 (some addr) := ⟨start, rfl, reaches, ok⟩
  have goes' : GoesIn c [secure, refused, start] 2 (some addr) := ⟨start, rfl, reaches, ok⟩
  obtain ⟨lived, -, -, entered, once⟩ := life_exact c calls
  obtain ⟨-, answers, -, entered', -⟩ := life_exact c [secure, refused, start]
  obtain ⟨-, answers', -⟩ := life_exact c (calls ++ [.shutdown])
  have shut : ServerCall.shutdown ∈ calls ++ [.shutdown] :=
    List.mem_append_right _ List.mem_cons_self
  refine ⟨answer, goes, lived.bound _ ((entered _).mpr ⟨2, goes⟩), fun again => ?_, ?_, ?_⟩
  · exact absurd (once 2 3 _ _ goes again) (by decide)
  · exact (answers serve).busy none (.serve none) (by simp [secure, refused, start]) _
      ((entered' _).mpr ⟨2, goes'⟩)
  · exact (answers' start).closed _ reaches shut

end Server

end HttpService
