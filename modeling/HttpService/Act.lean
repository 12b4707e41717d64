/-!
# Acts

A computation on a state that ends with a value, ends in a panic, or is dropped by its owner while
it waits. Acts run one after the other; a panic or a drop ends the sequence unless it is observed.
-/

namespace HttpService

/-- What a panic carries: a text, or a value that is none. -/
inductive Panic
  | text (message : String)
  | other
  deriving DecidableEq, Repr

/-- What reports show of a panic. -/
def Panic.message : Panic → String
  | text message => message
  | other => "non-string panic payload"

inductive Ending (α : Type)
  | done (value : α)
  | panicked (panic : Panic)
  | dropped
  deriving DecidableEq, Repr

def Act (σ α : Type) : Type :=
  σ → Ending α × σ

namespace Act

variable {σ τ α β : Type}

def pure (a : α) : Act σ α :=
  fun s => (.done a, s)

def bind (m : Act σ α) (k : α → Act σ β) : Act σ β :=
  fun s =>
    match m s with
    | (.done a, s') => k a s'
    | (.panicked p, s') => (.panicked p, s')
    | (.dropped, s') => (.dropped, s')

instance : Monad (Act σ) where
  pure := Act.pure
  bind := Act.bind

def get : Act σ σ :=
  fun s => (.done s, s)

def modify (f : σ → σ) : Act σ Unit :=
  fun s => (.done (), f s)

/-- Reads a value off the state and changes the state with it. -/
def update (f : σ → α × σ) : Act σ α :=
  fun s => let (a, s') := f s; (.done a, s')

def panic (p : Panic) : Act σ α :=
  fun s => (.panicked p, s)

/-- Runs an act to its ending, whatever that is. -/
def observe (m : Act σ α) : Act σ (Ending α) :=
  fun s => let (e, s') := m s; (.done e, s')

/-- Ends as another act has ended. -/
def resume (e : Ending α) : Act σ α :=
  fun s => (e, s)

/-- Runs an act on a part of the state. -/
def on (part : σ → τ) (put : σ → τ → σ) (m : Act τ α) : Act σ α :=
  fun s => let (e, t) := m (part s); (e, put s t)

/-- Refuses with a failure, or goes on with the value. -/
def attempt (m : Act σ (Except ε α)) (k : α → Act σ (Except ε β)) : Act σ (Except ε β) :=
  Act.bind m fun
    | .ok a => k a
    | .error e => Act.pure (.error e)

theorem bind_assoc {γ : Type} (m : Act σ α) (k : α → Act σ β) (l : β → Act σ γ) :
    Act.bind (Act.bind m k) l = Act.bind m fun a => Act.bind (k a) l := by
  funext s
  unfold Act.bind
  cases m s with
  | mk ending rest => cases ending <;> rfl

end Act

end HttpService
