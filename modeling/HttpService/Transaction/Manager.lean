import HttpService.Act
import HttpService.Failure.Basic

/-!
# Transactions

A manager begins transactions and settles each by a commit or a rollback. What it answers may depend
on the calls made so far. An answer may take time, may never come, and may be a panic.
-/

namespace HttpService

inductive TransactionCall
  | begin
  | commit (id : String)
  | rollback (id : String)
  deriving DecidableEq, Repr

/-- What comes of a call, after some milliseconds. -/
inductive Reply (α : Type)
  | answer (outcome : Except Failure α) (delay : Nat)
  | panic (panic : Panic) (delay : Nat)
  | never

structure TransactionManager where
  begin : List TransactionCall → Reply String
  commit : List TransactionCall → String → Reply Unit
  rollback : List TransactionCall → String → Reply Unit

/-- The calls that were made, and those of them that have been answered. -/
structure TransactionLog where
  made : List TransactionCall := []
  ended : List TransactionCall := []
  deriving DecidableEq, Repr

namespace TransactionManager

def begins (calls : List TransactionCall) : Nat :=
  (calls.filter fun c => c = .begin).length

/-- Numbers its transactions and keeps nothing; the named calls fail. -/
def inMemory (failing : List String) : TransactionManager where
  begin calls := reply "begin" ("tx-" ++ toString (begins calls))
  commit _ _ := reply "commit" ()
  rollback _ _ := reply "rollback" ()
where
  reply {α : Type} (what : String) (value : α) : Reply α :=
    .answer (if what ∈ failing then .error (.unavailable (what ++ " failed")) else .ok value) 0

/-- The calls as text, the begun transactions numbered from zero. -/
def callTexts : Nat → List TransactionCall → List String
  | _, [] => []
  | n, .begin :: rest => ("begin:tx-" ++ toString n) :: callTexts (n + 1) rest
  | n, .commit id :: rest => ("commit:" ++ id) :: callTexts n rest
  | n, .rollback id :: rest => ("rollback:" ++ id) :: callTexts n rest

end TransactionManager

end HttpService
