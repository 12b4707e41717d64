import HttpService.Time.Instant
import HttpService.Uuid

/-!
# Revoked tokens

The ids of tokens that are refused before they expire, each with the token's expiry. An entry is no
longer needed once its token has expired anyway.
-/

namespace HttpService

structure RevocationList where
  entries : List (Uuid × Instant) := []
  deriving DecidableEq, Repr

namespace RevocationList

def empty : RevocationList := {}

/-- Adds an id, or gives it another expiry. -/
def revoke (l : RevocationList) (id : Uuid) (expiresAt : Instant) : RevocationList :=
  ⟨l.entries.filter (fun e => e.1 ≠ id) ++ [(id, expiresAt)]⟩

def isRevoked (l : RevocationList) (id : Uuid) : Bool :=
  l.entries.any fun e => e.1 == id

/-- Drops the ids whose tokens have expired. -/
def purge (l : RevocationList) (now : Instant) : RevocationList :=
  ⟨l.entries.filter fun e => now.nanos < e.2.nanos⟩

/-- How many ids a purge drops. -/
def purged (l : RevocationList) (now : Instant) : Nat :=
  l.entries.length - (l.purge now).entries.length

def size (l : RevocationList) : Nat :=
  l.entries.length

theorem isRevoked_revoke (l : RevocationList) (id other : Uuid) (t : Instant) :
    (l.revoke id t).isRevoked other = (decide (id = other) || l.isRevoked other) := by
  by_cases h : id = other
  · subst h
    simp [revoke, isRevoked]
  · simp only [revoke, isRevoked, List.any_append, List.any_filter, List.any_cons, List.any_nil,
      Bool.or_false, h, decide_false, Bool.false_or]
    have hne : (id == other) = false := by simpa using h
    rw [hne, Bool.or_false]
    congr 1
    funext e
    by_cases he : e.1 = other
    · subst he
      have : e.1 ≠ id := fun c => h c.symm
      simp [this]
    · simp [he]

end RevocationList

end HttpService
