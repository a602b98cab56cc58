import Mathlib

namespace Leases

/-- What a key holds: the token written to it and the instant it expires. -/
structure Lease (τ : Type) where
  token : τ
  expiresAt : Nat
  deriving DecidableEq, Repr

/-- A keyspace with expiring keys. An expired key stays in the map until it is
overwritten; no command sees it. -/
abbrev Keyspace (κ τ : Type) := κ → Option (Lease τ)

variable {κ τ η : Type}
variable {store : Keyspace κ τ} {now : Nat} {key : κ} {token : τ}

/-- What a command run at `now` finds under the key. -/
def Keyspace.get (store : Keyspace κ τ) (now : Nat) (key : κ) : Option (Lease τ) :=
  (store key).filter (fun lease => now < lease.expiresAt)

theorem Keyspace.get_of_live {lease : Lease τ} (stored : store key = some lease) (live : now < lease.expiresAt) :
    store.get now key = some lease := by
  simp [Keyspace.get, stored, live]

/-- What the holders of a lock believe: the end of the lease each one took and
has not given back. -/
abbrev Book (η : Type) := η → Option Nat

/-- Every lease in the book that has not expired is the one the store holds
under its holder's key. -/
def Backed (keys : η → κ) (tokens : η → τ) (store : Keyspace κ τ) (now : Nat) (book : Book η) : Prop :=
  ∀ holder ends, book holder = some ends → now < ends → store (keys holder) = some ⟨tokens holder, ends⟩

variable {keys : η → κ} {tokens : η → τ} {book : Book η}

/-- A store has room for one token under a key, so distinct tokens make two
holders of it the same. -/
theorem Backed.exclusive (backed : Backed keys tokens store now book) (distinct : Function.Injective tokens)
    {first second : η} (same : keys first = keys second) {ends ends' : Nat} (one : book first = some ends)
    (live : now < ends) (two : book second = some ends') (live' : now < ends') : first = second := by
  have stored := backed first ends one live
  rw [same, backed second ends' two live'] at stored
  exact (distinct (congrArg Lease.token (Option.some.inj stored))).symm

/-- Time only takes leases away. -/
theorem Backed.pass (backed : Backed keys tokens store now book) (elapsed : Nat) :
    Backed keys tokens store (now + elapsed) book :=
  fun holder ends held live => backed holder ends held (by omega)

variable [DecidableEq κ] [DecidableEq η]

/-- `SET key token NX PX lifetime`: nothing is written over a visible key. -/
def Keyspace.setNX (store : Keyspace κ τ) (now : Nat) (key : κ) (token : τ) (lifetime : Nat) :
    Option (Keyspace κ τ) :=
  if (store.get now key).isSome then none
  else some (Function.update store key (some ⟨token, now + lifetime⟩))

theorem Backed.acquire (backed : Backed keys tokens store now book) {holder : η} {lifetime : Nat}
    {store' : Keyspace κ τ} (wrote : store.setNX now (keys holder) (tokens holder) lifetime = some store') :
    Backed keys tokens store' now (Function.update book holder (some (now + lifetime))) := by
  unfold Keyspace.setNX at wrote
  split at wrote
  · cases wrote
  next free =>
    cases wrote
    intro other ends held live
    by_cases own : other = holder
    · subst own
      rw [Function.update_self, Option.some.injEq] at held
      rw [Function.update_self, held]
    · rw [Function.update_of_ne own] at held
      have stored := backed other ends held live
      -- another holder's lease on this key would have been seen
      have apart : keys other ≠ keys holder := by
        intro same
        rw [same] at stored
        exact free (by rw [Keyspace.get_of_live stored live]; rfl)
      rw [Function.update_of_ne apart, stored]

variable [DecidableEq τ]

/-- Compare and delete: the key goes only if it holds the token. -/
def Keyspace.deleteIf (store : Keyspace κ τ) (now : Nat) (key : κ) (token : τ) : Keyspace κ τ :=
  if (store.get now key).map Lease.token = some token then Function.update store key none else store

/-- A compare and delete with one token leaves every lease with another token. -/
theorem deleteIf_keeps {lease : Lease τ} {other : κ} (stored : store other = some lease) (live : now < lease.expiresAt)
    (differs : lease.token ≠ token) : store.deleteIf now key token other = some lease := by
  unfold Keyspace.deleteIf
  split
  next matched =>
    have apart : other ≠ key := by
      rintro rfl
      rw [Keyspace.get_of_live stored live] at matched
      exact differs (Option.some.inj matched)
    rw [Function.update_of_ne apart, stored]
  next => exact stored

/-- A holder's compare and delete gives up its own lease only. -/
theorem Backed.release (backed : Backed keys tokens store now book) (distinct : Function.Injective tokens)
    (holder : η) :
    Backed keys tokens (store.deleteIf now (keys holder) (tokens holder)) now (Function.update book holder none) := by
  intro other ends held live
  by_cases own : other = holder
  · subst own
    simp at held
  · rw [Function.update_of_ne own] at held
    have stored := backed other ends held live
    exact deleteIf_keeps stored live (fun same => own (distinct same))

end Leases
