import SharedSecurity.Proofs.Typed

/-!
# The end of a block

Ending a block writes twice, the height under the current version and then the version after it.
Only the second can be refused, at the greatest version, and then the height has been written: that
nothing is left behind is up to the transaction.

* `Versioning.next_eq_ok_iff`, `Versioning.next_eq_error_iff` — the count goes up by one and never
  wraps.
* `Service.run_endBlock`, `Service.endBlock_cases` — **all that the end of a block can do.**
-/

set_option autoImplicit false
namespace SharedSecurity

open Transition

namespace Versioning

/-- The next version is the one that is greater by one, if there is such a word. -/
theorem next_eq_ok_iff {current following : Version} :
    next current = .ok following ↔ following.toNat = current.toNat + 1 := by
  have hsum : (current + 1).toNat = (current.toNat + 1) % UInt64.size := by
    rw [UInt64.toNat_add]
    rfl
  rw [next]
  split
  · next hlt =>
    rw [Nat.mod_eq_of_lt hlt] at hsum
    rw [Except.ok.injEq, ← hsum, UInt64.toNat_inj, eq_comm]
  · next hlast =>
    have := following.toNat_lt_size
    simp only [reduceCtorEq, false_iff]
    omega

/-- The greatest version, and only that, is followed by none. -/
theorem next_eq_error_iff {current : Version} {error : ProviderError} :
    next current = .error error ↔
      error = .versionOverflow current ∧ current.toNat + 1 = UInt64.size := by
  have := current.toNat_lt_size
  rw [next]
  split
  · simp only [reduceCtorEq, false_iff, not_and]
    omega
  · have hlast : current.toNat + 1 = UInt64.size := by omega
    simp only [Except.error.injEq, hlast, and_true, eq_comm]

/-- What is given out when the counter moves on. -/
def advanced (following : Version) : List Output :=
  [.measure (.version following), .log (.versionAdvanced following)]

/-- The counter moves on, or is at its end. -/
theorem run_advance {store : Store} (h : store.Typed) :
    advance.run store = match next store.version with
      | .ok following => ⟨.ok following, store.hold .version following, advanced following⟩
      | .error error => ⟨.error error, store, []⟩ := by
  have hcurrent := run_current (h.sound .version fun _ => trivial)
  rw [advance, run_bind_ok hcurrent]
  cases next store.version <;> rfl

end Versioning

namespace Store

/-- The store after the height of a block is recorded, if that is configured. -/
def closing (store : Store) (service : Service) (height : Height) : Store :=
  if service.config.recordHeights then store.hold (.heightOf store.version) height else store

theorem version_closing (store : Store) (service : Service) (height : Height) :
    (store.closing service height).version = store.version := by
  rw [closing]
  split
  · have hother : Key.version ≠ .heightOf store.version := by simp
    exact congrArg (Option.getD · 0) (record?_hold_of_ne store hother height)
  · rfl

end Store

/-- **The end of a block.**  The version after the current one is set and told; or there is none, and
then only the height may be left behind. -/
theorem Service.run_endBlock (service : Service) (height : Height) {store : Store}
    (h : store.Typed) :
    (service.endBlock height).run store = match Versioning.next store.version with
      | .ok following => ⟨.ok following, (store.closing service height).hold .version following,
          Versioning.advanced following⟩
      | .error error => ⟨.error error, store.closing service height, []⟩ := by
  have hversion := store.version_closing service height
  rw [endBlock]
  by_cases hrecords : service.config.recordHeights = true
  · rw [Store.closing, if_pos hrecords] at hversion ⊢
    have hcurrent := Versioning.run_current (h.sound .version fun _ => trivial)
    have hrecord : (Versioning.recordHeight store.version height).run store =
        ⟨.ok (), store.hold (.heightOf store.version) height, []⟩ := rfl
    have hadvance := Versioning.run_advance (h.hold (.heightOf store.version) height)
    rw [hversion] at hadvance
    rw [if_pos hrecords, run_bind_ok hcurrent, run_bind_ok hrecord, hadvance]
    rfl
  · rw [Store.closing, if_neg hrecords, if_neg hrecords]
    exact Versioning.run_advance h

/-- All that the end of a block can do. -/
theorem Service.endBlock_cases (service : Service) (height : Height) {store : Store}
    (h : store.Typed) : ∃ outputs,
    (service.endBlock height).run store = match Versioning.next store.version with
      | .ok following =>
        ⟨.ok following, (store.closing service height).hold .version following, outputs⟩
      | .error error => ⟨.error error, store.closing service height, []⟩ := by
  have hrun := service.run_endBlock height h
  cases hnext : Versioning.next store.version with
  | ok following =>
    rw [hnext] at hrun
    exact ⟨_, hrun⟩
  | error error =>
    rw [hnext] at hrun
    exact ⟨[], hrun⟩

/-- An answered end of a block was answered with the version after the current one. -/
theorem Service.tells_endBlock {service : Service} {height : Height} {store : Store}
    (h : store.Typed) {following : Version} :
    (service.endBlock height).Tells store following ↔
      Versioning.next store.version = .ok following := by
  obtain ⟨outputs, hrun⟩ := service.endBlock_cases height h
  rw [Tells, hrun]
  cases Versioning.next store.version <;> simp

end SharedSecurity
