import SharedSecurity.Proofs.CheckFirst
import SharedSecurity.Proofs.Versions

/-!
# What a refused call leaves behind

A call that is made directly is not rolled back, so what it leaves after an error is what it had
written by then.  After a run that is nothing, with two exceptions: a confirm that comes too late
marks its channel before it ends with the refusal, and the end of a block records the height before
it finds that there is no next version.

* `Call.Rejected`, `Call.rejected` — **the table of what an error leaves**, one row for each
  exception.  Creations and acknowledgements write in loops that read as they go; that none of those
  reads fails is due to what earlier calls have written, so the table is one of reachable stores.
* `Call.PureRejection`, `Call.pureRejection_after` — the same after any run, byte by byte.
* `Call.overflow_leaves_height` — the second exception is real.
-/

set_option autoImplicit false
namespace SharedSecurity

open Transition

/-! ## Operations that reject purely -/

section

variable {store : Store}

/-- The start of a handshake that is refused has written nothing, whatever is in the store. -/
theorem Registry.rejectsPurely_markInitializing (channel : ChannelId) (store : Store) :
    (markInitializing channel).RejectsPurely store :=
  .bind (within_status channel) fun current _ => by
    show RejectsPurely (if _ then _ else _) store
    split
    · exact rejectsPurely_of_tells rfl
    · exact fun _ _ => rfl

/-- A creation that is refused has written nothing: it adds to one bucket after the other, but every
bucket can be read. -/
theorem Service.rejectsPurely_unbondingCreated (service : Service) (notice : UnbondingNotice)
    (h : store.WellFormed) (hshort : (service.unbondingCreated notice).Short store) :
    (service.unbondingCreated notice).RejectsPurely store := by
  rcases Unbonding.create_cases notice.id h hshort with ⟨-, hrun⟩ | ⟨-, hok, -⟩
  · exact fun _ _ => congrArg Outcome.store hrun
  · exact rejectsPurely_of_tells hok

/-- An acknowledgement that is refused has written nothing: it queues one token after the other when
the gate is done, but the queue can be read. -/
theorem Service.rejectsPurely_acknowledgePacket (service : Service) (channel : ChannelId)
    (ack : MaturityAcknowledgement) (h : store.WellFormed) (hmirrored : store.Mirrored)
    (hshort : (service.acknowledgePacket channel ack).Short store) :
    (service.acknowledgePacket channel ack).RejectsPurely store := by
  rcases service.acknowledgePacket_cases channel ack h hmirrored.backed hmirrored.bucket_ne_nil
    hshort with ⟨-, hrun⟩ | ⟨chain, -, hok, -⟩
  · exact fun _ _ => congrArg Outcome.store hrun
  · exact rejectsPurely_of_tells hok

end

/-! ## The table -/

/-- All that an error of a call made directly leaves of a store. -/
inductive Call.Rejected (store : Store) : Call → ProviderError → Store → Prop where
  /-- The store as it was. -/
  | unchanged {call : Call} {error : ProviderError} : Rejected store call error store
  /-- The mark on a channel that is confirmed although its chain has another. -/
  | marked {service : Service} {height : Height} {channel existing : ChannelId} {chain : ChainId} :
    Rejected store ⟨service, .openConfirm height channel⟩
      (.duplicateRegistration chain existing channel) (store.mark channel .invalid)
  /-- The height of a block that ends at the last version. -/
  | closing {service : Service} {height : Height} :
    Rejected store ⟨service, .endBlock height⟩ (.versionOverflow store.version)
      (store.closing service height)

namespace Call

variable {store : Store} {call : Call} {error : ProviderError}

/-- What rejects purely leaves the store as it was. -/
theorem rejected_of_pure (hpure : call.transition.RejectsPurely store)
    (herror : (call.transition.run store).result = .error error) :
    call.Rejected store error (call.after store) := by
  rw [after, hpure error herror]
  exact .unchanged

/-- What never writes leaves the store as it was. -/
theorem rejected_of_reads (hreads : ∀ key, ¬ call.operation.footprint key)
    (herror : (call.transition.run store).result = .error error) :
    call.Rejected store error (call.after store) := by
  have hwithin : call.transition.WritesWithin fun _ => False :=
    (call.service.perform_within call.operation).mono hreads
  exact rejected_of_pure (rejectsPurely_of_reads hwithin store) herror

theorem rejected_openConfirm (h : store.Typed) {service : Service} {height : Height}
    {channel : ChannelId}
    (herror : ((service.openConfirm height channel).run store).result = .error error) :
    Rejected store ⟨service, .openConfirm height channel⟩ error
      (after ⟨service, .openConfirm height channel⟩ store) := by
  rw [after_openConfirm]
  rw [Service.openConfirm] at herror
  cases hresolve : Handshake.resolveChain service channel with
  | error unresolved =>
    rw [Handshake.run_bind_of_unresolved hresolve]
    exact .unchanged
  | ok chain =>
    obtain ⟨outputs, ⟨-, hrun⟩ | ⟨-, hrun⟩ | ⟨existing, -, -, hrun⟩⟩ :=
      Handshake.run_bind_cases hresolve height h
    · rw [run_bind_ok hrun] at herror
      cases herror
    · rw [hrun]
      exact .unchanged
    · rw [run_bind_error hrun] at herror
      cases herror
      rw [hrun]
      exact .marked

theorem rejected_endBlock (h : store.Typed) {service : Service} {height : Height}
    (herror : ((service.endBlock height).run store).result = .error error) :
    Rejected store ⟨service, .endBlock height⟩ error
      (after ⟨service, .endBlock height⟩ store) := by
  have hrun := service.run_endBlock height h
  cases hnext : Versioning.next store.version with
  | ok following =>
    rw [hnext] at hrun
    rw [hrun] at herror
    cases herror
  | error overflow =>
    rw [hnext] at hrun
    obtain ⟨rfl, -⟩ := Versioning.next_eq_error_iff.1 hnext
    have hafter : after ⟨service, .endBlock height⟩ store = store.closing service height :=
      congrArg Outcome.store hrun
    rw [hrun] at herror
    cases herror
    rw [hafter]
    exact .closing

/-- **All that an error leaves**, in a store that the provider has written. -/
theorem rejected (h : store.WellFormed) (hmirrored : store.Mirrored)
    (hshort : call.transition.Short store)
    (herror : (call.transition.run store).result = .error error) :
    call.Rejected store error (call.after store) := by
  have hrefused := failsWithin h hmirrored hshort error herror
  obtain ⟨service, operation⟩ := call
  cases operation with
  | openInit channel =>
    exact rejected_of_pure (Registry.rejectsPurely_markInitializing channel store) herror
  | openTry channel hops claimed => exact rejected_of_reads (fun _ => id) herror
  | openConfirm height channel => exact rejected_openConfirm h.typed herror
  | unbondingCreated notice =>
    exact rejected_of_pure (service.rejectsPurely_unbondingCreated notice h hshort) herror
  | acknowledgePacket channel ack =>
    exact rejected_of_pure
      (service.rejectsPurely_acknowledgePacket channel ack h hmirrored hshort) herror
  | endBlock height => exact rejected_endBlock h.typed herror
  | _ => exact absurd trivial hrefused.not_neverRefused

/-! ## Every reachable state -/

/-- What a call leaves of a store after an error. -/
structure PureRejection (call : Call) (store : Store) : Prop where
  /-- No byte is changed by an error that neither refuses a duplicate nor ends the count. -/
  unchanged : ∀ error, (call.transition.run store).result = .error error →
    Handshake.Undisputed error → (∀ version, error ≠ .versionOverflow version) →
      call.after store = store
  /-- If a duplicate is refused, at most the status of the refused channel is changed, in a confirm
  of that channel, and it is then invalid. -/
  duplicate : ∀ chain existing rejected, (call.transition.run store).result =
      .error (.duplicateRegistration chain existing rejected) →
    call.after store = store ∨
      ((∃ service height, call = ⟨service, .openConfirm height rejected⟩) ∧
        (Registry.status rejected).Tells (call.after store) .invalid ∧
        store.SameBut (.statusOf rejected) (call.after store))
  /-- At the end of the count, at most the height of the last version is changed, at the end of a
  block under a configuration that records it. -/
  overflow : ∀ version, (call.transition.run store).result = .error (.versionOverflow version) →
    call.after store = store ∨
      ∃ service height, call = ⟨service, .endBlock height⟩ ∧ service.config.recordHeights = true ∧
        (Versioning.height version).Tells (call.after store) height ∧
        store.SameBut (.heightOf version) (call.after store)

theorem pureRejection_of_rejected (h : store.Typed)
    (hrejected : ∀ error, (call.transition.run store).result = .error error →
      call.Rejected store error (call.after store)) : call.PureRejection store := by
  constructor
  case unchanged =>
    intro error herror hundisputed hcounts
    have hleft := hrejected error herror
    generalize call.after store = left at hleft
    cases hleft with
    | unchanged => rfl
    | marked => exact absurd rfl (hundisputed _ _ _)
    | closing => exact absurd rfl (hcounts _)
  case duplicate =>
    intro chain existing rejected herror
    have hleft := hrejected _ herror
    generalize call.after store = left at hleft
    cases hleft with
    | unchanged => exact .inl rfl
    | marked =>
      have hmarked : (store.mark rejected .invalid).Typed := h.hold (.statusOf rejected) .invalid
      refine .inr ⟨⟨_, _, rfl⟩, (Registry.tells_invalid hmarked).2 ?_, store.sameBut_hold _ _⟩
      exact (store.status?_mark rejected .invalid rejected).trans (if_pos rfl)
  case overflow =>
    intro version herror
    have hleft := hrejected _ herror
    generalize call.after store = left at hleft
    cases hleft with
    | unchanged => exact .inl rfl
    | @closing service height =>
      rw [Store.closing]
      split
      · next hrecords =>
        have hheld : (store.hold (.heightOf store.version) height).record?
            (.heightOf store.version) = some height := store.record?_hold_self trivial
        exact .inr ⟨service, height, rfl, hrecords,
          Versioning.tells_height (h.hold _ _) hheld, store.sameBut_hold _ _⟩
      · exact .inl rfl

/-- **A refused call leaves nothing behind** but the mark of a refused duplicate and the height of a
block at the end of the count: after every run, for every call on whatever provider. -/
theorem pureRejection_after {run : Run Call} {call : Call}
    (hshort : History.Short (run.committed ++ [call])) : call.PureRejection run.after := by
  obtain ⟨hpast, hcall⟩ := History.short_snoc.1 hshort
  have hstore := History.wellFormed_after hpast
  rw [run.after_eq]
  exact pureRejection_of_rejected hstore.typed fun error herror =>
    rejected hstore (History.mirrored_after hpast) hcall herror

/-- A second channel of a chain is confirmed, directly and so without being rolled back. -/
theorem pureRejection_after_race :
    let late : Call := ⟨Registry.racedProvider, .openConfirm 7 ⟨"ch-1"⟩⟩
    let run : Run Call := [.direct ⟨Registry.racedProvider, .openConfirm 5 ⟨"ch-0"⟩⟩]
    History.Short (run.committed ++ [late]) ∧ late.PureRejection run.after ∧
      (late.transition.run run.after).result =
        .error (.duplicateRegistration ⟨"foo"⟩ ⟨"ch-0"⟩ ⟨"ch-1"⟩) ∧
      (Registry.status ⟨"ch-1"⟩).Tells (late.after run.after) .invalid := by
  intro late run
  have hshort : History.Short (run.committed ++ [late]) := by decide +kernel
  exact ⟨hshort, pureRejection_after hshort, by decide +kernel, by decide +kernel⟩

/-- After a genesis with the greatest version, a block cannot end, and its height is left behind. -/
theorem overflow_leaves_height :
    let last : Version := 18446744073709551615
    let run : Run Call := [.direct ⟨Registry.racedProvider, .initGenesis ⟨.provider, last, []⟩⟩]
    let ending : Call := ⟨Registry.racedProvider, .endBlock 5⟩
    (ending.transition.run run.after).result = .error (.versionOverflow last) ∧
      Handshake.Undisputed (.versionOverflow last) ∧ ending.after run.after ≠ run.after := by
  refine ⟨by decide +kernel, fun _ _ _ => nofun, by decide +kernel⟩

end Call
end SharedSecurity
