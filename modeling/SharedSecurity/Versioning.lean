import SharedSecurity.Stored

/-!
# Validator set versions

The provider numbers its validator sets one after the other and remembers at which height each
ended.  `Versioning.next` is the rule of the count: it goes up by one and never wraps.
-/

set_option autoImplicit false
namespace SharedSecurity
namespace Versioning

/-- The version after another; the greatest word has none. -/
def next (current : Version) : Except ProviderError Version :=
  if current.toNat + 1 < UInt64.size then .ok (current + 1) else .error (.versionOverflow current)

/-- The current version; zero before any was set. -/
def current : Transition Version := do
  let version ← Stored.word? "valset update id" .version
  pure (version.getD 0)

/-- Sets the current version. -/
def set (version : Version) : Transition Unit := do
  Stored.putWord .version version
  Transition.measure (.version version)

/-- Moves on to the next version and tells it. -/
def advance : Transition Version := do
  let version ← current
  let following ← Transition.ofExcept (next version)
  set following
  Transition.report (.versionAdvanced following)
  pure following

/-- Records the height at which a version was current. -/
def recordHeight (version : Version) (height : Height) : Transition Unit :=
  Stored.putWord (.heightOf version) height

/-- The height recorded for a version; zero if there is none. -/
def height (version : Version) : Transition Height := do
  let recorded ← Stored.word? "valset update block height" (.heightOf version)
  pure (recorded.getD 0)

/-- Drops the height recorded for a version. -/
def forgetHeight (version : Version) : Transition Unit := Stored.delete (.heightOf version)

end Versioning
end SharedSecurity
