import Backoffice.Fault

/-!
Optimistic concurrency: a write names the version it was based on, succeeds only if that is still
the stored one, and advances it by one.
-/

namespace Backoffice.Version

/-- The version after a write based on `expected`; `stale` is the fault when another is stored. -/
def next (expected actual : Nat) (stale : Fault) : Except Fault Nat :=
  if expected = actual then .ok (actual + 1) else .error stale

def requireExpected (expected : Nat) : Except Fault Unit :=
  if expected = 0 then
    .error (.invalid "expected_version" "expected_version must be greater than zero")
  else .ok ()

end Backoffice.Version
