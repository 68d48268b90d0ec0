/-!
# Limits of a scan

The work of a scan is bounded by three limits, and one switch says whether rules take subtypes.

The three limits bound how far a value is followed through a unit, how deep stores are nested
below a root, and how many hooks a request may go through one after the other.  Each has a
default, which holds wherever a configuration says nothing else; the switch is on by default.

The places where they are read are the searches for values and plans, the question whether a store
may take a site, and the delivery to observers on parameters.
-/

set_option autoImplicit false

namespace CryptoUsage

/-- The limits of a scan. -/
structure ScanConfig where
  /-- How many steps a value is followed. -/
  maxResolutionDepth : Nat := 50
  /-- How many hooks may fire one after the other for one value. -/
  maxHookChain : Nat := 8
  /-- The level from which on stores claim no sites. -/
  maxStoreDepth : Nat := 32
  /-- Whether a rule that does not ask for exact types takes subtypes. -/
  matchSubtypes : Bool := true
deriving DecidableEq, Repr

end CryptoUsage
