import CanaryRelease.Canary
import CanaryRelease.Digest.Sha256
import CanaryRelease.PodTemplate.ScaleMarker
import CanaryRelease.Value.Canonical

/-!
# Fingerprints

A revision is told by the digest of its canonical JSON. The fingerprint of a pod template does not
depend on the scale-to-zero marker, nor on whether an empty node selector is there or not, so
scaling a target down and up again is no new revision.
-/

namespace CanaryRelease

/-- The digest of a value's canonical JSON. -/
def Value.canonicalDigest (v : Value) : String :=
  (Sha256.digest ((String.ofList v.canonical).toUTF8.toList)).toHex

/-- The fingerprint of a value whose objects have keys that can be sorted. -/
def Value.fingerprint (v : Value) : Except Failure String :=
  if v.isOrderable then .ok v.canonicalDigest else .error .malformed

namespace PodTemplate

/-- A pod template as fingerprints see it: without the marker, with a pod spec and a node
selector. -/
def normalized (template : Value) : Except Failure Value := do
  let fields := (← template.toFields).setDefault "spec" .empty
  let podSpec ← removeMarker (← (Value.object fields).get "spec")
  let podSpec ← podSpec.setDefault "nodeSelector" .empty
  return .object (fields.set "spec" podSpec)

/-- The fingerprint of a pod template. -/
def fingerprint (template : Value) : Except Failure String := do
  (← normalized template).fingerprint

end PodTemplate

/-- Whether a fingerprint stands for a revision that the canary has still to test: none was applied
yet, or it is neither the one last promoted (a rollback by hand) nor the one last applied. -/
def Canary.isNewRevision (c : Canary) (fingerprint : Value) : Bool :=
  if c.lastAppliedSpec.isUnset then true
  else if c.lastPromotedSpec.alike fingerprint then false
  else !c.lastAppliedSpec.alike fingerprint

end CanaryRelease
