import CanaryRelease.Value.Access

/-!
# The scale-to-zero marker

A target is scaled down by an entry of its node selector that no node satisfies. Adding and removing
the entry leaves all others alone; a node selector with no entry left is dropped.
-/

namespace CanaryRelease.PodTemplate

/-- The key of the marker in a node selector. -/
def markerKey : String := "flagger.app/scale-to-zero"

/-- The value of the marker in a node selector. -/
def markerValue : Value := .text "true"

/-- Whether a pod spec carries the marker. -/
def hasMarker (podSpec : Value) : Except Failure Bool := do
  let selector ← podSpec.getSection "nodeSelector"
  return (← selector.get markerKey) = markerValue

/-- The entries of a pod spec's node selector. -/
def selectorEntries (podSpec : Value) : Except Failure Fields := do
  (← podSpec.getSection "nodeSelector").toFields

/-- A pod spec with the marker. -/
def addMarker (podSpec : Value) : Except Failure Value := do
  let entries ← selectorEntries podSpec
  podSpec.set "nodeSelector" (.object (entries.set markerKey markerValue))

/-- A pod spec without the marker. -/
def removeMarker (podSpec : Value) : Except Failure Value := do
  let entries := (← selectorEntries podSpec).erase markerKey
  if entries.isEmpty then podSpec.erase "nodeSelector"
  else podSpec.set "nodeSelector" (.object entries)

end CanaryRelease.PodTemplate
