import CanaryRelease.Value.Access

/-!
# Labels and annotations of derived objects

Which labels and annotations of a target its derived objects take over, and what is added to them.
-/

namespace CanaryRelease

/-- The name of a target's primary. -/
def primaryName (target : Value) : String := target.display ++ "-primary"

/-- The name of a target's canary service. -/
def canaryName (target : Value) : String := target.display ++ "-canary"

namespace PodTemplate

/-- The annotation that tells revisions apart. -/
def idKey : String := "flagger-id"

/-- The name in the keys of annotations that hold a whole earlier configuration. -/
def lastAppliedName : String := "kubectl.kubernetes.io/last-applied-configuration"

/-- The prefix of labels by which another tool marks the objects it owns. -/
def toolkitMark : String := "toolkit.fluxcd.io/"

/-- The key of an annotation that a revision hands on to the next one. -/
def isHandedOn : Key → Bool
  | .text key => key ≠ idKey && !Value.occursIn lastAppliedName.toList key.toList
  | _ => true

/-- The annotations that a revision hands on to the next one. -/
def handedOn (annotations : Value) : Except Failure Fields := do
  return (← (annotations.orElse .empty).fields).filter fun field => isHandedOn field.1

/-- The annotations of a new revision: those handed on to it, and its own id. -/
def stamp (annotations : Fields) (id : String) : Fields := annotations.set idKey (.text id)

/-- Labels with the pairing label set. -/
def pairedLabels (labels : Value) (label : String) (value : Value) : Except Failure Fields := do
  return ((← (labels.orElse .empty).fields).erase label).set label value

/-- A label key that one of the prefixes lets through; it is a text. -/
def isIncluded (prefixes : List String) : Key → Bool
  | .text key =>
    !toolkitMark.toList.isPrefixOf key.toList &&
      prefixes.any fun start => start = "*" || start.toList.isPrefixOf key.toList
  | _ => false

/-- The labels whose keys the prefixes let through; another tool's marks never are. -/
def includedLabels (labels : Value) (prefixes : List String) : Except Failure Fields := do
  return (← (labels.orElse .empty).fields).filter fun field => isIncluded prefixes field.1

end PodTemplate

end CanaryRelease
