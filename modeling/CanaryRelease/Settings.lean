import CanaryRelease.Failure
import CanaryRelease.Text.Blank

/-!
# Settings

What all controllers share: the candidates for the label that pairs a target with its primary, and
the label prefixes that a primary takes over from its target. Both are comma-separated lists of the
environment; blanks around an item and blank items do not count.
-/

namespace CanaryRelease

/-- The variables of an environment. -/
abbrev Environment := List (String × String)

/-- The settings that all controllers share. -/
structure Settings where
  /-- Candidates for the pairing label; at least one. -/
  selectorLabels : List String
  /-- Prefixes of label keys that are copied to a primary; a lone star stands for all keys. -/
  labelPrefixes : List String
  deriving DecidableEq, Repr

namespace Settings

/-- The items of a comma-separated list. -/
def items (list : String) : List String :=
  ((list.toList.splitOn ',').map (Text.trimBy Text.isBlank)).filterMap fun item =>
    if item.isEmpty then none else some (String.ofList item)

/-- The items of a variable, or of a default list if the variable is missing. -/
def ofVariable (environment : Environment) (name default : String) : List String :=
  items ((environment.lookup name).getD default)

/-- The candidates for the pairing label unless the environment says otherwise. -/
def defaultSelectorLabels : String := "app,name,app.kubernetes.io/name"

/-- The settings of an environment; they have to name a candidate for the pairing label. -/
def ofEnvironment (environment : Environment) : Except Failure Settings :=
  match ofVariable environment "SELECTOR_LABELS" defaultSelectorLabels with
  | [] => .error (.workload (.configuration .noSelectorLabels))
  | labels => .ok ⟨labels, ofVariable environment "INCLUDE_LABEL_PREFIX" ""⟩

end Settings

end CanaryRelease
