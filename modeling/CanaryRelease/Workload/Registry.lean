import CanaryRelease.Settings
import CanaryRelease.Workload.Controller

/-!
# Registry of controllers

One controller for each kind, all with the same settings. A kind that has no controller of its own
is left to the controller of Deployments.
-/

namespace CanaryRelease

/-- What the controllers of all kinds are made from. -/
structure Registry where
  settings : Settings
  /-- The name that all controllers log under; without it each logs under its own. -/
  logger : Option String
  deriving DecidableEq, Repr

namespace Registry

/-- The controller of a kind. -/
def ofKind (r : Registry) : Kind → Controller
  | .template kind =>
    .template ⟨kind, r.settings.selectorLabels, r.settings.labelPrefixes,
      r.logger.getD kind.loggerName⟩
  | .service => .service ⟨r.settings.labelPrefixes, r.logger.getD Kind.service.loggerName⟩

/-- The controller for the kind that a manifest names. -/
def controller (r : Registry) (kind : Value) : Except Failure Controller :=
  match kind with
  | .text name => .ok (r.ofKind (.ofName name))
  | .list _ | .object _ => .error .malformed
  | _ => .ok (r.ofKind (.template .deployment))

end Registry

end CanaryRelease
