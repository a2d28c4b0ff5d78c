/-!
# Finding a cluster

Where the configuration of the API client comes from: the pod that the program runs in, or, if that
has none, the developer's own configuration.
-/

namespace CanaryRelease.Bootstrap

/-- A source of client configuration. -/
inductive Source where
  | inCluster
  | developer
  deriving DecidableEq, Repr

/-- The name of a source. -/
def Source.name : Source → String
  | inCluster => "incluster"
  | developer => "kubeconfig"

/-- The notice that a source was used. -/
def Source.notice : Source → String
  | inCluster => "Loaded in-cluster Kubernetes configuration"
  | developer => "Loaded local kubeconfig"

/-- The name that the search logs under. -/
def loggerName : String := "canary.src.kube"

/-- What came of the search: the sources tried, and the one used or the message of the last
failure. -/
structure Outcome where
  tried : List Source
  used : Except String Source

/-- Tries the sources in turn; each either loads or fails with a message. -/
def load (attempt : Source → Except String Unit) : Outcome :=
  match attempt .inCluster with
  | .ok () => ⟨[.inCluster], .ok .inCluster⟩
  | .error _ =>
    ⟨[.inCluster, .developer], (attempt .developer).map fun _ => .developer⟩

end CanaryRelease.Bootstrap
