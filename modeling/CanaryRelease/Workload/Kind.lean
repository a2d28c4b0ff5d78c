/-!
# Workload kinds

The four kinds of target: three that run pods from a template, and the plain Service. A kind fixes
its API version, the name it logs under and, if it has a template, which update strategies are fit
for a canary release and which fields of its spec make up the deployment policy.
-/

namespace CanaryRelease

/-- The kinds that run pods from a template. -/
inductive TemplateKind where
  | deployment
  | daemonSet
  | cloneSet
  deriving DecidableEq, Repr

/-- The kinds of target. -/
inductive Kind where
  | template (kind : TemplateKind)
  | service
  deriving DecidableEq, Repr

namespace TemplateKind

/-- The kind as manifests name it. -/
def name : TemplateKind → String
  | deployment => "Deployment"
  | daemonSet => "DaemonSet"
  | cloneSet => "CloneSet"

/-- The kind as messages name it. -/
def lowerName : TemplateKind → String
  | deployment => "deployment"
  | daemonSet => "daemonset"
  | cloneSet => "cloneset"

/-- The version of the API that serves the kind. -/
def apiVersion : TemplateKind → String
  | deployment | daemonSet => "apps/v1"
  | cloneSet => "apps.kruise.io/v1alpha1"

/-- The field of the spec that holds the update strategy. -/
def strategyField : TemplateKind → String
  | deployment => "strategy"
  | daemonSet | cloneSet => "updateStrategy"

/-- The update strategies fit for a canary release, in alphabetical order. -/
def allowedStrategies : TemplateKind → List String
  | deployment | daemonSet => ["RollingUpdate"]
  | cloneSet => ["ReCreate"]

/-- The fields of the spec that make up the deployment policy. -/
def policyFields : TemplateKind → List String
  | deployment =>
    ["minReadySeconds", "revisionHistoryLimit", "strategy", "progressDeadlineSeconds"]
  | daemonSet | cloneSet => ["minReadySeconds", "revisionHistoryLimit", "updateStrategy"]

/-- The name that the kind logs under unless told otherwise. -/
def loggerName : TemplateKind → String
  | deployment => "canary.src.deployment"
  | daemonSet => "canary.src.daemonset"
  | cloneSet => "canary.src.cloneset"

end TemplateKind

namespace Kind

/-- The kind as manifests name it. -/
def name : Kind → String
  | template kind => kind.name
  | service => "Service"

/-- The version of the API that serves the kind. -/
def apiVersion : Kind → String
  | template kind => kind.apiVersion
  | service => "v1"

/-- The path of a kind that is served as a custom resource: group, version and plural. -/
def customResource? : Kind → Option String
  | template .cloneSet => some "apps.kruise.io/v1alpha1/clonesets"
  | _ => none

/-- The name that the kind logs under unless told otherwise. -/
def loggerName : Kind → String
  | template kind => kind.loggerName
  | service => "canary.src.service"

/-- All kinds, by name in alphabetical order. -/
def all : List Kind := [template .cloneSet, template .daemonSet, template .deployment, service]

/-- The kind of a name; every name that is not one of a kind stands for a Deployment. -/
def ofName (name : String) : Kind :=
  (all.find? fun kind => kind.name = name).getD (template .deployment)

end Kind

end CanaryRelease
