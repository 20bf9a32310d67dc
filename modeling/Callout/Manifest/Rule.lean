import Callout.Manifest.Layout
import Callout.Manifest.Schema
import Callout.Rule

/-!
The manifest under which the cluster takes rules: the names of the type, the columns in which rules are shown, and
the schema of a rule. Fields that readers of rules fill with a value of their own say so as a default.
-/
namespace Callout.Manifest
open Schema

/-- A field that has to be there. -/
def needed (name : String) (schema : Schema) : Field := { name, schema, required := true }

/-- A field that may be missing. -/
def may (name : String) (schema : Schema) : Field := { name, schema }

/-- A field that may be missing or null. -/
def mayBeNull (name : String) (schema : Schema) : Field := { name, schema := schema.orNull }

/-- The schema of kinds of events. -/
def eventSchema : Schema :=
  (oneOf ["Create", "Update", "Delete"]).described "Lifecycle transition observed for a watched object."

/-- The schema of selectors. -/
def selectorSchema : Schema :=
  record
    [may "group" ((text.described "API group; empty for the core group.").orElse (.text "")),
     needed "kind" text, needed "version" text]

/-- The schema of filters. -/
def filterSchema : Schema :=
  record
    [may "labels"
      ((dict text).described "Every key must be present on the object with an equal value."),
     mayBeNull "nameRegex" text, mayBeNull "namespaceRegex" text]

/-- The schema of sources of headers. -/
def headerSchema : Schema :=
  (record
    [mayBeNull "secretKeyRef" (record [needed "key" text, needed "name" text]), mayBeNull "value" text]).described
    "Literal header value or a reference to a key in a Secret of the rule\x27s namespace."

/-- The schema of settings for repeated attempts. -/
def retrySchema : Schema :=
  record
    [mayBeNull "backoff" (text.described "Base backoff, e.g. \"500ms\"."),
     mayBeNull "maxAttempts"
      ((natural "uint32").described "Total attempts including the first (default 1)."),
     mayBeNull "maxBackoff" text, mayBeNull "retryOnNetworkError" truth,
     mayBeNull "retryOnStatus" (list (natural "uint16"))]

/-- The schema of settings for secured connections. -/
def tlsSchema : Schema :=
  record
    [mayBeNull "caSecretRef"
      ((record [may "key" (text.orElse (.text "ca.crt")), needed "name" text]).described
        "PEM CA bundle; replaces the system trust roots."),
     mayBeNull "clientCertSecretRef"
      (record
        [may "certKey" (text.orElse (.text "tls.crt")), may "keyKey" (text.orElse (.text "tls.key")),
         needed "name" text]),
     may "insecureSkipVerify" (truth.orElse (.bool false)),
     mayBeNull "serverName"
      (text.described "Name used for certificate verification instead of the URL host.")]

/-- The schema of actions. -/
def actionSchema : Schema :=
  record
    [mayBeNull "body" (record [needed "template" text]),
     mayBeNull "expectedStatus"
      (text.described "Regex tested against the decimal status code (default \x60^2..$\x60)."),
     may "headers" (dict headerSchema),
     mayBeNull "method" (text.described "HTTP method (default POST)."),
     may "mode" ((oneOf ["once", "interval"]).orElse (.text "once")),
     mayBeNull "retry" retrySchema,
     mayBeNull "schedule"
      (text.described "Fixed repeat interval such as \"30s\" or \"5m\". Not a cron expression."),
     mayBeNull "timeout" (text.described "Per-attempt timeout (default 10s)."),
     mayBeNull "tls" tlsSchema,
     may "type" ((text.described "Executor kind; only \"http\" ships today.").orElse (.text "http")),
     needed "url" text]

/-- The schema of what a rule says. -/
def specSchema : Schema :=
  (record
    [needed "actions" ((list actionSchema).described "Actions, run in declared order."),
     needed "events" ((list eventSchema).described "Lifecycle events that trigger the actions."),
     mayBeNull "filters"
      (filterSchema.described "Optional conjunctive object filter; absent matches everything."),
     needed "selector" (selectorSchema.described "Resource type to watch.")]).described
    ("Spec object for the \x60" ++ Rule.kind ++ "\x60 CRD")

/-- The schema of entries of the ledger. -/
def executionSchema : Schema :=
  record [needed "event" eventSchema, needed "executedAt" moment, needed "resourceUID" text]

/-- The schema of conditions. -/
def conditionSchema : Schema :=
  record
    [needed "lastTransitionTime" moment, may "message" (text.orElse (.text "")),
     mayBeNull "observedGeneration" (whole "int64"), may "reason" (text.orElse (.text "")),
     needed "status" (oneOf (ConditionStatus.words.map (·.1))), needed "type" text]

/-- The schema of the status of a rule. -/
def statusSchema : Schema :=
  (record
    [may "conditions" ((list conditionSchema).orElse (.list [])),
     may "executions"
      (((list executionSchema).described "Append-only ledger used for once-mode dedup.").orElse (.list [])),
     mayBeNull "lastError" text]).described
    ("State object for the \x60" ++ Rule.kind ++ "\x60 CRD")

/-- The schema of rules. -/
def ruleSchema : Schema :=
  ((record [needed "spec" specSchema, mayBeNull "status" statusSchema]).described
    ("Auto-generated derived type for " ++ Rule.kind ++ "Spec via \x60CustomResource\x60")).withField "title"
    (.text Rule.kind)

/-- A column in which rules are shown. -/
def column (name path : String) : Json :=
  .ofFields [("jsonPath", .text path), ("name", .text name), ("type", .text "string")]

/-- The group and the version of the interface of rules. -/
def interface : String × String :=
  match Rule.apiVersion.splitOn "/" with
  | [group, version] => (group, version)
  | _ => ("", Rule.apiVersion)

/-- The manifest of rules. -/
def rules : Json :=
  let (group, version) := interface
  .ofFields
    [("apiVersion", .text "apiextensions.k8s.io/v1"), ("kind", .text "CustomResourceDefinition"),
     ("metadata", .ofFields [("name", .text (Rule.plural ++ "." ++ group))]),
     ("spec", .ofFields
      [("group", .text group),
       ("names", .ofFields
        [("categories", .list []), ("kind", .text Rule.kind), ("plural", .text Rule.plural),
         ("shortNames", .list [.text "ract"]), ("singular", .text (Rule.kind.map Char.toLower))]),
       ("scope", .text "Namespaced"),
       ("versions", .list
        [.ofFields
          [("additionalPrinterColumns", .list
            [column "Kind" ".spec.selector.kind", column "Last Error" ".status.lastError"]),
           ("name", .text version), ("schema", .ofFields [("openAPIV3Schema", ruleSchema.toJson)]),
           ("served", .bool true), ("storage", .bool true),
           ("subresources", .ofFields [("status", .object [])])]])])]

end Callout.Manifest
