import Callout.Cluster.Discovery
import Callout.Cluster.Object
import Callout.Cluster.Rules
import Callout.Engine.Demand
import Callout.Json.Unfinished

/-!
Watches. A watch first lists all objects, page by page, and then asks for changes after the version of the list. When
the changes end it asks again, after the last version that it saw. A list that fails, an object without version, and
a refusal that says that the version is too old make it start over.
-/
namespace Callout.Cluster

/-- What a watch tells of objects. -/
inductive Change (α : Type) where
  | applied (object : α)
  | deleted (object : α)
  | restarted (objects : List α)

/-- What a watch looks at. -/
structure Subject (α : Type) where
  path : String
  read : Json → Option α
  metadata : α → Metadata

namespace Watch

/-- Where a watch is. -/
inductive Stage (α : Type) where
  /-- Listing: what the next page is asked for with, and the objects of the pages before. -/
  | listing (rest? : Option String) (before : List α)
  /-- All objects are listed up to a version, and changes after it have to be asked for. -/
  | listed (version : String)
  /-- Changes are told, line by line. -/
  | watching (version : String) (lines : List String)

/-- A line of changes. -/
inductive Line (α : Type) where
  | applied (object : α)
  | deleted (object : α)
  /-- Nothing changed up to a version. -/
  | bookmark (version : String)
  | refused (refusal : Refusal)

end Watch

/-- A watch. -/
structure Watch (α : Type) where
  subject : Subject α
  stage : Watch.Stage α := .listing none []

namespace Watch
variable {α : Type}

/-- How many objects are on a page. -/
def pageSize : Nat := 500

/-- After how many seconds the server ends a stream of changes. -/
def patience : Nat := 290

/-- The request for a page. -/
def listRequest (s : Subject α) (rest? : Option String) : Request :=
  { path := s.path,
    parameters := ("limit", toString pageSize) :: (rest?.map (Prod.mk "continue" ·)).toList }

/-- The request for the changes after a version. -/
def changesRequest (s : Subject α) (version : String) : Request :=
  { path := s.path,
    parameters := [("watch", "true"), ("timeoutSeconds", toString patience), ("allowWatchBookmarks", "true"),
      ("resourceVersion", version)] }

/-- Reads the version up to which nothing changed. -/
def readBookmark (j : Json) : Option String := do
  let p : Json.Parts := ⟨← j.fields?, false⟩
  let _ ← p.required "apiVersion" Json.text?
  let _ ← p.required "kind" Json.text?
  p.required "metadata" fun m => do
    let p ← m.parts? ["resourceVersion", "annotations"]
    let _ ← p.defaulted "annotations" (Json.dictOf? Json.text?) .empty
    p.required "resourceVersion" Json.text?

/-- Reads a line of changes. -/
def Line.ofJson (read : Json → Option α) (j : Json) : Option (Line α) := do
  let p ← j.parts? ["type", "object"]
  match ← p.required "type" Json.text? with
  | "ADDED" | "MODIFIED" => return .applied (← p.required "object" read)
  | "DELETED" => return .deleted (← p.required "object" read)
  | "BOOKMARK" => return .bookmark (← p.required "object" readBookmark)
  | "ERROR" => return .refused (← p.required "object" Refusal.ofJson)
  | _ => none

/-- What a watch does next. -/
inductive Next (α : Type) where
  | ask (request : Request)
  /-- It goes on, and may tell something. -/
  | move (watch : Watch α) (told? : Option (Except Error (Change α)))

/-- A watch that starts over because of an error. -/
def startOver (w : Watch α) (e : Error) : Next α := .move { w with stage := .listing none [] } (some (.error e))

/-- A change of an object that came with a version. -/
def tell (w : Watch α) (rest : List String) (object : α) (change : Change α) : Next α :=
  match (w.subject.metadata object).version?.filter (· ≠ "") with
  | none => w.startOver .versionMissing
  | some version => .move { w with stage := .watching version rest } (some (.ok change))

/-- The code of a refusal that says that a version is too old. -/
def gone : UInt16 := 410

/-- What a watch does with a line. A line that stops too early counts for nothing. -/
def takeLine (w : Watch α) (version line : String) (rest : List String) : Next α :=
  let stay (told? : Option (Except Error (Change α))) : Next α :=
    .move { w with stage := .watching version rest } told?
  match Json.parse line with
  | none => stay (if Json.isUnfinished line then none else some (.error .unreadable))
  | some j =>
    match Line.ofJson w.subject.read j with
    | some (.applied object) => w.tell rest object (.applied object)
    | some (.deleted object) => w.tell rest object (.deleted object)
    | some (.bookmark version) => .move { w with stage := .watching version rest } none
    | some (.refused refusal) =>
      if refusal.code = gone then w.startOver (.refused refusal) else stay (some (.error (.refused refusal)))
    | none => stay (some (.error ((Refusal.ofJson j).elim .unreadable .refused)))

/-- What a watch does next. -/
def next (w : Watch α) : Next α :=
  match w.stage with
  | .listing rest? _ => .ask (listRequest w.subject rest?)
  | .listed version => .ask (changesRequest w.subject version)
  | .watching version [] => .move { w with stage := .listed version } none
  | .watching version (line :: rest) => w.takeLine version line rest

/-- A watch after a page. -/
def afterPage (w : Watch α) (before : List α) (page : Page α) : Next α :=
  let objects := before ++ page.items
  match page.rest?, page.version? with
  | some rest, _ => .move { w with stage := .listing (some rest) objects } none
  | none, some version => .move { w with stage := .listed version } (some (.ok (.restarted objects)))
  | none, none => w.startOver .versionMissing

/-- A watch when the server answered. The status of an answer that brings changes is not looked at. -/
def answered (w : Watch α) (r : Response) : Next α :=
  match w.stage with
  | .listing _ before =>
    match r.read (Page.ofJson w.subject.read) with
    | .ok page => w.afterPage before page
    | .error e => w.startOver e
  | .listed version => .move { w with stage := .watching version r.lines } none
  | .watching _ _ => .move w none

end Watch

/-- What a watch of a type of resources looks at. -/
def Subject.ofTarget (t : WatchTarget) : Subject Object :=
  { path := Discovery.root t.type ++ "/" ++ t.plural, read := Object.ofJson, metadata := (·.metadata) }

/-- What the watch of rules looks at. -/
def Subject.rules : Subject Rule := { path := Rules.path, read := Rule.ofJson, metadata := (·.metadata) }

/-- What a session is told of a change. -/
def Change.notification : Change Object → Notification
  | .applied object => .applied object.toJson
  | .deleted object => .deleted object.toJson
  | .restarted objects => .restarted (objects.map Object.toJson)

/-- What the reconciler is told of a change. -/
def Change.news : Change Rule → RuleNews
  | .applied rule => .applied rule
  | .deleted rule => .deleted rule
  | .restarted rules => .restarted rules

/-- The fault that an error of the watch of a type is. -/
def Error.watchFault (type : ResourceType) (e : Error) : Fault :=
  .store ("watch " ++ type.toText ++ ": " ++ e.message)

end Callout.Cluster
