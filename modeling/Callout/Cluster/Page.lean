import Callout.Json.Record

/-!
Lists that come in pages. A page says how to ask for the next one; the version of the last page is the version
of the list.
-/
namespace Callout.Cluster

/-- A page of a list. -/
structure Page (α : Type) where
  items : List α
  /-- What the next page is asked for with. -/
  rest? : Option String := none
  version? : Option String := none

namespace Page
variable {α : Type}

/-- Reads where a page ends: the token for the next page and the version. Empty ones count for nothing. -/
def readEnd (j : Json) : Option (Option String × Option String) := do
  let p : Json.Parts := ⟨← j.fields?, false⟩
  let _ ← p.optional "remainingItemCount" Json.int64?
  let _ ← p.optional "selfLink" Json.text?
  let rest? ← p.optional "continue" Json.text?
  let version? ← p.optional "resourceVersion" Json.text?
  return (rest?.filter (· ≠ ""), version?.filter (· ≠ ""))

/-- Reads a page. What says where it ends may be missing, but may not be null. -/
def ofJson (reader : Json → Option α) (j : Json) : Option (Page α) := do
  let p : Json.Parts := ⟨← j.fields?, false⟩
  let items ← p.required "items" (Json.listOf? reader)
  let (rest?, version?) ← p.defaulted "metadata" readEnd (none, none)
  return { items, rest?, version? }

end Page
end Callout.Cluster
