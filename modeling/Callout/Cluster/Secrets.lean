import Callout.Certificate.Base64
import Callout.Cluster.Inquiry
import Callout.Rule.Metadata
import Callout.Secret

/-!
Secrets as the cluster keeps them: bytes in base64 by key, and beside them plain texts for keys that have no bytes.
-/
namespace Callout.Cluster.Secrets

/-- Where a secret is. -/
def pathOf (space name : String) : String := "/api/v1/namespaces/" ++ space ++ "/secrets/" ++ name

/-- Reads bytes. A text is good only if it is the one text of its bytes; null is no bytes. -/
def readBytes : Json → Option ByteArray
  | .null => some ByteArray.empty
  | .text text => do
    let bytes ← Base64.decodeDense text.toList
    if Base64.encode bytes = text.toList then some ⟨bytes.toArray⟩ else none
  | _ => none

/-- Reads what a secret holds. Its other parts have to be of their form. -/
def read (j : Json) : Option SecretData := do
  let p ← j.fieldParts?
  let _ ← p.defaulted "apiVersion" (Json.exactly? "v1") ""
  let _ ← p.defaulted "kind" (Json.exactly? "Secret") ""
  let _ ← p.optional "metadata" Metadata.ofJson
  let _ ← p.optional "immutable" Json.bool?
  let _ ← p.optional "type" Json.text?
  let bytes := (← p.optional "data" (Json.dictOf? readBytes)).getD .empty
  let texts := (← p.optional "stringData" (Json.dictOf? Json.text?)).getD .empty
  return texts.entries.foldl (fun d (key, text) => if d.contains key then d else d.insert key text.toUTF8) bytes

/-- What a secret holds. -/
def get (space name : String) : Inquiry SecretData :=
  .aboutNamed ("get secret " ++ space ++ "/" ++ name) name { path := pathOf space name } read

end Callout.Cluster.Secrets
