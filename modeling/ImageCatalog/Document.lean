import ImageCatalog.Fault
import ImageCatalog.Xml.Reader
import ImageCatalog.Xml.Query
import ImageCatalog.Time.Iso

/-!
# Response documents

A response body is read into its root element; a body that is no
well-formed document is an `unreadable` fault that says what is wrong and
where.

A document may report a platform failure with an `Error` element anywhere in
it. Its message is the element's `message` attribute (or "Unspecified vCloud
error"), after the non-empty error codes in brackets: `[400/BUSY] Entity is
busy`.
-/

namespace ImageCatalog

open ImageCatalog.Xml

/-- Reads a response body into its root element. -/
def parseDocument (raw : String) : Except Fault Element :=
  match readDocument raw with
  | .ok root => .ok root
  | .error f => .error (.unreadable (f.render raw.toList))

/-- The message of the first `Error` element of a document, if it has one. -/
def errorMessage (root : Element) : Option String :=
  (root.findFirst "Error").map fun err =>
    let message := err.attrValue "message"
    let codes := [err.attrValue "majorErrorCode", err.attrValue "minorErrorCode"].filterMap
      (fun c => c.filter (!·.isEmpty))
    let lead := if codes.isEmpty then "" else "[" ++ "/".intercalate codes ++ "] "
    lead ++ (message.filter (!·.isEmpty)).getD "Unspecified vCloud error"

/-- Fails with the document's error message when it reports a failure. -/
def checkError (root : Element) : Except Fault Unit :=
  match errorMessage root with
  | some m => .error (.cloud m)
  | none => .ok ()

/-- Epoch milliseconds of a timestamp in a document: 0 when it cannot be
read, a fault when it is missing or blank. -/
def readTimestamp (value : Option String) : Except Fault Int :=
  match value with
  | none => .error (.cloud "Received empty timestamp")
  | some v =>
    let t := Text.trim v
    if t.isEmpty then .error (.cloud "Received empty timestamp")
    else .ok ((Time.readIsoMillis t).getD 0)

end ImageCatalog
