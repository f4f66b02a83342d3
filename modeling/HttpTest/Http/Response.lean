import HttpTest.Http.Header
import HttpTest.Value.Json
import HttpTest.Json.Reader
import HttpTest.Text.Utf8

/-!
# Responses
-/

namespace HttpTest

attribute [local instance (high)] ByteArray.instDecidableEq

structure Response where
  status : UInt16
  headers : List Header
  body : ByteArray
  deriving DecidableEq

namespace Response

def statusValue (response : Response) : Value := .ofInt response.status.toNat

def header? (response : Response) (name : String) : Option String :=
  Header.find? response.headers name

def headerSeparator : String := ", "

/-- The values of all headers with a name as one text, which is empty if there are none. -/
def headerValue (response : Response) (name : String) : Value :=
  .string (String.intercalate headerSeparator (Header.findAll response.headers name))

def headerEntries (headers : List Header) : List (String × String) :=
  headers.foldl (fun entries (name, value) =>
    let name := Header.canonicalName name
    match Dictionary.find? name entries with
    | some earlier => Dictionary.insert name (earlier ++ headerSeparator ++ value) entries
    | none => Dictionary.insert name value entries) []

/-- All headers as a map under their canonical names. -/
def headersValue (response : Response) : Value :=
  .map (Dictionary.mapValues .string (headerEntries response.headers))

def bodyText (response : Response) : String := Text.decodeLossy response.body

def bodyJson (response : Response) : Except Json.ReadError Value :=
  match Json.readBytes response.body with
  | .ok document => .ok document.toValue
  | .error e => .error e

end Response

end HttpTest
