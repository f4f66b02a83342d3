import HttpTest.Http.Method
import HttpTest.Http.Header
import HttpTest.Value.Json
import HttpTest.Json.Writer
import HttpTest.Text.Utf8

/-!
# Requests
-/

namespace HttpTest

attribute [local instance (high)] ByteArray.instDecidableEq

structure Request where
  method : Option Method
  url : String
  headers : List Header
  body : ByteArray
  deriving DecidableEq

namespace Request

def blank : Request := ⟨none, "", [], .empty⟩

instance : Inhabited Request := ⟨blank⟩

def setMethod (request : Request) (method : Method) : Request :=
  { request with method := some method }

def setUrl (request : Request) (url : String) : Request := { request with url := url }

/-- Sets a header in place of all earlier ones of its name. -/
def setHeader (request : Request) (name value : String) : Request :=
  { request with headers := Header.set request.headers name value }

def setBody (request : Request) (body : ByteArray) : Request := { request with body := body }

def header? (request : Request) (name : String) : Option String := Header.find? request.headers name

/-- Sets the body from a value: a text is sent as it is, `null` leaves no body, and anything else is
sent as JSON. -/
def setBodyValue (request : Request) (value : Value) : Request :=
  match value with
  | .string s => request.setBody s.toUTF8
  | .null => request.setBody .empty
  | value => request.setBody value.toJson.write.toUTF8

/-- Sets the body to the JSON document of a value, and the content type unless there is one. -/
def setBodyJson (request : Request) (value : Value) : Request :=
  let request := request.setBody value.toJson.write.toUTF8
  if (request.header? "Content-Type").isNone then
    request.setHeader "Content-Type" "application/json"
  else request

theorem setBodyJson_eq (request : Request) (document : Value) :
    request.setBodyJson document
      = { request with
          headers :=
            if (Header.find? request.headers "Content-Type").isNone then
              Header.set request.headers "Content-Type" "application/json"
            else request.headers
          body := document.toJson.write.toUTF8 } := by
  show (if (Header.find? request.headers "Content-Type").isNone then _ else _) = _
  split <;> rfl

def bodyText (request : Request) : String := Text.decodeLossy request.body

end Request

end HttpTest
