import HttpTest.Text.Quoted

/-!
# Request methods
-/

namespace HttpTest

inductive Method where
  | get
  | post
  | put
  | patch
  | delete
  | head
  | options
  deriving DecidableEq

namespace Method

def all : List Method := [.get, .post, .put, .patch, .delete, .head, .options]

def name : Method → String
  | .get => "GET"
  | .post => "POST"
  | .put => "PUT"
  | .patch => "PATCH"
  | .delete => "DELETE"
  | .head => "HEAD"
  | .options => "OPTIONS"

/-- The call that declares a request with a method. -/
def call : Method → String
  | .get => "get"
  | .post => "post"
  | .put => "put"
  | .patch => "patch"
  | .delete => "delete"
  | .head => "head"
  | .options => "options"

/-- The method with a name, in any mix of case. -/
def ofName? (name : String) : Option Method :=
  all.find? fun method => Text.equalIgnoringCase method.name name

def unknownMessage (name : String) : String :=
  "unknown http method " ++ String.ofList (Text.quoted name)

end Method

end HttpTest
