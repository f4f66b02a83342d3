import HttpTest.Http.Header

/-!
# What may be sent as a header

A name is a token: letters, digits and a few signs of ASCII. A value is a text without control
characters other than the tab.
-/

namespace HttpTest

inductive HeaderFault where
  | name
  | value
  deriving DecidableEq

def HeaderFault.message : HeaderFault → String
  | .name => "invalid HTTP header name"
  | .value => "failed to parse header value"

namespace Header

def isTokenChar (c : Char) : Bool :=
  c.isAlphanum || "!#$%&'*+-.^_|~".toList.contains c || c.toNat == 0x60

def maxNameLength : Nat := 65535

def isValueChar (c : Char) : Bool := (0x20 ≤ c.toNat && c.toNat != 0x7F) || c == '\t'

/-- What keeps a header from being sent, the name first. -/
def fault? (header : Header) : Option HeaderFault :=
  let name := header.1.toList
  if name.isEmpty || !name.all isTokenChar || maxNameLength < name.length then some .name
  else if !header.2.toList.all isValueChar then some .value
  else none

end Header

end HttpTest
