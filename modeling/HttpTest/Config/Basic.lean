import HttpTest.Dictionary

/-!
# Settings
-/

namespace HttpTest

structure HttpSettings where
  timeoutSeconds : UInt64
  userAgent : String
  /-- The headers that every request starts with, a dictionary. -/
  defaultHeaders : List (String × String)
  deriving DecidableEq

def version : String := "0.1.0"

def HttpSettings.standard : HttpSettings := ⟨30, "hit/" ++ version, []⟩

structure Config where
  /-- What stands before the address of a request that is not absolute. -/
  baseUrl : Option String
  http : HttpSettings
  deriving DecidableEq

def Config.standard : Config := ⟨none, .standard⟩

instance : Inhabited Config := ⟨.standard⟩

end HttpTest
