import HttpTest.Chain.Stage

/-!
# Setup and cleanup

The calls that declare the request line, the settings of a run, and what is done at its end. None of
them can be misused.
-/

namespace HttpTest

inductive SetupCall where
  /-- The call named after the method, as in `get(url)`. -/
  | request (verb : Method) (url : String)
  /-- The call `method(name, url)`. -/
  | method (verb : Method) (url : String)
  | baseUrl (url : String)
  | transport (installed : Transport)
  | description (text : String)
  | cleanup (callback : Callback)

namespace SetupCall

def step : SetupCall → Step
  | .request verb url => (Stage.first verb.call [.string url]).step .setup (.target verb url)
  | .method verb url =>
      (Stage.first "method" [.string verb.name, .string url]).step .setup (.target verb url)
  | .baseUrl address => (Stage.first "base_url" [.string address]).step .setup (.baseUrl address)
  | .transport installed => (Stage.first "transport" []).step .setup (.transport installed)
  | .description text => (Stage.first "description" [.string text]).step .setup (.description text)
  | .cleanup callback => (Stage.first "cleanup" []).step .cleanup (.custom callback)

end SetupCall

end HttpTest
