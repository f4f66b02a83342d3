import HttpTest.Config.Basic
import HttpTest.Toml.Document
import HttpTest.Toml.Writer
import HttpTest.Value.ToValue

/-!
# Settings as TOML

Settings are written as a document and read back from one. What a document leaves out has its
standard value, and what it says beyond the settings is ignored.
-/

namespace HttpTest

def HttpSettings.schema : Toml.Schema HttpSettings where
  name := "HttpConfig"
  strict := false
  fields :=
    [.of "timeout_secs" .never (.natural .word) fun n settings =>
        { settings with timeoutSeconds := n },
     .of "user_agent" .never .string fun agent settings => { settings with userAgent := agent },
     .of "default_headers" .never (.dictionary .string) fun headers settings =>
        { settings with defaultHeaders := headers }]

def Config.schema : Toml.Schema Config where
  name := "Config"
  strict := false
  fields :=
    [.of "base_url" .never .string fun url config => { config with baseUrl := some url },
     .of "http" .never (HttpSettings.schema.decode .standard) fun http config =>
        { config with http }]

namespace Config

def ofText (text : String) : Except Toml.DocumentError Config :=
  Toml.decode (schema.decode .standard) text

/-- The text of settings; none if the timeout is beyond the integers of TOML. -/
def text? (config : Config) : Option (List Char) :=
  let http := config.http
  if 2 ^ 63 ≤ http.timeoutSeconds.toNat then none
  else
    let base := match config.baseUrl with
      | some url => Toml.pairLine "base_url" (Toml.stringText url) ++ ['\n']
      | none => []
    some <|
      base ++ Toml.headerLine ["http"]
        ++ Toml.pairLine "timeout_secs" (Number.natText http.timeoutSeconds.toNat)
        ++ Toml.pairLine "user_agent" (Toml.stringText http.userAgent)
        ++ '\n' :: Toml.headerLine ["http", "default_headers"]
        ++ http.defaultHeaders.flatMap fun (name, value) =>
            Toml.pairLine name (Toml.stringText value)

instance : ToValue HttpSettings where
  toValue http := .ofEntries
    [("timeout_secs", toValue http.timeoutSeconds), ("user_agent", toValue http.userAgent),
     ("default_headers", .ofMap http.defaultHeaders)]

instance : ToValue Config where
  toValue config := .ofEntries [("base_url", toValue config.baseUrl), ("http", toValue config.http)]

end Config

end HttpTest
