import HttpTest.Config.Text
import HttpTest.Files

/-!
# Settings in files

Settings are kept in a file of a fixed name. Where there is none, they are the standard ones.
-/

namespace HttpTest

inductive ConfigError where
  | read (path : String) (error : FileError)
  | write (path : String) (error : FileError)
  | invalid (text : String) (error : Toml.DocumentError)
  /-- There is no text for the settings. -/
  | unwritable

def ConfigError.message : ConfigError → String
  | .read path error => "failed to read config " ++ path ++ ": " ++ error.message
  | .write path error => "failed to write config " ++ path ++ ": " ++ error.message
  | .invalid text error => "failed to parse config: " ++ error.report text
  | .unwritable => "failed to serialize config: out-of-range value for u64 type"

namespace Config

def fileName : String := "hit.toml"

def parse (text : String) : Except ConfigError Config :=
  (ofText text).mapError (.invalid text)

def load (tree : FileTree) (path : String) : Except ConfigError Config :=
  match tree.readText path with
  | .ok text => parse text
  | .error e => .error (.read path e)

def loadOrStandard (tree : FileTree) (directory : String) : Except ConfigError Config :=
  let path := pathIn directory fileName
  if tree.has path then load tree path else .ok .standard

def render (config : Config) : Except ConfigError String :=
  match config.text? with
  | some text => .ok (String.ofList text)
  | none => .error .unwritable

def save (config : Config) (tree : FileTree) (path : String) : Except ConfigError FileTree :=
  match config.render with
  | .error e => .error e
  | .ok text => (tree.writeText path text).mapError (.write path)

end Config

end HttpTest
