import HttpTest.Toml.Datetime
import HttpTest.Value.Json

/-!
# TOML documents

A document as data, each key and each value with the place in the text it was read from, as far as
it has one. Tables keep the order of their entries.
-/

namespace HttpTest

/-- A stretch of a text, given by how many characters are left where it starts and where it stops.
-/
structure Span where
  start : Nat
  stop : Nat
  deriving DecidableEq

structure Located (α : Type) where
  data : α
  span : Option Span

inductive Toml.ArrayForm where
  /-- As items between brackets. -/
  | bracketed
  /-- As tables with headers of their own. -/
  | headed
  deriving DecidableEq

inductive Toml where
  | string (s : String)
  | integer (i : Int64)
  | float (x : Number.Binary64)
  | boolean (b : Bool)
  | datetime (d : Toml.Datetime)
  | array (form : Toml.ArrayForm) (items : List (Located Toml))
  | table (entries : List (Located String × Located Toml))

namespace Toml

instance : Inhabited Toml := ⟨.table []⟩

/-- The key that marks a map as a moment. -/
def datetimeKey : String := "$__toml_private_datetime"

/-- The map that stands for a moment: its only entry holds the written form. -/
def momentValue (d : Datetime) : Value := .map [(datetimeKey, .string (String.ofList d.text))]

end Toml

end HttpTest
