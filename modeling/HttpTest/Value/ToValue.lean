import HttpTest.Value.Json
import HttpTest.Json.Writer

/-!
# What counts as a value

Expectations and bodies are written with numbers, strings, lists and dictionaries of the language.
`ToValue` says which value each of them is.
-/

namespace HttpTest

class ToValue (α : Type) where
  toValue : α → Value

export ToValue (toValue)

instance : ToValue Value := ⟨id⟩
instance : ToValue Bool := ⟨.bool⟩
instance : ToValue String := ⟨.string⟩
instance : ToValue Number.Binary64 := ⟨.float⟩
instance : ToValue Int := ⟨.ofInt⟩
instance : ToValue Nat := ⟨fun n => .ofInt n⟩
instance : ToValue Int64 := ⟨.int⟩
instance : ToValue Int32 := ⟨fun i => .ofInt i.toInt⟩
instance : ToValue Int16 := ⟨fun i => .ofInt i.toInt⟩
instance : ToValue Int8 := ⟨fun i => .ofInt i.toInt⟩
instance : ToValue UInt64 := ⟨fun n => .ofInt n.toNat⟩
instance : ToValue UInt32 := ⟨fun n => .ofInt n.toNat⟩
instance : ToValue UInt16 := ⟨fun n => .ofInt n.toNat⟩
instance : ToValue UInt8 := ⟨fun n => .ofInt n.toNat⟩
instance : ToValue Json := ⟨Json.toValue⟩

instance {α : Type} [ToValue α] : ToValue (Option α) := ⟨fun x => (x.map toValue).getD .null⟩

instance {α : Type} [ToValue α] : ToValue (List α) := ⟨fun items => .list (items.map toValue)⟩

namespace Value

def ofMap {α : Type} [ToValue α] (entries : List (String × α)) : Value :=
  ofEntries (Dictionary.mapValues toValue entries)

/-- The map key that a value stands for: a text, or a scalar by its text in a document. Nothing else
can be a key. -/
def asKey? : Value → Option String
  | .string s => some s
  | .bool b => some (if b then "true" else "false")
  | .int i => some (String.ofList (Number.intText i.toInt))
  | .float x => if x.isFinite then some (String.ofList (x.text .json)) else none
  | _ => none

/-- The map with the given keys and values, unless one of the keys cannot be one. -/
def ofPairs? (pairs : List (Value × Value)) : Option Value :=
  (pairs.mapM fun (pair : Value × Value) => pair.1.asKey?.map (·, pair.2)).map ofEntries

end Value

end HttpTest
