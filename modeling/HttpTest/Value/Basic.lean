import HttpTest.Number.Binary64
import HttpTest.Dictionary

/-!
# Values

A value is what an expectation is written with and what a response is taken apart into: a scalar, a
list, a map or a record. Its `Kind` is its outermost shape.
-/

namespace HttpTest

open Number (Binary64)

/-- A value of any shape. The entries of a map are a dictionary; the fields of a record keep the
order they were declared in, and a name may be repeated. -/
inductive Value where
  | null
  | bool (b : Bool)
  | int (i : Int64)
  | float (x : Binary64)
  | string (s : String)
  | list (items : List Value)
  | map (entries : List (String × Value))
  | record (name : String) (fields : List (String × Value))

inductive Kind where
  | null
  | bool
  | int
  | float
  | string
  | list
  | map
  | record
  deriving DecidableEq

namespace Kind

def isComposite : Kind → Bool
  | .list | .map | .record => true
  | _ => false

def name : Kind → String
  | .null => "null"
  | .bool => "bool"
  | .int => "int"
  | .float => "float"
  | .string => "string"
  | .list => "list"
  | .map => "map"
  | .record => "record"

def all : List Kind := [.null, .bool, .int, .float, .string, .list, .map, .record]

def ofName? (name : String) : Option Kind := all.find? (·.name = name)

end Kind

namespace Value

instance : Inhabited Value := ⟨.null⟩

def kind : Value → Kind
  | .null => .null
  | .bool _ => .bool
  | .int _ => .int
  | .float _ => .float
  | .string _ => .string
  | .list _ => .list
  | .map _ => .map
  | .record .. => .record

def isNull : Value → Bool
  | .null => true
  | _ => false

def text? : Value → Option String
  | .string s => some s
  | _ => none

/-- The map with the given entries; of two entries with one key the later counts. -/
def ofEntries (entries : List (String × Value)) : Value := .map (Dictionary.ofList entries)

def entries? : Value → Option (List (String × Value))
  | .map entries => some entries
  | .record _ fields => some fields
  | _ => none

mutual

/-- Equality of values as data, entry by entry in order; numbers compare as numbers, so that what is
not a number equals nothing and the two zeros are equal. -/
def same : Value → Value → Bool
  | .null, .null => true
  | .bool a, .bool b => a == b
  | .int a, .int b => a == b
  | .float a, .float b => a == b
  | .string a, .string b => a == b
  | .list a, .list b => sameItems a b
  | .map a, .map b => sameEntries a b
  | .record n a, .record m b => n == m && sameEntries a b
  | _, _ => false

def sameItems : List Value → List Value → Bool
  | [], [] => true
  | a :: as, b :: bs => same a b && sameItems as bs
  | _, _ => false

def sameEntries : List (String × Value) → List (String × Value) → Bool
  | [], [] => true
  | (k, a) :: as, (l, b) :: bs => k == l && same a b && sameEntries as bs
  | _, _ => false

end

instance : BEq Value := ⟨same⟩

mutual

/-- Whether the maps in a value, at any depth, are dictionaries. -/
def wellFormed : Value → Bool
  | .list items => itemsWellFormed items
  | .map entries => decide (Dictionary.Sorted entries) && entriesWellFormed entries
  | .record _ fields => entriesWellFormed fields
  | _ => true

def itemsWellFormed : List Value → Bool
  | [] => true
  | item :: items => wellFormed item && itemsWellFormed items

def entriesWellFormed : List (String × Value) → Bool
  | [] => true
  | (_, value) :: entries => wellFormed value && entriesWellFormed entries

end

mutual

/-- Whether two values are the same term, with no regard to what numbers mean. -/
def decEq : (a b : Value) → Decidable (a = b)
  | .null, b => match b with
    | .null => isTrue rfl
    | .bool _ | .int _ | .float _ | .string _ | .list _ | .map _ | .record .. =>
      isFalse (by intro h; cases h)
  | .bool x, b => match b with
    | .bool y => decidable_of_iff (x = y) (by simp)
    | .null | .int _ | .float _ | .string _ | .list _ | .map _ | .record .. =>
      isFalse (by intro h; cases h)
  | .int x, b => match b with
    | .int y => decidable_of_iff (x = y) (by simp)
    | .null | .bool _ | .float _ | .string _ | .list _ | .map _ | .record .. =>
      isFalse (by intro h; cases h)
  | .float x, b => match b with
    | .float y => decidable_of_iff (x = y) (by simp)
    | .null | .bool _ | .int _ | .string _ | .list _ | .map _ | .record .. =>
      isFalse (by intro h; cases h)
  | .string x, b => match b with
    | .string y => decidable_of_iff (x = y) (by simp)
    | .null | .bool _ | .int _ | .float _ | .list _ | .map _ | .record .. =>
      isFalse (by intro h; cases h)
  | .list x, b => match b with
    | .list y => match decEqItems x y with
      | isTrue h => isTrue (by rw [h])
      | isFalse h => isFalse (by intro e; cases e; exact h rfl)
    | .null | .bool _ | .int _ | .float _ | .string _ | .map _ | .record .. =>
      isFalse (by intro h; cases h)
  | .map x, b => match b with
    | .map y => match decEqEntries x y with
      | isTrue h => isTrue (by rw [h])
      | isFalse h => isFalse (by intro e; cases e; exact h rfl)
    | .null | .bool _ | .int _ | .float _ | .string _ | .list _ | .record .. =>
      isFalse (by intro h; cases h)
  | .record n x, b => match b with
    | .record m y => match instDecidableEqString n m, decEqEntries x y with
      | isTrue h, isTrue h' => isTrue (by rw [h, h'])
      | isFalse h, _ => isFalse (by intro e; cases e; exact h rfl)
      | _, isFalse h => isFalse (by intro e; cases e; exact h rfl)
    | .null | .bool _ | .int _ | .float _ | .string _ | .list _ | .map _ =>
      isFalse (by intro h; cases h)

def decEqItems : (a b : List Value) → Decidable (a = b)
  | [], [] => isTrue rfl
  | [], _ :: _ => isFalse (by intro h; cases h)
  | _ :: _, [] => isFalse (by intro h; cases h)
  | x :: xs, y :: ys => match decEq x y, decEqItems xs ys with
    | isTrue h, isTrue h' => isTrue (by rw [h, h'])
    | isFalse h, _ => isFalse (by intro e; cases e; exact h rfl)
    | _, isFalse h => isFalse (by intro e; cases e; exact h rfl)

def decEqEntries : (a b : List (String × Value)) → Decidable (a = b)
  | [], [] => isTrue rfl
  | [], _ :: _ => isFalse (by intro h; cases h)
  | _ :: _, [] => isFalse (by intro h; cases h)
  | (k, x) :: xs, (l, y) :: ys =>
    match instDecidableEqString k l, decEq x y, decEqEntries xs ys with
    | isTrue h, isTrue h', isTrue h'' => isTrue (by rw [h, h', h''])
    | isFalse h, _, _ => isFalse (by intro e; cases e; exact h rfl)
    | _, isFalse h, _ => isFalse (by intro e; cases e; exact h rfl)
    | _, _, isFalse h => isFalse (by intro e; cases e; exact h rfl)

end

instance : DecidableEq Value := decEq

end Value

end HttpTest
