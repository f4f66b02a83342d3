import HttpTest.Toml.Basic

/-!
# Tables under construction

The lines of a document and the pairs of an inline table add to tables that may have been begun
before. What may still be added to a table depends on how it came about: through a header, as a part
of the name in another header, or as a part of a dotted key.
-/

namespace HttpTest.Toml

inductive Origin where
  /-- By a header of its own, or as the whole document or inline table. -/
  | declared
  /-- As a part of the name in a header. -/
  | implied
  /-- As a part of a dotted key. -/
  | dotted
  deriving DecidableEq

structure OpenTable (ι : Type) where
  origin : Origin
  span : Option Span
  entries : List (Located String × ι)

/-- What a key stands for in a table under construction. -/
inductive Draft where
  /-- A value, to which nothing can be added. -/
  | complete (value : Located Toml)
  | table (table : OpenTable Draft)
  /-- The tables of an array that headers append to, in reverse order. -/
  | tables (last : OpenTable Draft) (before : List (OpenTable Draft))

namespace OpenTable

variable {ι : Type}

def empty (origin : Origin) (span : Option Span) : OpenTable ι := ⟨origin, span, []⟩

def find? (table : OpenTable ι) (key : String) : Option ι :=
  (table.entries.find? (·.1.data = key)).map (·.2)

def erase (table : OpenTable ι) (key : String) : OpenTable ι :=
  { table with entries := table.entries.filter (·.1.data ≠ key) }

def append (table : OpenTable ι) (key : Located String) (item : ι) : OpenTable ι :=
  { table with entries := table.entries ++ [(key, item)] }

def put (table : OpenTable ι) (key : Located String) (item : ι) : OpenTable ι :=
  if (table.find? key.data).isSome then
    { table with entries := table.entries.map fun entry =>
        if entry.1.data = key.data then (entry.1, item) else entry }
  else table.append key item

end OpenTable

namespace Draft

/-- Changes the table that a path names, which is made if it is not there. On the way, the last
table stands for an array of tables. A dotted key does not lead into a table that was declared
elsewhere.
-/
def within (dotted : Bool) (change : OpenTable Draft → Option (OpenTable Draft)) :
    (path : List (Located String)) → OpenTable Draft → Option (OpenTable Draft)
  | [], outer => change outer
  | key :: path, outer =>
    match outer.find? key.data with
    | none =>
      let origin := if dotted then Origin.dotted else Origin.implied
      (within dotted change path (.empty origin none)).map fun inner =>
        outer.append key (.table inner)
    | some (.complete _) => none
    | some (.table inner) =>
      if dotted ∧ inner.origin = .declared then none
      else (within dotted change path inner).map fun inner => outer.put key (.table inner)
    | some (.tables last before) =>
      (within dotted change path last).map fun last => outer.put key (.tables last before)

/-- Adds a pair of a key and a value. The table must be of the kind that keys of this form make, and
must not have the key. -/
def addPair (path : List (Located String)) (key : Located String) (value : Located Toml)
    (outer : OpenTable Draft) : Option (OpenTable Draft) :=
  within true
    (fun inner =>
      if decide (inner.origin = .dotted) = path.isEmpty then none
      else if (inner.find? key.data).isSome then none
      else some (inner.append key (.complete value)))
    path outer

/-- Adds the table of a header, with what was implied about it before. -/
def addTable (path : List (Located String)) (key : Located String) (added : OpenTable Draft)
    (root : OpenTable Draft) : Option (OpenTable Draft) :=
  within false (fun parent => some ((parent.erase key.data).append key (.table added))) path root

/-- What was implied about the table that a header declares; nothing if it must not be declared. -/
def implied? (path : List (Located String)) (key : Located String) (root : OpenTable Draft) :
    Option (List (Located String × Draft)) :=
  match path with
  | [] =>
    match root.find? key.data with
    | none => some []
    | some (.table found) => if found.origin = .implied then some found.entries else none
    | some _ => none
  | step :: path =>
    match root.find? step.data with
    | none => some []
    | some (.complete _) => none
    | some (.table inner) => implied? path key inner
    | some (.tables last _) => implied? path key last

def addElement (path : List (Located String)) (key : Located String) (added : OpenTable Draft)
    (root : OpenTable Draft) : Option (OpenTable Draft) :=
  within false
    (fun parent =>
      match parent.find? key.data with
      | none => some (parent.append key (.tables added []))
      | some (.tables last before) => some (parent.put key (.tables added (last :: before)))
      | some _ => none)
    path root

def spanOf (first last : Option Span) : Option Span :=
  match first, last with
  | some first, some last => some ⟨first.start, last.stop⟩
  | _, _ => none

mutual

def close : Draft → Located Toml
  | .complete value => value
  | .table ⟨_, span, entries⟩ => ⟨.table (closeEntries entries), span⟩
  | .tables ⟨_, span, entries⟩ before =>
    let items := closeTables before ++ [⟨.table (closeEntries entries), span⟩]
    ⟨.array .headed items, spanOf ((items.head?).bind (·.span)) span⟩

def closeEntries : List (Located String × Draft) → List (Located String × Located Toml)
  | [] => []
  | (key, draft) :: entries => (key, draft.close) :: closeEntries entries

def closeTables : List (OpenTable Draft) → List (Located Toml)
  | [] => []
  | ⟨_, span, entries⟩ :: before => closeTables before ++ [⟨.table (closeEntries entries), span⟩]

end

end Draft

def OpenTable.close (table : OpenTable Draft) : Located Toml := Draft.close (.table table)

end HttpTest.Toml
