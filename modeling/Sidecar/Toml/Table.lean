import Sidecar.Node

/-!
# Tables under construction

A TOML table is built entry by entry.  How it came to be decides who may still add to it: a table
that only stands on the way to another one is *implicit* and may be given a header later; one
made by a dotted key is *dotted* and takes further dotted keys only; everything else is closed.

* `Table.insert` adds a value under a dotted key;
* `Table.update` changes the table that a path leads to, making tables on the way.
-/

namespace Sidecar.Toml

mutual

/-- A table with the way it came to be. -/
inductive Table where
  | mk (isImplicit isDotted : Bool) (entries : List (String × Item))

/-- What stands under a key. -/
inductive Item where
  | value (n : Node)
  | table (t : Table)
  /-- The tables of repeated double-bracket headers. -/
  | tables (ts : List Table)

end

instance : Inhabited Table := ⟨.mk false false []⟩
instance : Inhabited Item := ⟨.value .null⟩

namespace Table

/-- Made on the way to another table. -/
def isImplicit : Table → Bool
  | .mk i _ _ => i

/-- Made by a dotted key. -/
def isDotted : Table → Bool
  | .mk _ d _ => d

/-- The entries in the order of the text. -/
def entries : Table → List (String × Item)
  | .mk _ _ es => es

/-- The same table with other entries. -/
def withEntries (t : Table) (es : List (String × Item)) : Table :=
  .mk t.isImplicit t.isDotted es

/-- A table of its own. -/
def empty : Table := .mk false false []

/-- What stands under a key. -/
def get? (t : Table) (key : String) : Option Item := t.entries.lookup key

/-- Put an item under a key, in the place of the one that stands there. -/
def put (t : Table) (key : String) (i : Item) : Table :=
  if (t.get? key).isSome then
    t.withEntries (t.entries.map fun e => if e.1 == key then (key, i) else e)
  else t.withEntries (t.entries ++ [(key, i)])

/-- Take a key out. -/
def erase (t : Table) (key : String) : Table :=
  t.withEntries (t.entries.filter fun e => e.1 != key)

/-- Change the last of some tables. -/
def updateLast (f : Table → Option Table) : List Table → Option (List Table)
  | [] => none
  | [t] => (f t).map ([·])
  | t :: ts => (updateLast f ts).map (t :: ·)

/-- Change the table that a path leads to; of repeated tables, the last one.  A dotted path does
not lead through a table that has a header of its own. -/
def update (dotted : Bool) (path : List String) (f : Table → Option Table) (t : Table) :
    Option Table :=
  match path with
  | [] => f t
  | key :: path =>
    match t.get? key with
    | none => (update dotted path f (.mk true dotted [])).map fun u => t.put key (.table u)
    | some (.value _) => none
    | some (.tables ts) => (updateLast (update dotted path f) ts).map fun us => t.put key (.tables us)
    | some (.table u) =>
      if dotted && !u.isImplicit then none
      else (update dotted path f u).map fun u => t.put key (.table u)

/-- Add a value under a dotted key; each key may be given once. -/
def insert (path : List String) (key : String) (n : Node) (t : Table) : Option Table :=
  t.update true path fun u =>
    if u.isDotted == path.isEmpty then none
    else if (u.get? key).isSome then none
    else some (u.put key (.value n))

mutual

/-- The tree of a table. -/
def toNode : Table → Node
  | .mk _ _ es => .table (entryNodes es)

/-- The trees of entries. -/
def entryNodes : List (String × Item) → List (Node × Node)
  | [] => []
  | (k, i) :: es => (.text k, itemNode i) :: entryNodes es

/-- The tree of an item. -/
def itemNode : Item → Node
  | .value n => n
  | .table t => toNode t
  | .tables ts => .list (tableNodes ts)

/-- The trees of tables. -/
def tableNodes : List Table → List Node
  | [] => []
  | t :: ts => toNode t :: tableNodes ts

end

end Table

/-- A document under construction: the tables that are finished, and the one that takes keys. -/
structure Draft where
  /-- The finished part. -/
  root : Table
  /-- The table that takes keys. -/
  current : Table
  /-- The path of its header; empty before any header. -/
  path : List String
  /-- Whether its header has double brackets. -/
  repeated : Bool

/-- The draft before any line. -/
def Draft.empty : Draft := ⟨.empty, .empty, [], false⟩

/-- A non-empty path as what leads up to it and its last key. -/
def splitPath (path : List String) : List String × String :=
  (path.dropLast, path.getLast?.getD "")

/-- Put the current table where its header says. -/
def Draft.finish (d : Draft) : Option Table :=
  if d.path.isEmpty then some d.current
  else
    let (up, key) := splitPath d.path
    d.root.update false up fun t =>
      match t.get? key, d.repeated with
      | none, true => some (t.put key (.tables [d.current]))
      | some (.tables ts), true => some (t.put key (.tables (ts ++ [d.current])))
      | none, false => some (t.put key (.table d.current))
      | some (.table u), false => if u.isImplicit then some (t.put key (.table d.current)) else none
      | _, _ => none

/-- A header: the table it names takes keys from here on.  A table that has one already, or was
made by a dotted key, takes no header. -/
def Draft.header (d : Draft) (path : List String) : Option Draft := do
  let root ← d.finish
  let (up, key) := splitPath path
  -- the tables on the way are made even when the one named exists
  let root ← root.update false up some
  let found ← lookupPath up root
  match found.get? key with
  | none => return ⟨root, .empty, path, false⟩
  | some (.table u) =>
    if u.isImplicit && !u.isDotted then
      let root ← root.update false up fun t => some (t.erase key)
      return ⟨root, .mk false false u.entries, path, false⟩
    else none
  | _ => none
where
  lookupPath : List String → Table → Option Table
    | [], t => some t
    | key :: path, t =>
      match t.get? key with
      | some (.table u) => lookupPath path u
      | some (.tables ts) => ts.getLast?.bind (lookupPath path)
      | _ => none

/-- A double-bracket header: a further table of that name takes keys from here on. -/
def Draft.repeatedHeader (d : Draft) (path : List String) : Option Draft := do
  let root ← d.finish
  let (up, key) := splitPath path
  let root ← root.update false up fun t =>
    match t.get? key with
    | none => some t
    | some (.tables _) => some t
    | _ => none
  return ⟨root, .empty, path, true⟩

/-- A line that gives a key its value. -/
def Draft.assign (d : Draft) (path : List String) (n : Node) : Option Draft := do
  let (up, key) := splitPath path
  let t ← d.current.insert up key n
  return { d with current := t }

end Sidecar.Toml
