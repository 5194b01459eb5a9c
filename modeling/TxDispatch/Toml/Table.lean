import TxDispatch.Json.Tree

namespace TxDispatch.Toml

open Json

inductive Origin where
  /-- by a header of its own -/
  | header
  /-- as a part of the path in a header -/
  | path
  /-- as a part of a key -/
  | key
deriving DecidableEq, Repr

inductive Node where
  | value (t : Tree)
  | table (origin : Origin) (entries : List (String × Node))
  | tables (items : List (List (String × Node)))

abbrev Entries := List (String × Node)

namespace Entries

def get? (name : String) (es : Entries) : Option Node := (es.find? fun e => e.1 == name).map Prod.snd

def put (name : String) (node : Node) (es : Entries) : Entries :=
  if es.any fun e => e.1 == name then es.map fun e => if e.1 == name then (name, node) else e
  else es ++ [(name, node)]

def alter (name : String) (f : Option Node → Option Node) (es : Entries) : Option Entries :=
  (f (get? name es)).map fun node => put name node es

/-- Changes a table along a path, which makes the tables that are missing. `origin` tells whether
the path is one of a header or of a key, `here` how the table at its start came about. A key does
not lead into a table with a header, and the last of several tables stands for them. -/
def within (origin : Origin) (f : Origin → Entries → Option Entries) :
    (path : List String) → (here : Origin) → Entries → Option Entries
  | [], here, es => f here es
  | name :: path, _, es =>
    es.alter name fun
      | none => (within origin f path origin []).map (.table origin)
      | some (.value _) => none
      | some (.tables items) =>
        match items.getLast? with
        | none => none
        | some last =>
          (within origin f path .header last).map fun last => .tables (items.dropLast ++ [last])
      | some (.table made sub) =>
        if origin == .key && made == .header then none
        else (within origin f path made sub).map (.table made)

def lastOf (path : List String) : Option (List String × String) :=
  path.getLast?.map fun name => (path.dropLast, name)

/-- Defines a table by its header. A table that is only known from the headers of its parts can
still be defined. -/
def define (path : List String) (es : Entries) : Option Entries := do
  let (way, name) ← lastOf path
  within .path (fun _ es => es.alter name fun
    | none => some (.table .header [])
    | some (.table .path sub) => some (.table .header sub)
    | some _ => none) way .header es

def push (path : List String) (es : Entries) : Option Entries := do
  let (way, name) ← lastOf path
  within .path (fun _ es => es.alter name fun
    | none => some (.tables [[]])
    | some (.tables items) => some (.tables (items ++ [[]]))
    | some _ => none) way .header es

/-- Puts a value under a new key. A key with several parts ends in a table that keys have made. -/
def assign (key : List String) (t : Tree) (es : Entries) : Option Entries := do
  let (way, name) ← lastOf key
  within .key (fun here es =>
    if (here == .key) == way.isEmpty then none
    else es.alter name fun
      | none => some (.value t)
      | some _ => none) way .header es

def assignWithin (path key : List String) (t : Tree) (es : Entries) : Option Entries :=
  within .path (fun _ es => es.assign key t) path .header es

end Entries

mutual

def Node.toTree : Node → Tree
  | .value t => t
  | .table _ es => .obj (membersOf es)
  | .tables items => .arr (itemsOf items)

def membersOf : List (String × Node) → List (Option String × Tree)
  | [] => []
  | (name, node) :: rest => (some name, node.toTree) :: membersOf rest

def itemsOf : List (List (String × Node)) → List Tree
  | [] => []
  | es :: rest => .obj (membersOf es) :: itemsOf rest

end

end TxDispatch.Toml
