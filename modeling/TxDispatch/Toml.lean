import TxDispatch.Toml.Number
import TxDispatch.Toml.Table

namespace TxDispatch.Toml

open Text Json

mutual

def value (depth : Nat) (cs : List Char) : Option (Tree × List Char) :=
  match cs with
  | 't' :: 'r' :: 'u' :: 'e' :: rest => some (.bool true, rest)
  | 'f' :: 'a' :: 'l' :: 's' :: 'e' :: rest => some (.bool false, rest)
  | '[' :: rest =>
    match depth with
    | 0 => none
    | depth + 1 => (items depth rest.length rest).map fun r => (.arr r.1, r.2)
  | '{' :: rest =>
    match depth with
    | 0 => none
    | depth + 1 =>
      match skipGaps rest with
      | '}' :: rest => some (.obj [], rest)
      | rest => (entries depth rest.length [] rest).map fun r => (.obj (membersOf r.1), r.2)
  | '\x22' :: _ => (string cs).map fun r => (.str (some r.1), r.2)
  | '\x27' :: _ => (string cs).map fun r => (.str (some r.1), r.2)
  | cs => quantity cs
termination_by (depth, 0)

/-- The values of an array up to its closing bracket; a comma may follow the last one. -/
def items (depth left : Nat) (cs : List Char) : Option (List Tree × List Char) :=
  match skipLines false cs with
  | ']' :: rest => some ([], rest)
  | cs =>
    match left with
    | 0 => none
    | left + 1 =>
      match value depth cs with
      | none => none
      | some (t, rest) =>
        match skipLines false rest with
        | ',' :: rest => (items depth left rest).map fun r => (t :: r.1, r.2)
        | ']' :: rest => some ([t], rest)
        | _ => none
termination_by (depth, left + 1)

def entries (depth left : Nat) (done : Entries) (cs : List Char) : Option (Entries × List Char) :=
  match left with
  | 0 => none
  | left + 1 =>
    match key cs with
    | none => none
    | some (names, rest) =>
      match rest with
      | '=' :: rest =>
        match value depth (skipGaps rest) with
        | none => none
        | some (t, rest) =>
          match done.assign names t with
          | none => none
          | some done =>
            match skipGaps rest with
            | ',' :: rest => entries depth left done rest
            | '}' :: rest => some (done, rest)
            | _ => none
      | _ => none
termination_by (depth, left + 1)

end

inductive Statement where
  /-- opens a table -/
  | header (path : List String)
  /-- adds a table to a list and opens it -/
  | element (path : List String)
  /-- puts a value into the open table -/
  | entry (key : List String) (t : Tree)

def statement (cs : List Char) : Option (Option Statement × List Char) :=
  match skipGaps cs with
  | '[' :: '[' :: rest => do
    let (path, rest) ← key rest
    let ((), rest) ← Reader.text [']', ']'] rest
    return (some (.element path), ← nextLine? rest)
  | '[' :: rest => do
    let (path, rest) ← key rest
    let ((), rest) ← Reader.given ']' rest
    return (some (.header path), ← nextLine? rest)
  | cs =>
    match nextLine? cs with
    | some rest => some (none, rest)
    | none => do
      let (names, rest) ← key cs
      let ((), rest) ← Reader.given '=' rest
      let (t, rest) ← value (limit - 1) (skipGaps rest)
      return (some (.entry names t), ← nextLine? rest)

def statements : (left : Nat) → List Char → Option (List Statement)
  | _, [] => some []
  | 0, _ => none
  | left + 1, cs =>
    match statement cs with
    | none => none
    | some (s, rest) => (statements left rest).map fun ss => s.toList ++ ss

def build : (opened : List String) → Entries → List Statement → Option Entries
  | _, es, [] => some es
  | _, es, .header path :: rest => do build path (← es.define path) rest
  | _, es, .element path :: rest => do build path (← es.push path) rest
  | opened, es, .entry key t :: rest => do build opened (← es.assignWithin opened key t) rest

/-- The tree of a TOML text. A byte order mark may come first. -/
def tree? (s : String) : Option Tree := do
  let cs := match s.toList with
    | '\ufeff' :: cs => cs
    | cs => cs
  let es ← build [] [] (← statements cs.length cs)
  return .obj (membersOf es)

end TxDispatch.Toml
