import TxDispatch.Json.Printer
import TxDispatch.Json.Reader

namespace TxDispatch

open Json (Tree)

structure Attribute where
  key : String
  value : String
deriving DecidableEq, Repr

structure Event where
  kind : String
  attributes : List Attribute
deriving DecidableEq, Repr

structure MessageLog where
  index : UInt32
  note : String
  events : List Event
deriving DecidableEq, Repr

abbrev EventLog := List Event

/-- Where a value stands in an event log. -/
structure Target where
  eventType : String
  attributeKey : String
deriving DecidableEq, Repr

def Target.codeId : Target := ⟨"store_code", "code_id"⟩

def Target.contractAddress : Target := ⟨"instantiate_contract", "contract_address"⟩

namespace Attribute

def toJson (a : Attribute) : Json := .obj [("key", .str a.key), ("value", .str a.value)]

/-- Reads the JSON form; a value may be left out. -/
def ofTree? (t : Tree) : Option Attribute := do
  match ← t.fields? false ["key", "value"] with
  | [key, value] =>
    return ⟨← Tree.required? Tree.string? key, ← Tree.defaulted? Tree.string? "" value⟩
  | _ => none

end Attribute

namespace Event

def attribute? (e : Event) (key : String) : Option String :=
  (e.attributes.find? fun a => a.key == key).map Attribute.value

def toJson (e : Event) : Json :=
  .obj [("attributes", .arr (e.attributes.map Attribute.toJson)), ("type", .str e.kind)]

/-- Reads the JSON form; the attributes may be left out. -/
def ofTree? (t : Tree) : Option Event := do
  match ← t.fields? false ["type", "attributes"] with
  | [kind, attributes] =>
    return ⟨← Tree.required? Tree.string? kind,
      ← Tree.defaulted? (Tree.list? Attribute.ofTree?) [] attributes⟩
  | _ => none

end Event

namespace MessageLog

def toJson (m : MessageLog) : Json :=
  .obj [("events", .arr (m.events.map Event.toJson)), ("log", .str m.note),
    ("msg_index", .nat m.index.toNat)]

/-- Reads the JSON form; every field may be left out. -/
def ofTree? (t : Tree) : Option MessageLog := do
  match ← t.fields? false ["msg_index", "log", "events"] with
  | [index, note, events] =>
    return ⟨← Tree.defaulted? Tree.word32? 0 index, ← Tree.defaulted? Tree.string? "" note,
      ← Tree.defaulted? (Tree.list? Event.ofTree?) [] events⟩
  | _ => none

def listToJson (logs : List MessageLog) : Json := .arr (logs.map toJson)

def listOfTree? (t : Tree) : Option (List MessageLog) := t.list? ofTree?

end MessageLog

namespace EventLog

def ofMessages (logs : List MessageLog) : EventLog := logs.flatMap MessageLog.events

/-- Reads a raw log that holds the logs of the messages as JSON; other raw logs are plain text. -/
def ofRawLog? (rawLog : String) : Option EventLog := do
  return ofMessages (← MessageLog.listOfTree? (← Tree.ofText? rawLog))

/-- The value at a target. An event of the type without the key ends the search. -/
def extract? (log : EventLog) (target : Target) : Option String :=
  (log.find? fun e => e.kind == target.eventType).bind fun e => e.attribute? target.attributeKey

theorem ofMessages_append (a b : List MessageLog) :
    ofMessages (a ++ b) = ofMessages a ++ ofMessages b := by
  simp [ofMessages]

end EventLog

end TxDispatch
