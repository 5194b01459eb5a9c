import TxDispatch.Ledger.Scripted
import TxDispatch.Session.Calls

namespace TxDispatch

inductive Errand where
  | push (answer : Except Failure Receipt)
  | pushSuccess (events : List Event)
  | pushMismatch
  | setSequence (sequence : UInt64)
  | submit (order : Order)
  | deployCode (bytecode : List UInt8) (fee : Option Fee)
  | instantiate (codeId : UInt64) (msg : Json) (migratable : Bool) (fee : Option Fee)
  | invoke (contract : String) (msg : Json) (funds : List Coin) (fee : Option Fee)
  | query (contract : String) (msg : Json)

namespace Errand

open Scripted (client)

def run : Errand → Scene Scripted → Scene Scripted
  | push answer, s => (s.withLedger fun l => ((), l.push answer)).2
  | pushSuccess events, s => (s.withLedger fun l => ((), l.pushSuccess events)).2
  | pushMismatch, s => (s.withLedger fun l => ((), l.pushMismatch)).2
  | setSequence sequence, s => (s.withLedger fun l => ((), l.setSequence sequence)).2
  | submit order, s => (s.submit client order).2
  | deployCode bytecode fee, s => (s.deployCode client bytecode fee).2
  | instantiate codeId msg migratable fee, s => (s.instantiate client codeId msg migratable fee).2
  | invoke contract msg funds fee, s => (s.invoke client contract msg funds fee).2
  | query contract msg, s => (s.query client contract msg).2

def contacts (x : Errand) (s : Scene Scripted) : List Contact :=
  (x.run s).world.journal.drop s.world.journal.length

end Errand

end TxDispatch
