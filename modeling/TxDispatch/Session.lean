import TxDispatch.Backoff
import TxDispatch.Deadline
import TxDispatch.Fee.Setting
import TxDispatch.Ledger.Client
import TxDispatch.Metrics

namespace TxDispatch

structure Session where
  wallet : Wallet
  memo : String := ""
  conflictCodes : List ConflictCode := []
  backoff : Backoff := .of 5 250 4000
  fees : FeeSettings := {}
  /-- The deadline of one broadcast in seconds; zero is none. -/
  attemptTimeout : UInt64 := 0

/-- What a session heard from a ledger and did in between. -/
inductive Contact where
  | looked (address : String) (answer : Except Failure AccountInfo)
  | sent (envelope : Envelope) (answer : Except Failure Receipt)
  | rested (ms : UInt64)

/-- The ledger with what surrounds a session: the time, the counters, the numbers still to be drawn
for jitter, and the journal of contacts, the oldest first. -/
structure World (σ : Type) where
  ledger : σ
  clock : Nat := 0
  metrics : List Metric := []
  draws : List UInt64 := []
  journal : List Contact := []

structure Scene (σ : Type) where
  session : Session
  world : World σ

/-- What a submission is asked to do: an operation, the fee for it and the value that its events
should give. -/
structure Order where
  operation : Operation
  fee : Fee
  target : Option Target := none

structure Submission where
  txhash : String
  height : UInt64
  gasUsed : UInt64
  /-- The broadcasts it took, conflicts included. -/
  attempts : UInt32
  /-- The value at the target, if one was asked for. -/
  value : Option String
deriving DecidableEq, Repr

namespace Session

/-- Takes an account answer into the wallet. After a conflict the wallet is known to be wrong, and
the ledger's view replaces its own. -/
def adopt (s : Session) (conflicted : Bool) (info : AccountInfo) : Session :=
  { s with wallet := if conflicted then s.wallet.reset info else s.wallet.observe info }

def advancePast (s : Session) (used : UInt64) : Session :=
  { s with wallet := s.wallet.advancePast used }

/-- The result of a transaction that succeeded: the value at the target has to be there. -/
def conclude (target : Option Target) (attempts : UInt32) (r : Receipt) :
    Except Failure Submission :=
  match target with
  | none => .ok ⟨r.txhash, r.height, r.gasUsed, attempts, none⟩
  | some t =>
    match r.eventLog.extract? t with
    | some value => .ok ⟨r.txhash, r.height, r.gasUsed, attempts, some value⟩
    | none => .error (.missingEvent r.txhash t.eventType t.attributeKey)

/-- What an answer to a broadcast does to the session, and the result if it is not a conflict. -/
def settle (s : Session) (order : Order) (attempts : UInt32) (e : Envelope) (r : Receipt) :
    Session × Option (Except Failure Submission) :=
  match r.verdict s.conflictCodes with
  | .conflict => (s, none)
  | .failed code codespace rawLog =>
    (if r.isIncluded then s.advancePast e.sequence else s,
      some (.error (.rejected order.operation.kind.label code codespace rawLog r.txhash)))
  | .succeeded => (s.advancePast e.sequence, some (conclude order.target attempts r))

def shown (s : Session) : String :=
  "Submitter \x7b account: " ++ Text.Quoted.quote s.wallet.account ++ ", chain_id: " ++
    Text.Quoted.quote s.wallet.chainId ++ ", policy: " ++ s.backoff.shown ++ " \x7d"

end Session

namespace Scene

variable {σ : Type}

def count (s : Scene σ) (m : Metric) : Scene σ :=
  { s with world := { s.world with metrics := s.world.metrics ++ [m] } }

def note (s : Scene σ) (c : Contact) : Scene σ :=
  { s with world := { s.world with journal := s.world.journal ++ [c] } }

def look (c : Client σ) (conflicted : Bool) (s : Scene σ) : Except Failure Unit × Scene σ :=
  let (answer, ledger) := c.account s.session.wallet.account s.world.ledger
  let s := ({ s with world := { s.world with ledger } }).note
    (.looked s.session.wallet.account answer)
  match answer with
  | .error f => (.error f, s)
  | .ok info => (.ok (), { s with session := s.session.adopt conflicted info })

def send (c : Client σ) (e : Envelope) (s : Scene σ) : Except Failure Receipt × Scene σ :=
  let pending := c.broadcast e s.world.ledger
  let secs := s.session.attemptTimeout
  let answer := Deadline.apply secs pending.wait pending.answer
  let ledger := match Deadline.ending secs pending.wait with
    | .finished => pending.answered
    | .elapsed _ => pending.dropped
  let world := { s.world with ledger, clock := s.world.clock + Deadline.spent secs pending.wait }
  (answer, (({ s with world }).count (.broadcast e.operation.kind)).note (.sent e answer))

def rest (made : UInt32) (s : Scene σ) : Scene σ :=
  let ms := s.session.backoff.delay made (s.world.draws.headD 0)
  let world := { s.world with clock := s.world.clock + ms.toNat, draws := s.world.draws.tail }
  ({ s with world }).note (.rested ms)

/-- The rounds of a submission, of which so many are left and so many broadcasts are made. -/
def rounds (c : Client σ) (order : Order) : (left : Nat) → (made : UInt32) → Scene σ →
    Except Failure Submission × Scene σ
  | 0, made, s => (.error (.retryExhausted made), s)
  | left + 1, made, s =>
    match look c (0 < made) s with
    | (.error f, s) => (.error f, s)
    | (.ok (), s) =>
      match Envelope.build s.session.memo s.session.wallet order.operation order.fee with
      | .error f => (.error f, s)
      | .ok e =>
        match send c e s with
        | (.error f, s) => (.error f, s)
        | (.ok receipt, s) =>
          match s.session.settle order (made + 1) e receipt with
          | (session, some result) => (result, { s with session })
          | (session, none) =>
            let s := ({ s with session }).count (.conflict order.operation.kind)
            if s.session.backoff.allowsAnother (made + 1) then
              rounds c order left (made + 1) (rest (made + 1) s)
            else (.error (.retryExhausted (made + 1)), s)

def submit (c : Client σ) (order : Order) (s : Scene σ) : Except Failure Submission × Scene σ :=
  let (result, s) := rounds c order s.session.backoff.maxAttempts.toNat 0 s
  (result, s.count (.submission order.operation.kind (.of result)))

end Scene

end TxDispatch
