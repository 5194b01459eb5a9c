import TxDispatch.Ledger.Gateway
import TxDispatch.Session

namespace TxDispatch.Session

variable {ν : Type}

def chainFault : Except Failure Unit → Option Failure
  | .error (.chainMismatch expected actual) => some (.chainMismatch expected actual)
  | _ => none

def walletOf (c : Config) (key : Option String) : Except Failure Wallet :=
  (Wallet.ofVariable c.signer.privateKeyEnv key c.ledger.chainId).map fun w =>
    match c.signer.accountAddress with
    | some account => w.withAccount account
    | none => w

def ofConfig (c : Config) (wallet : Wallet) : Session where
  wallet := wallet
  memo := c.signer.memo
  conflictCodes := c.retries.conflictCodes
  backoff := c.retries.backoff
  fees := c.fees
  attemptTimeout := c.ledger.requestTimeout

theorem ofConfig_maxAttempts {c : Config} (attempts : c.retries.maxAttempts ≠ 0) (wallet : Wallet) :
    (ofConfig c wallet).backoff.maxAttempts = c.retries.maxAttempts :=
  (Backoff.of_maxAttempts _ _ _).trans (if_pos (UInt32.pos_iff_ne_zero.mpr attempts))

def connect (net : Network ν) (c : Config) (key : Option String) (s : Gateway.State ν) :
    Except Failure (Gateway × Session) × Gateway.State ν :=
  match Gateway.ofConfig c.ledger with
  | .error f => (.error f, s)
  | .ok g =>
    let (checked, s) := if c.ledger.verifyChainId then g.verifyChain net s else (.ok (), s)
    match chainFault checked with
    | some f => (.error f, s)
    | none => ((walletOf c key).map fun w => (g, ofConfig c w), s)

end TxDispatch.Session
