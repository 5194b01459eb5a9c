import TxDispatch.EventLog

namespace TxDispatch

open Json (Tree)

/-- The answer to a broadcast. Height zero means that no block holds the transaction. -/
structure Receipt where
  height : UInt64 := 0
  txhash : String := ""
  code : UInt32 := 0
  codespace : String := ""
  rawLog : String := ""
  logs : Option (List MessageLog) := none
  gasWanted : UInt64 := 0
  gasUsed : UInt64 := 0
deriving DecidableEq, Repr

namespace Receipt

def isError (r : Receipt) : Bool := r.code != 0

/-- A block holds the transaction, whether it succeeded or not. -/
def isIncluded (r : Receipt) : Bool := 0 < r.height

def eventLog (r : Receipt) : EventLog :=
  match r.logs with
  | some (m :: ms) => EventLog.ofMessages (m :: ms)
  | _ => (EventLog.ofRawLog? r.rawLog).getD []

def toJson (r : Receipt) : Json :=
  .obj [("code", .nat r.code.toNat), ("codespace", .str r.codespace),
    ("gas_used", .nat r.gasUsed.toNat), ("gas_wanted", .nat r.gasWanted.toNat),
    ("height", .nat r.height.toNat),
    ("logs", match r.logs with | none => .null | some logs => MessageLog.listToJson logs),
    ("raw_log", .str r.rawLog), ("txhash", .str r.txhash)]

/-- Reads the JSON form; every field may be left out. -/
def ofTree? (t : Tree) : Option Receipt := do
  match ← t.fields? false
      ["height", "txhash", "code", "codespace", "raw_log", "logs", "gas_wanted", "gas_used"] with
  | [height, txhash, code, codespace, rawLog, logs, gasWanted, gasUsed] =>
    return {
      height := ← Tree.defaulted? Tree.loose64? 0 height
      txhash := ← Tree.defaulted? Tree.string? "" txhash
      code := ← Tree.defaulted? Tree.word32? 0 code
      codespace := ← Tree.defaulted? Tree.string? "" codespace
      rawLog := ← Tree.defaulted? Tree.string? "" rawLog
      logs := ← Tree.defaulted? (Tree.orNull? MessageLog.listOfTree?) none logs
      gasWanted := ← Tree.defaulted? Tree.loose64? 0 gasWanted
      gasUsed := ← Tree.defaulted? Tree.loose64? 0 gasUsed }
  | _ => none

end Receipt

/-- The raw log of a ledger that refuses an envelope for its sequence. -/
def mismatchLog : String :=
  "unauthorized: signature verification failed; verify correct account sequence and chain-id"

/-- An error code that means a sequence conflict. -/
structure ConflictCode where
  codespace : String
  code : UInt32
deriving DecidableEq, Repr

namespace ConflictCode

def toJson (c : ConflictCode) : Json :=
  .obj [("code", .nat c.code.toNat), ("codespace", .str c.codespace)]

/-- Reads a pair; neither part may be left out. A list of the parts may run on if `surplus` is
allowed. -/
def ofTree? (surplus : Bool) (t : Tree) : Option ConflictCode := do
  match ← t.fields? surplus ["codespace", "code"] with
  | [codespace, code] =>
    return ⟨← Tree.required? Tree.string? codespace, ← Tree.required? Tree.word32? code⟩
  | _ => none

end ConflictCode

inductive Verdict where
  | succeeded
  | conflict
  | failed (code : UInt32) (codespace rawLog : String)
deriving DecidableEq, Repr

namespace Receipt

def hasConflictCode (codes : List ConflictCode) (r : Receipt) : Bool :=
  r.isError && codes.any fun c => c.code == r.code && c.codespace == r.codespace

/-- The meaning of an answer. The raw log of a mismatch is compared as a whole, and counts whatever
the code is. -/
def verdict (codes : List ConflictCode) (r : Receipt) : Verdict :=
  if r.rawLog = mismatchLog ∨ r.hasConflictCode codes = true then .conflict
  else if r.isError then .failed r.code r.codespace r.rawLog
  else .succeeded

theorem verdict_of_mismatch {codes : List ConflictCode} {r : Receipt} (h : r.rawLog = mismatchLog) :
    r.verdict codes = .conflict := by
  simp [verdict, h]

theorem verdict_eq_succeeded_iff {codes : List ConflictCode} {r : Receipt} :
    r.verdict codes = .succeeded ↔ r.rawLog ≠ mismatchLog ∧ r.isError = false := by
  by_cases hlog : r.rawLog = mismatchLog
  · simp [verdict, hlog]
  · cases herror : r.isError with
    | false => simp [verdict, hasConflictCode, hlog, herror]
    | true =>
      by_cases hcode : r.hasConflictCode codes = true <;> simp [verdict, hlog, herror, hcode]

theorem verdict_eq_failed_iff {codes : List ConflictCode} {r : Receipt} :
    (∃ code codespace rawLog, r.verdict codes = .failed code codespace rawLog) ↔
      r.rawLog ≠ mismatchLog ∧ r.isError = true ∧ r.hasConflictCode codes = false := by
  by_cases hlog : r.rawLog = mismatchLog
  · simp [verdict, hlog]
  · by_cases hcode : r.hasConflictCode codes = true
    · simp [verdict, hlog, hcode]
    · by_cases herror : r.isError = true <;> simp [verdict, hlog, hcode, herror]

/-- Without error codes for conflicts only the raw log of a mismatch is one. -/
theorem verdict_eq_conflict_iff {r : Receipt} :
    r.verdict [] = .conflict ↔ r.rawLog = mismatchLog := by
  by_cases hlog : r.rawLog = mismatchLog
  · simp [verdict, hlog]
  · by_cases herror : r.isError = true <;> simp [verdict, hasConflictCode, hlog, herror]

end Receipt

end TxDispatch
