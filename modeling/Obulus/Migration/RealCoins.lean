import Obulus.Calls.Ledger
import Mathlib.Algebra.Group.Pi.Basic
import Mathlib.Logic.Function.Basic

namespace Obulus.Migration

open Foundation Store

section Records

structure PrepaidAccount where
  key : Funds.AccountKey
  availableAtomic : Nat
  totalDepositedAtomic : Nat
  deriving DecidableEq, Repr

structure Marker where
  name : String
  appliedAt : Nat
  deriving DecidableEq, Repr

-- the tables the reconciliation reads and writes
structure Database where
  balances : Table Calls.Balance.userId
  earningEvents : Table fun e : Calls.EarningEvent => e.id
  prepaidAccounts : Table PrepaidAccount.key
  prepaidLedger : Table Funds.LedgerEntry.reference
  reconcileMarkers : Table Marker.name

end Records

section Reconciliation

variable (encoding : Encoding)

def isRealOnchainSignature (referenceId : String) : Bool :=
  (encoding.base58Decode (trim referenceId)).any fun bytes => decide (bytes.length = 64)

structure Tally where
  backedDeposit : Funds.AccountKey → Int
  nonDeposit : Funds.AccountKey → Int

def bump (sums : Funds.AccountKey → Int) (e : Funds.LedgerEntry) : Funds.AccountKey → Int :=
  Function.update sums e.account (sums e.account + e.deltaAtomic)

-- a deposit that is not on the chain is dropped
def Tally.count (t : Tally) (e : Funds.LedgerEntry) : Tally :=
  if e.kind = .deposit then
    if isRealOnchainSignature encoding e.referenceId then
      { t with backedDeposit := bump t.backedDeposit e }
    else t
  else { t with nonDeposit := bump t.nonDeposit e }

def tally (rows : List Funds.LedgerEntry) : Tally :=
  rows.foldl (Tally.count encoding) ⟨fun _ => 0, fun _ => 0⟩

-- `i64::try_from(..).unwrap_or(i64::MAX)` of a sum that is not negative
def clampI64 (n : Int) : Nat := if n ≤ i64Max then n.toNat else i64Max

def recomputed (t : Tally) (a : PrepaidAccount) : PrepaidAccount :=
  { a with
    availableAtomic := clampI64 (max (t.backedDeposit a.key + t.nonDeposit a.key) 0)
    totalDepositedAtomic := clampI64 (max (t.backedDeposit a.key) 0) }

-- the row holds the half-up conversion of its KRW
def isBackfilled (b : Calls.Balance) : Bool :=
  decide (0 < b.availableKrw ∧ b.availableAtomic = (b.availableKrw * 1000000 + 675) / 1350)

def zeroCredit (b : Calls.Balance) : Calls.Balance := { b with availableAtomic := 0 }

def overflows (b : Calls.Balance) : Bool :=
  decide (0 < b.availableKrw ∧ i64Max < b.availableKrw * 1000000 + 675)

def markerName : String := "prepaid_real_coins_v1"

variable (now : Nat) (db : Database)

def reconcilePrepaidRealCoins : Except StoreError Database :=
  if (db.reconcileMarkers.get? markerName).isSome then .ok db
  else do
    let now ← asI64 now
    reject (db.balances.rows.any overflows = true) (.database "bigint out of range")
    let markers ← orReject (db.reconcileMarkers.insert? ⟨markerName, now⟩)
      (.database "UNIQUE constraint failed: reconcile_markers.name")
    return { db with
      balances := db.balances.update isBackfilled zeroCredit (fun _ => rfl)
      prepaidAccounts := db.prepaidAccounts.update (fun _ => true)
        (recomputed (tally encoding db.prepaidLedger.rows)) (fun _ => rfl)
      reconcileMarkers := markers }

end Reconciliation

section Purpose

variable (encoding : Encoding) (db db' : Database)

-- part of the contributor's available amount was earned
def Earned (userId : String) : Prop :=
  ∃ e ∈ db.earningEvents.rows, e.authorId = userId ∧ e.payoutStatus = .accrued ∧ 0 < e.amountAtomic

def ledgerSum (p : Funds.LedgerEntry → Bool) : Int :=
  ((db.prepaidLedger.rows.filter p).map Funds.LedgerEntry.deltaAtomic).sum

def genuineDeposits (key : Funds.AccountKey) : Int :=
  ledgerSum db fun e => decide (e.account = key ∧ e.kind = .deposit) &&
    isRealOnchainSignature encoding e.referenceId

def otherDeltas (key : Funds.AccountKey) : Int :=
  ledgerSum db fun e => decide (e.account = key ∧ e.kind ≠ .deposit)

structure RemovesUnbackedOnly : Prop where
  credit : ∀ userId b b', db.balances.get? userId = some b → db'.balances.get? userId = some b' →
    b'.availableAtomic ≠ b.availableAtomic → b'.availableAtomic = 0 ∧ ¬Earned db userId
  accounts : ∀ key, (db'.prepaidAccounts.get? key).isSome = (db.prepaidAccounts.get? key).isSome ∧
    ∀ a, db'.prepaidAccounts.get? key = some a →
      (a.availableAtomic : Int) = max (genuineDeposits encoding db key + otherDeltas db key) 0
  later : ∀ now later, later.reconcileMarkers = db'.reconcileMarkers →
    reconcilePrepaidRealCoins encoding now later = .ok later

-- how far the stored atomic amount is from the stored KRW, in 1350ths of a unit
def drift (b : Calls.Balance) : Int := 1350 * b.availableAtomic - 1000000 * b.availableKrw

-- the earned rows have drifted half a unit away, and the sums fit the column
structure Discernible : Prop where
  drifted : ∀ userId b, db.balances.get? userId = some b → Earned db userId →
    b.availableKrw = 0 ∨ drift b ≤ -675 ∨ 675 < drift b
  fits : ∀ key, (db.prepaidAccounts.get? key).isSome = true →
    genuineDeposits encoding db key + otherDeltas db key ≤ i64Max

end Purpose

end Obulus.Migration
