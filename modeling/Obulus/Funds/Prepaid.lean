import Obulus.Funds.Attempts

namespace Obulus.Funds

open Foundation Store

variable (db : Database) (key : AccountKey)

def ensurePrepaidAccount : Database :=
  match db.prepaidAccounts.insert? ⟨key, 0⟩ with
  | some accounts => { db with prepaidAccounts := accounts }
  | none => db

def prepaidAvailable : Nat :=
  ((db.prepaidAccounts.get? key).map PrepaidAccount.availableAtomic).getD 0

def setAvailable (f : Nat → Nat) : Database :=
  { db with
    prepaidAccounts := db.prepaidAccounts.update (fun a => decide (a.key = key))
      (fun a => { a with availableAtomic := f a.availableAtomic }) (fun _ => rfl) }

-- UPDATE .. SET available = available - amount WHERE .. AND available >= amount
def debitAccount (amount : Nat) : Option Database :=
  if (db.prepaidAccounts.get? key).any (fun a => amount ≤ a.availableAtomic) then
    some (setAvailable db key fun available => available - amount)
  else none

-- UPDATE .. SET available = available + amount; a sum past i64 cannot be read back
def creditAccount (amount : Nat) : Except StoreError Database := do
  reject (i64Max < prepaidAvailable db key + amount) (.database "integer out of range")
  return setAvailable db key fun available => available + amount

def insertLedger (entry : LedgerEntry) : Except StoreError Database := do
  reject (db.prepaidLedger.rows.any (fun e => decide (e.id = entry.id)) = true)
    (.database "UNIQUE constraint failed: prepaid_ledger.id")
  let ledger ← orReject (db.prepaidLedger.insert? entry)
    (.database "UNIQUE constraint failed: prepaid_ledger.kind, prepaid_ledger.reference_id")
  return { db with prepaidLedger := ledger }

def recordLedger (id : String) (kind : LedgerKind) (referenceId : String) (delta : Int) (now : Nat) :
    Except StoreError Database :=
  insertLedger db ⟨id, key, kind, referenceId, delta, prepaidAvailable db key, now⟩

section Operations

variable (id referenceId : String) (amountAtomic now : Nat)

def reservePrepaidBudget : Except StoreError Database := do
  let amount ← asI64 amountAtomic
  let now ← asI64 now
  let db ← orReject (debitAccount db key amount)
    (.conflict "prepaid balance changed and no longer covers this research job")
  recordLedger db key id .researchReservation referenceId (-amount) now

def creditPrepaidDeposit : Except StoreError Database := do
  let now ← asI64 now
  let amount ← asI64 amountAtomic
  let db ← creditAccount (ensurePrepaidAccount db key) key amount
  recordLedger db key id .deposit referenceId amount now

def releasePrepaidBudget : Except StoreError Database := do
  let amount ← asI64 amountAtomic
  let now ← asI64 now
  reject ((db.prepaidAccounts.get? key).isNone = true) (.conflict "prepaid account no longer exists")
  let db ← creditAccount db key amount
  recordLedger db key id .researchRelease referenceId amount now

end Operations

end Obulus.Funds
