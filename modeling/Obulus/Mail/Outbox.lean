import Obulus.Foundation.Table
import Obulus.Foundation.Text
import Obulus.Store.Error

namespace Obulus.Mail

open Foundation Store

def emailMaxLeaseMs : Nat := 30 * 60 * 1000

inductive EmailStatus
  | pending
  | retry
  | sending
  | delivered
  | exhausted
  deriving DecidableEq, Repr

structure Email where
  id : String
  notificationId : String
  recipient : String
  subject : String
  body : String
  status : EmailStatus
  attempts : Nat
  lastError : Option String
  leaseOwner : Option String
  leaseExpiresAt : Option Nat
  createdAt : Nat
  deliveredAt : Option Nat
  deriving DecidableEq, Repr

abbrev Outbox := Table Email.id

structure PendingEmail where
  id : String
  recipient : String
  subject : String
  body : String
  deriving DecidableEq, Repr

def Email.pending (e : Email) : PendingEmail := ⟨e.id, e.recipient, e.subject, e.body⟩

section Enqueue

structure NewEmail where
  id : String
  notificationId : String
  recipient : String
  subject : String
  body : String
  createdAt : Nat
  deriving DecidableEq, Repr

def NewEmail.row (n : NewEmail) : Email where
  id := n.id
  notificationId := n.notificationId
  recipient := n.recipient
  subject := n.subject
  body := n.body
  status := .pending
  attempts := 0
  lastError := none
  leaseOwner := none
  leaseExpiresAt := none
  createdAt := n.createdAt
  deliveredAt := none

-- PRIMARY KEY id and UNIQUE notification_id
def insertEmail (t : Outbox) (n : NewEmail) : Option Outbox :=
  if t.rows.any (fun e => e.notificationId = n.notificationId) then none else t.insert? n.row

end Enqueue

section Lease

variable (workerId : String) (leaseExpiresAt now : Nat)

def Email.lapsed (e : Email) : Bool :=
  e.leaseExpiresAt.all fun expiresAt => expiresAt ≤ now

def Email.abandoned (e : Email) : Bool :=
  decide (e.status = .sending) && e.lapsed now

def reopen (e : Email) : Email :=
  { e with
    status := .retry
    leaseOwner := none
    leaseExpiresAt := none
    lastError := some "email worker lease expired" }

theorem reopen_id (e : Email) : (reopen e).id = e.id := rfl

def reopenAbandoned (t : Outbox) : Outbox :=
  t.update (Email.abandoned now) reopen reopen_id

def Email.due (e : Email) : Bool :=
  decide (e.status = .pending ∨ e.status = .retry) && decide (e.attempts < 5) && e.lapsed now

def Email.earlier (a b : Email) : Bool :=
  decide (a.createdAt < b.createdAt ∨ a.createdAt = b.createdAt ∧ a.id ≤ b.id)

def dueIds (t : Outbox) (limit : Nat) : List String :=
  (((t.rows.filter (Email.due now)).mergeSort Email.earlier).take limit).map Email.id

def takeLease (e : Email) : Email :=
  { e with
    status := .sending
    leaseOwner := some workerId
    leaseExpiresAt := some leaseExpiresAt
    attempts := e.attempts + 1
    lastError := none }

theorem takeLease_id (e : Email) : (takeLease workerId leaseExpiresAt e).id = e.id := rfl

def leaseOne (t : Outbox) (id : String) : Outbox :=
  t.update (fun e => decide (e.id = id) && e.due now) (takeLease workerId leaseExpiresAt)
    (takeLease_id workerId leaseExpiresAt)

def leaseEach : List String → Outbox → Except StoreError (Outbox × List PendingEmail)
  | [], t => .ok (t, [])
  | id :: ids, t => do
    let leaseExpiresAt ← asI64 leaseExpiresAt
    let now ← asI64 now
    if (t.get? id).any (Email.due now) then do
      let t := leaseOne workerId leaseExpiresAt now t id
      let email ← orReject (t.get? id) (.database "Query returned no rows")
      let (t, leased) ← leaseEach ids t
      return (t, email.pending :: leased)
    else leaseEach ids t

def leasePendingEmails (t : Outbox) (limit leaseMs : Nat) :
    Except StoreError (Outbox × List PendingEmail) := do
  let workerId := trim workerId
  reject (workerId.utf8ByteSize < 16 ∨ 128 < workerId.utf8ByteSize ∨ limit < 1 ∨ 100 < limit ∨
      leaseMs < 30000 ∨ emailMaxLeaseMs < leaseMs)
    (.validation "email lease requires workerId 16..128, limit 1..100, and leaseMs 30000..1800000")
  let leaseExpiresAt := saturatingAdd now leaseMs
  let now ← asI64 now
  let t := reopenAbandoned now t
  leaseEach workerId leaseExpiresAt now (dueIds now t limit) t

end Lease

section Reports

variable (t : Outbox) (now : Nat) (id workerId : String)

def Email.heldBy (e : Email) : Bool :=
  decide (e.id = id ∧ e.status = .sending ∧ e.leaseOwner = some (trim workerId))

def deliver (e : Email) : Email :=
  { e with
    status := .delivered
    deliveredAt := some now
    recipient := ""
    subject := ""
    body := ""
    leaseOwner := none
    leaseExpiresAt := none
    lastError := none }

theorem deliver_id (e : Email) : (deliver now e).id = e.id := rfl

def markEmailDelivered : Except StoreError Outbox := do
  let now ← asI64 now
  reject ((t.get? id).any (Email.heldBy id workerId) = false)
    (.conflict "email delivery lease is no longer owned by this worker")
  return t.update (Email.heldBy id workerId) (deliver now) (deliver_id now)

variable (error : String)

def fail (e : Email) : Email :=
  { e with
    status := if 5 ≤ e.attempts then .exhausted else .retry
    recipient := if 5 ≤ e.attempts then "" else e.recipient
    subject := if 5 ≤ e.attempts then "" else e.subject
    body := if 5 ≤ e.attempts then "" else e.body
    leaseOwner := none
    leaseExpiresAt := none
    lastError := some (String.ofList (error.toList.take 500)) }

theorem fail_id (e : Email) : (fail error e).id = e.id := rfl

def markEmailFailed : Except StoreError (Outbox × Bool) := do
  reject ((t.get? id).any (Email.heldBy id workerId) = false)
    (.conflict "email failure lease is no longer owned by this worker")
  let t := t.update (Email.heldBy id workerId) (fail error) (fail_id error)
  let email ← orReject (t.get? id) (.database "Query returned no rows")
  return (t, decide (email.status = .exhausted))

end Reports

end Obulus.Mail
