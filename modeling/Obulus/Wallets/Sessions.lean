import Mathlib.Data.List.Sort
import Obulus.Wallets.Schema

namespace Obulus.Wallets

open Foundation Store Funds

section Switch

variable (db : Database) (userId wallet : String)

def fundedOtherWallet : Option String :=
  (db.owners.rows.find? fun o => decide (o.userId = userId ∧ o.wallet ≠ wallet) &&
    db.funds.prepaidAccounts.rows.any fun a =>
      decide (a.key.wallet = o.wallet ∧ 0 < a.availableAtomic)).map Owner.wallet

def working (status : BundleStatus) : Bool :=
  decide (status ∈ [.funded, .processing, .paymentInProgress, .paymentReconciliation])

-- a prepaid bundle of another wallet of the user
def ofOtherWallet (q : BundleQuote) : Bool :=
  decide (q.fundingSource = .prepaid) &&
    q.payerWallet.any fun payer => decide (payer ≠ wallet) && ownsWallet db userId payer

def activeOtherWallet : Option String :=
  (db.funds.bundleQuotes.rows.find? fun q => ofOtherWallet db userId wallet q &&
    (working q.status || fenced db.funds .bundle q.id)).bind BundleQuote.payerWallet

def dropQuotes (p : BundleQuote → Bool) (reason : String) : Database :=
  { db with
    funds := { db.funds with
      bundleQuotes := db.funds.bundleQuotes.update
        (fun q => p q && decide (q.status = .quoted) && !fenced db.funds .bundle q.id)
        (fun q => { q with
          status := .deleted
          failureReason := some reason }) (fun _ => rfl) } }

def preparePrepaidWalletSwitch : Except StoreError Database := do
  match fundedOtherWallet db userId wallet with
  | some other => .error (.conflict
      s!"withdraw prepaid balance from wallet {other} before switching wallets")
  | none =>
    match activeOtherWallet db userId wallet with
    | some other => .error (.conflict
        s!"wait for the prepaid research job funded by wallet {other} before switching wallets")
    | none => return dropQuotes db (ofOtherWallet db userId wallet) "prepaid wallet switched"

def currentBalance (current : String) : Nat :=
  if otherOwner db userId current = true then 0
  else ((db.funds.prepaidAccounts.rows.filter fun a => decide (a.key.wallet = current)).map
    PrepaidAccount.availableAtomic).sum

def prepareVerifiedWalletRotation (newWallet : String) : Except StoreError Database := do
  match (verifiedWallet db userId).filter fun current => decide (current ≠ newWallet) with
  | none => return db
  | some current =>
    let db ← preparePrepaidWalletSwitch db userId newWallet
    reject (0 < currentBalance db userId current)
      (.conflict "withdraw prepaid balance before changing the verified wallet")
    return db

end Switch

section Sessions

def revokeSessions (db : Database) (now : Nat) (userId : String) : Database :=
  { db with
    sessions := db.sessions.update
      (fun s => decide (s.userId = userId ∧ s.revokedAt = none))
      (fun s => { s with revokedAt := some now }) (fun _ => rfl) }

variable (ext : Externals) (db : Database) (now : Nat)

def liveSession (s : Session) : Bool :=
  decide (s.revokedAt = none ∧ now < s.expiresAt) && ownsWallet db s.userId s.wallet

-- the user and the wallet of a session
def requirePrepaidSession (tokenHash : String) : Except StoreError Session := do
  reject (tokenHash.utf8ByteSize ≠ 64) (.unauthorized "prepaid wallet session is missing or invalid")
  let now ← asI64 now
  orReject (db.sessions.rows.find? fun s => decide (s.tokenHash = tokenHash) && liveSession db now s &&
    activeUser db s.userId) (.unauthorized "prepaid wallet session has expired")

def sessionWallet (userId : String) : Option String :=
  (latest Session.createdAt (db.sessions.rows.filter fun s =>
    decide (s.userId = userId) && liveSession db now s)).map Session.wallet

def identityWallet (userId : String) : Option String :=
  (db.identities.rows.find? fun i =>
    decide (i.userId = userId) && !otherOwner db userId i.wallet).map Identity.wallet

def profileWallet (userId : String) : Option String :=
  (verifiedWallet db userId).filter fun wallet => !otherOwner db userId wallet

def userPrepaidWallet (userId : String) : Except StoreError (Option String) := do
  let now ← asI64 now
  return ((sessionWallet db now userId).or (identityWallet db userId)).or (profileWallet db userId)

-- the session proved its wallet by an identity or by a verified profile
def provesWallet (userId wallet : String) : Bool :=
  holdsIdentity db userId wallet || decide (verifiedWallet db userId = some wallet)

def claimOwner (userId wallet : String) : Database :=
  { db with
    owners := if (db.owners.get? wallet).isSome = true then db.owners
      else db.owners.put ⟨wallet, userId, now⟩ }

-- the identity of the wallet takes it from another account, with that account's sessions of it
def rehome (userId wallet : String) : Except StoreError Database := do
  if otherOwner db userId wallet = true then
    reject (holdsIdentity db userId wallet = false)
      (.conflict "this wallet already owns prepaid value for another account")
    return { db with
      sessions := db.sessions.delete fun s => decide (s.wallet = wallet ∧ s.userId ≠ userId)
      owners := db.owners.put ⟨wallet, userId, now⟩ }
  else return db

def insertSession (session : Session) : Except StoreError Database := do
  reject (db.sessions.rows.any (fun s => decide (s.tokenHash = session.tokenHash)) = true)
    (.database "UNIQUE constraint failed: prepaid_wallet_sessions.token_hash")
  let sessions ← orReject (db.sessions.insert? session)
    (.database "UNIQUE constraint failed: prepaid_wallet_sessions.id")
  return { db with sessions := sessions }

structure IssueRequest where
  userId : String
  wallet : String
  sessionToken : String
  ttlMs : Nat

def checkIssue (request : IssueRequest) (policy : PaymentQuotePolicy) : Except StoreError String := do
  validatePaymentPolicy policy
  let payTo ← orReject policy.bundleRecipient
    (.conflict "prepaid payments require OPENSHELF_BUNDLE_RECEIVER")
  reject (validSolanaAddress ext.encoding (trim request.wallet) = false ∨
      validSolanaAddress ext.encoding payTo = false)
    (.validation "prepaid wallet addresses must be valid Solana public keys")
  reject (isHex64 request.sessionToken = false)
    (.validation "prepaid session token must be 32 bytes of hex")
  reject (request.ttlMs < 60000 ∨ 7 * 24 * 60 * 60 * 1000 < request.ttlMs)
    (.validation "prepaid session ttl is outside the supported range")
  return payTo

def bundleAccount (wallet payTo : String) (policy : PaymentQuotePolicy) : AccountKey :=
  ⟨wallet, payTo, trim policy.network, trim policy.asset⟩

def withAccount (key : AccountKey) : Database := { db with funds := ensurePrepaidAccount db.funds key }

def issuePrepaidWalletSession (sessionId : String) (request : IssueRequest)
    (policy : PaymentQuotePolicy) : Except StoreError Database := do
  let payTo ← checkIssue ext request policy
  let userId := trim request.userId
  let wallet := trim request.wallet
  reject (activeUser db userId = false)
    (.unauthorized "sign in again before enabling prepaid spending")
  reject (provesWallet db userId wallet = false)
    (.unauthorized "sign in with this Phantom wallet before enabling prepaid spending")
  let now ← asI64 now
  let db ← rehome (claimOwner db now userId wallet) now userId wallet
  let db ← preparePrepaidWalletSwitch db userId wallet
  let db := revokeSessions db now userId
  let expiresAt ← asI64 (saturatingAdd now request.ttlMs)
  let db ← insertSession db
    { id := sessionId
      userId := userId
      wallet := wallet
      tokenHash := ext.sha256Hex request.sessionToken
      expiresAt := expiresAt
      revokedAt := none
      lastUsedAt := none
      createdAt := now }
  return withAccount db (bundleAccount wallet payTo policy)

end Sessions

section Boot

variable (db : Database)

def sharedWallet : Option String :=
  (db.sessions.rows.find? fun s => db.sessions.rows.any fun s' =>
    decide (s'.wallet = s.wallet ∧ s'.userId ≠ s.userId)).map Session.wallet

def mismatchedOwner : Option String :=
  (db.sessions.rows.find? fun s => otherOwner db s.userId s.wallet).map Session.wallet

def adoptOwners (sessions : List Session) : Database :=
  sessions.foldl (fun db s => claimOwner db s.createdAt s.userId s.wallet) db

-- the warning about an ownerless balance changes nothing
def backfillPrepaidWalletOwners : Except StoreError Database :=
  match sharedWallet db with
  | some wallet => .error (.conflict
      s!"prepaid wallet {wallet} has sessions owned by multiple users; stop payment writes and reconcile")
  | none =>
    match mismatchedOwner db with
    | some wallet => .error (.conflict
        s!"prepaid wallet {wallet} conflicts with its canonical owner; stop payment writes and reconcile")
    | none => .ok (adoptOwners db (db.sessions.rows.insertionSort fun s s' => s.createdAt ≤ s'.createdAt))

end Boot

end Obulus.Wallets
