import Obulus.Funds.Posting
import Obulus.Store.Encoding

namespace Obulus.Wallets

open Foundation Store Funds

-- `deleted_at IS NULL` of a user row
structure User where
  id : String
  deletedAt : Option Nat
  deriving DecidableEq, Repr

structure Identity where
  wallet : String
  userId : String
  createdAt : Nat
  deriving DecidableEq, Repr

structure Profile where
  userId : String
  handle : String
  wallet : Option String
  walletVerifiedAt : Option Nat
  deriving DecidableEq, Repr

def Profile.verified (p : Profile) : Bool := p.walletVerifiedAt.isSome

structure Owner where
  wallet : String
  userId : String
  createdAt : Nat
  deriving DecidableEq, Repr

structure Session where
  id : String
  userId : String
  wallet : String
  tokenHash : String
  expiresAt : Nat
  revokedAt : Option Nat
  lastUsedAt : Option Nat
  createdAt : Nat
  deriving DecidableEq, Repr

structure WalletChallenge where
  id : String
  userId : String
  wallet : String
  message : String
  expiresAt : Nat
  consumedAt : Option Nat
  createdAt : Nat
  deriving DecidableEq, Repr

structure SiwxChallenge where
  id : String
  userId : String
  domain : String
  uri : String
  statement : String
  nonce : String
  issuedAt : String
  expirationTime : String
  network : String
  expiresAt : Nat
  consumedAt : Option Nat
  createdAt : Nat
  deriving DecidableEq, Repr

structure Payout where
  id : String
  beneficiaryUserId : String
  kind : String
  escrowWallet : String
  recipientWallet : String
  asset : String
  network : String
  amountAtomic : Nat
  amountKrw : Nat
  createdAt : Nat
  deriving DecidableEq, Repr

-- the prepaid accounts, bundles, calls and payment attempts are those of `funds`
structure Database where
  users : Table User.id
  identities : Table Identity.wallet
  profiles : Table Profile.userId
  owners : Table Owner.wallet
  sessions : Table Session.id
  challenges : Table WalletChallenge.id
  siwxChallenges : Table SiwxChallenge.id
  payouts : Table Payout.id
  payShQuoteFences : List String
  funds : Funds.Database

-- the libraries: base58, SHA-256 in hex and Ed25519
structure Externals where
  encoding : Encoding
  sha256Hex : String → String
  ed25519Key : Bytes → Bool
  verifyStrict : Bytes → String → Bytes → Bool

section Readers

variable (db : Database) (userId wallet : String)

def activeUser : Bool := (db.users.get? userId).any fun u => u.deletedAt.isNone

def ownsWallet : Bool := db.owners.rows.any fun o => decide (o.wallet = wallet ∧ o.userId = userId)

def otherOwner : Bool := db.owners.rows.any fun o => decide (o.wallet = wallet ∧ o.userId ≠ userId)

def holdsIdentity : Bool :=
  db.identities.rows.any fun i => decide (i.wallet = wallet ∧ i.userId = userId)

def verifiedWallet : Option String :=
  ((db.profiles.get? userId).filter Profile.verified).bind Profile.wallet

theorem otherOwner_eq_false :
    otherOwner db userId wallet = false ↔
      ∀ o, db.owners.get? wallet = some o → o.userId = userId := by
  simp only [otherOwner, List.any_eq_false, decide_eq_true_eq, not_and, not_not]
  constructor
  · intro h o ho
    exact h o (Table.get?_mem ho) (Table.get?_key ho)
  · rintro h o ho rfl
    exact h o (Table.get?_of_mem ho)

theorem ownsWallet_eq_true :
    ownsWallet db userId wallet = true ↔
      ∃ o, db.owners.get? wallet = some o ∧ o.userId = userId := by
  simp only [ownsWallet, List.any_eq_true, decide_eq_true_eq]
  constructor
  · rintro ⟨o, ho, rfl, huser⟩
    exact ⟨o, Table.get?_of_mem ho, huser⟩
  · rintro ⟨o, ho, huser⟩
    exact ⟨o, Table.get?_mem ho, Table.get?_key ho, huser⟩

end Readers

end Obulus.Wallets
