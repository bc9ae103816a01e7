import Obulus.Settlement.Invoice
import Mathlib.Logic.Function.Basic

namespace Obulus.Settlement

open Foundation

structure Account where
  lamports : UInt64
  owner : Pubkey
  data : List UInt8
  deriving DecidableEq

abbrev Bank := Pubkey → Account

structure AccountMeta where
  key : Pubkey
  isSigner : Bool
  deriving DecidableEq

structure TokenAccount where
  mint : Pubkey
  owner : Pubkey
  amount : UInt64
  deriving DecidableEq

structure Mint where
  decimals : UInt8
  deriving DecidableEq

inductive ProgramError where
  | custom (error : SettlementError)
  | notEnoughAccountKeys
  | crossProgram (code : UInt32)
  deriving DecidableEq, Repr

inductive Invocation where
  | systemTransfer (source destination : Pubkey) (lamports : UInt64)
  | systemAllocate (account : Pubkey) (space : Nat)
  | systemAssign (account owner : Pubkey)
  | transferChecked (source mint destination authority : Pubkey) (amount : UInt64)
      (decimals : UInt8)

-- The runtime, the system program and the token program are not part of the repository.
structure Runtime where
  programId : Pubkey
  splTokenId : Pubkey
  systemProgramId : Pubkey
  programId_ne_splTokenId : programId ≠ splTokenId
  programId_ne_systemProgramId : programId ≠ systemProgramId
  findProgramAddress : List (List UInt8) → Pubkey → Pubkey × UInt8
  unpackToken : List UInt8 → Option TokenAccount
  unpackMint : List UInt8 → Option Mint
  minimumBalance : Nat → UInt64
  invoke : Bank → List AccountMeta → List (List UInt8) → Invocation → Except ProgramError Bank

namespace Runtime

variable (rt : Runtime)

def tokenAt (bank : Bank) (key : Pubkey) : Option TokenAccount :=
  if (bank key).owner = rt.splTokenId then rt.unpackToken (bank key).data else none

def balance (bank : Bank) (key : Pubkey) : Nat :=
  match rt.tokenAt bank key with
  | some t => t.amount.toNat
  | none => 0

structure MovesTokens (bank : Bank) (source destination : Pubkey) (amount : UInt64)
    (bank' : Bank) : Prop where
  self : source = destination → bank' = bank
  moved : source ≠ destination → ∃ s d s' d', rt.tokenAt bank source = some s ∧
    rt.tokenAt bank destination = some d ∧
    rt.tokenAt bank' source = some s' ∧ rt.tokenAt bank' destination = some d' ∧
    s'.amount.toNat + amount.toNat = s.amount.toNat ∧
    d'.amount.toNat = d.amount.toNat + amount.toNat
  frame : ∀ k, k ≠ source → k ≠ destination → bank' k = bank k

structure Lawful : Prop where
  transferChecked : ∀ {bank metas seeds source mint destination authority amount decimals bank'},
    rt.invoke bank metas seeds
      (.transferChecked source mint destination authority amount decimals) = .ok bank' →
    rt.MovesTokens bank source destination amount bank'
  systemTransfer : ∀ {bank metas seeds source destination lamports bank'},
    rt.invoke bank metas seeds (.systemTransfer source destination lamports) = .ok bank' →
    ∀ k, (bank' k).owner = (bank k).owner ∧ (bank' k).data = (bank k).data
  systemAllocate : ∀ {bank metas seeds account space bank'},
    rt.invoke bank metas seeds (.systemAllocate account space) = .ok bank' →
    bank' = Function.update bank account { bank account with data := List.replicate space 0 }
  systemAssign : ∀ {bank metas seeds account owner bank'},
    rt.invoke bank metas seeds (.systemAssign account owner) = .ok bank' →
    bank' = Function.update bank account { bank account with owner := owner }

variable {rt}

theorem owner_of_tokenAt {bank : Bank} {k : Pubkey} {t : TokenAccount}
    (h : rt.tokenAt bank k = some t) : (bank k).owner = rt.splTokenId := by
  unfold tokenAt at h
  split at h
  · assumption
  · simp at h

theorem balance_of_tokenAt {bank : Bank} {k : Pubkey} {t : TokenAccount}
    (h : rt.tokenAt bank k = some t) : rt.balance bank k = t.amount.toNat := by
  simp [balance, h]

namespace MovesTokens

variable {bank bank' : Bank} {source destination : Pubkey} {amount : UInt64}

theorem eq_of_owner_ne (h : rt.MovesTokens bank source destination amount bank') {k : Pubkey}
    (hk : (bank k).owner ≠ rt.splTokenId) : bank' k = bank k := by
  by_cases hsd : source = destination
  · rw [h.self hsd]
  · obtain ⟨s, d, -, -, hs, hd, -⟩ := h.moved hsd
    refine h.frame k ?_ ?_
    · rintro rfl
      exact hk (owner_of_tokenAt hs)
    · rintro rfl
      exact hk (owner_of_tokenAt hd)

theorem balance_source (h : rt.MovesTokens bank source destination amount bank')
    (hne : source ≠ destination) :
    rt.balance bank' source + amount.toNat = rt.balance bank source := by
  obtain ⟨s, d, s', d', hs, hd, hs', hd', hsub, -⟩ := h.moved hne
  rw [balance_of_tokenAt hs, balance_of_tokenAt hs', hsub]

theorem balance_destination (h : rt.MovesTokens bank source destination amount bank')
    (hne : source ≠ destination) :
    rt.balance bank' destination = rt.balance bank destination + amount.toNat := by
  obtain ⟨s, d, s', d', hs, hd, hs', hd', -, hadd⟩ := h.moved hne
  rw [balance_of_tokenAt hd, balance_of_tokenAt hd', hadd]

theorem balance_frame (h : rt.MovesTokens bank source destination amount bank') {k : Pubkey}
    (hs : k ≠ source) (hd : k ≠ destination) : rt.balance bank' k = rt.balance bank k := by
  simp only [balance, tokenAt, h.frame k hs hd]

end MovesTokens

end Runtime

end Obulus.Settlement
