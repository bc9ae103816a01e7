import Obulus.Wallets.Identity
import Obulus.Wallets.Spending

namespace Obulus.Wallets

open Foundation Store Funds

variable {ext : Externals} {db db' mid : Database} {now : Nat} {userId wallet : String}
  {policy : PaymentQuotePolicy} {payTo : String} {W W' : String → Prop}

section Relations

-- the users, their identities, profiles, owned wallets and sessions stay as they are
def Quiet (db db' : Database) : Prop :=
  { db with
    challenges := db'.challenges
    siwxChallenges := db'.siwxChallenges
    payouts := db'.payouts
    funds := db'.funds } = db'

theorem Quiet.refl (db : Database) : Quiet db db := rfl

theorem Quiet.trans (h : Quiet db mid) (h' : Quiet mid db') : Quiet db db' := by
  unfold Quiet at h h' ⊢
  rw [← h', ← h]

-- only accounts of these wallets have less
def Draws (W : String → Prop) (db db' : Database) : Prop :=
  ∀ key, prepaidAvailable db'.funds key < prepaidAvailable db.funds key → W key.wallet

theorem Draws.none (h : ∀ key, prepaidAvailable db'.funds key = prepaidAvailable db.funds key) :
    Draws W db db' := by
  intro key hlt
  rw [h key] at hlt
  exact absurd hlt (lt_irrefl _)

theorem Draws.refl (db : Database) : Draws W db db := .none fun _ => rfl

theorem Draws.trans (h : Draws W db mid) (h' : Draws W mid db') : Draws W db db' := by
  intro key hlt
  by_cases hmid : prepaidAvailable mid.funds key < prepaidAvailable db.funds key
  · exact h key hmid
  · exact h' key (by omega)

theorem Draws.mono (hW : ∀ w, W w → W' w) (h : Draws W db db') : Draws W' db db' :=
  fun key hlt => hW _ (h key hlt)

theorem Draws.of_account {key : AccountKey} {delta : Int}
    (h : ∀ k, (prepaidAvailable db'.funds k : Int) =
      prepaidAvailable db.funds k + if k = key then delta else 0)
    (hW : delta < 0 → W key.wallet) : Draws W db db' := by
  intro k hlt
  have hk := h k
  split at hk
  · next heq =>
    subst heq
    exact hW (by omega)
  · omega

end Relations

section Switching

theorem dropQuotes_quiet (p : BundleQuote → Bool) (reason : String) :
    Quiet db (dropQuotes db p reason) := rfl

theorem dropQuotes_draws (p : BundleQuote → Bool) (reason : String) :
    Draws W db (dropQuotes db p reason) := .none fun _ => rfl

theorem switch_effect (h : preparePrepaidWalletSwitch db userId wallet = .ok db') :
    Quiet db db' ∧ Draws W db db' := by
  unfold preparePrepaidWalletSwitch at h
  split at h
  · cases h
  · split at h
    · cases h
    · cases h
      exact ⟨dropQuotes_quiet _ _, dropQuotes_draws _ _⟩

theorem rotation_effect (h : prepareVerifiedWalletRotation db userId wallet = .ok db') :
    Quiet db db' ∧ Draws W db db' := by
  unfold prepareVerifiedWalletRotation at h
  split at h
  · cases h
    exact ⟨.refl _, .refl _⟩
  · simp only [bind_eq_ok, reject_eq_ok, exists_const, pure_eq_ok] at h
    obtain ⟨mid, hswitch, -, rfl⟩ := h
    exact switch_effect hswitch

theorem withAccount_effect (key : AccountKey) :
    Quiet db (withAccount db key) ∧ Draws W db (withAccount db key) := by
  refine ⟨rfl, .none fun k => ?_⟩
  exact (ensurePrepaidAccount_cases db.funds key).2.2.1 k

end Switching

section Identities

theorem bind_effect (h : bindWalletIdentity db now ext userId wallet = .ok db') :
    Draws W db db' ∧ holdsIdentity db' (trim userId) (trim wallet) = true ∧
      ∃ t : Table Identity.wallet, { db with identities := t } = db' ∧
        ∀ i ∈ t.rows, i ∈ db.identities.rows ∨ (i.wallet = trim wallet ∧ i.userId = trim userId) := by
  simp only [bindWalletIdentity, bind_eq_ok, reject_eq_ok, exists_const, asI64_eq_ok] at h
  obtain ⟨-, time, ⟨-, htime⟩, h⟩ := h
  split at h
  · simp only [bind_eq_ok, reject_eq_ok, exists_const, pure_eq_ok, Bool.not_eq_false] at h
    obtain ⟨hholds, rfl⟩ := h
    exact ⟨.refl _, hholds, db.identities, rfl, fun i hi => .inl hi⟩
  · simp only [bind_eq_ok, pure_eq_ok] at h
    obtain ⟨-, -, rfl⟩ := h
    refine ⟨.none fun _ => rfl, ?_, _, rfl, fun i hi => ?_⟩
    · have hput : (db.identities.put ⟨trim wallet, trim userId, time⟩).get? (trim wallet) =
          some ⟨trim wallet, trim userId, time⟩ := by
        rw [Table.get?_put, if_pos rfl]
      exact List.any_eq_true.mpr ⟨_, Table.get?_mem hput, decide_eq_true ⟨rfl, rfl⟩⟩
    · have hget := Table.get?_of_mem hi
      rw [Table.get?_put] at hget
      split at hget
      · obtain rfl := Option.some.inj hget
        exact .inr ⟨rfl, rfl⟩
      · exact .inl (Table.get?_mem hget)

end Identities

section Verification

theorem verifyProfileWallet_effect (h : verifyProfileWallet db now userId wallet = .ok db') :
    Draws W db db' ∧ activeUser db userId = true ∧
      ∃ mid, Quiet db mid ∧ db' = { mid with
        profiles := mid.profiles.update (fun p => decide (p.userId = userId))
          (fun p => { p with
            wallet := some wallet
            walletVerifiedAt := some now }) (fun _ => rfl) } := by
  simp only [verifyProfileWallet, lockUser, bind_eq_ok, reject_eq_ok, exists_const, asI64_eq_ok,
    pure_eq_ok, Bool.not_eq_false] at h
  obtain ⟨hactive, mid, hrotation, -, time, ⟨-, htime⟩, -, rfl⟩ := h
  obtain rfl := htime.symm
  obtain ⟨hquiet, hdraws⟩ := @rotation_effect _ _ _ _ W hrotation
  refine ⟨fun key hlt => hdraws key hlt, hactive, mid, hquiet, rfl⟩

theorem verify_effect {challengeId signature : String}
    (h : verifyWalletChallenge ext db now userId challengeId signature = .ok db') :
    ∃ challenge mid, db.challenges.get? (trim challengeId) = some challenge ∧
      verifyProfileWallet db now (trim userId) challenge.wallet = .ok mid ∧
      ∃ t, db' = revokeSessions { mid with challenges := t } now (trim userId) := by
  simp only [verifyWalletChallenge, loadChallenge, bind_eq_ok, reject_eq_ok, orReject_eq_ok,
    exists_const, pure_eq_ok, Option.filter_eq_some_iff] at h
  obtain ⟨-, challenge, ⟨hget, -⟩, -, -, -, -, mid, hverify, rfl⟩ := h
  exact ⟨challenge, mid, hget, hverify, _, rfl⟩

theorem verifySiwx_effect {challengeId : String} {payload : SiwxPayload}
    (h : verifyWalletSiwxChallenge ext db now challengeId payload = .ok db') :
    ∃ challenge mid, db.siwxChallenges.get? (trim challengeId) = some challenge ∧
      verifyProfileWallet db now challenge.userId (trim payload.address) = .ok mid ∧
      ∃ t, db' = { mid with siwxChallenges := t } := by
  simp only [verifyWalletSiwxChallenge, bind_eq_ok, reject_eq_ok, orReject_eq_ok, exists_const,
    pure_eq_ok] at h
  obtain ⟨challenge, hget, -, -, -, -, -, mid, hverify, rfl⟩ := h
  exact ⟨challenge, mid, hget, hverify, _, rfl⟩

theorem challenge_effect {id nonce : String} {ttlMs : Nat}
    (h : createWalletChallenge ext db now id userId wallet nonce ttlMs = .ok db') :
    Quiet db db' ∧ Draws W db db' := by
  simp only [createWalletChallenge, requireProfile, requireUser, bind_eq_ok, reject_eq_ok,
    orReject_eq_ok, exists_const, pure_eq_ok] at h
  obtain ⟨-, -, -, -, -, _, -, _, -, -, challenges, -, rfl⟩ := h
  exact ⟨rfl, .none fun _ => rfl⟩

theorem siwxChallenge_effect {challengeId : String} {request : SiwxRequest}
    (h : createWalletSiwxChallenge db now challengeId request = .ok db') :
    Quiet db db' ∧ Draws W db db' := by
  simp only [createWalletSiwxChallenge, requireProfile, requireUser, bind_eq_ok, reject_eq_ok,
    orReject_eq_ok, exists_const, pure_eq_ok] at h
  obtain ⟨_, -, -, _, -, _, -, -, challenges, -, rfl⟩ := h
  exact ⟨rfl, .none fun _ => rfl⟩

theorem upsert_effect {request : UpsertProfileRequest}
    (h : upsertProfile db now userId ext request = .ok db') :
    Draws W db db' ∧ ∃ handle wallet verifiedAt,
      (verifiedAt ≠ none → ∀ w, wallet = some w → holdsIdentity db (trim userId) w = true) ∧
      db' = { db with
        profiles := db.profiles.put (upsertedProfile db (trim userId) handle wallet verifiedAt) } := by
  simp only [upsertProfile, bind_eq_ok, reject_eq_ok, exists_const, asI64_eq_ok, pure_eq_ok] at h
  obtain ⟨_, -, -, time, -, -, rfl⟩ := h
  refine ⟨.none fun _ => rfl, _, _, _, ?_, rfl⟩
  intro hverified w hw
  rw [hw, Option.any_some] at hverified
  by_contra hnot
  rw [if_neg hnot] at hverified
  exact hverified rfl

end Verification

section Issue

variable {sessionId : String} {request : IssueRequest}

theorem claimOwner_get (w : String) : (claimOwner db now userId wallet).owners.get? w =
    if w = wallet ∧ db.owners.get? wallet = none then some ⟨wallet, userId, now⟩
    else db.owners.get? w := by
  unfold claimOwner
  cases hget : db.owners.get? wallet with
  | some o => simp
  | none =>
    simp only [Option.isSome_none, Bool.false_eq_true, if_false, and_true]
    rw [Table.get?_put]
    simp only [eq_comm]

theorem claimOwner_some : ∃ o, (claimOwner db now userId wallet).owners.get? wallet = some o := by
  rw [claimOwner_get]
  cases hget : db.owners.get? wallet with
  | none => exact ⟨_, if_pos ⟨rfl, rfl⟩⟩
  | some o => exact ⟨o, if_neg (by simp)⟩

-- the owner of the wallet and the sessions, once the wallet is the user's
structure Homed (db db' : Database) (userId wallet : String) : Prop where
  frame : { db with owners := db'.owners, sessions := db'.sessions } = db'
  owner : ∃ o, db'.owners.get? wallet = some o ∧ o.userId = userId
  others : ∀ w, w ≠ wallet → db'.owners.get? w = db.owners.get? w
  kept : db'.sessions.rows.Sublist db.sessions.rows
  sessions : ∀ s ∈ db'.sessions.rows, s.wallet = wallet → s.userId = userId ∨
    db'.owners.get? wallet = db.owners.get? wallet ∨ db.owners.get? wallet = none

theorem home_effect (h : rehome (claimOwner db now userId wallet) now userId wallet = .ok db') :
    Homed db db' userId wallet := by
  unfold rehome at h
  have hothers : ∀ w, w ≠ wallet →
      (claimOwner db now userId wallet).owners.get? w = db.owners.get? w := by
    intro w hw
    rw [claimOwner_get, if_neg fun hboth => hw hboth.1]
  split at h
  · simp only [bind_eq_ok, reject_eq_ok, exists_const, pure_eq_ok] at h
    obtain ⟨-, rfl⟩ := h
    refine ⟨rfl, ⟨⟨wallet, userId, now⟩, ?_, rfl⟩, fun w hw => ?_, List.filter_sublist,
      fun s hs hwallet => ?_⟩
    · rw [Table.get?_put, if_pos rfl]
    · rw [Table.get?_put, if_neg (Ne.symm hw)]
      exact hothers w hw
    · have hkept := (List.mem_filter.mp hs).2
      simp only [hwallet, true_and, Bool.not_eq_true', decide_eq_false_iff_not, not_not] at hkept
      exact .inl hkept
  · next hother =>
    cases h
    rw [Bool.not_eq_true, otherOwner_eq_false] at hother
    obtain ⟨o, ho⟩ := @claimOwner_some db now userId wallet
    refine ⟨rfl, ⟨o, ho, hother o ho⟩, hothers, List.Sublist.refl _, fun s hs hwallet => ?_⟩
    rw [claimOwner_get]
    cases hget : db.owners.get? wallet with
    | none => exact .inr (.inr rfl)
    | some o' => exact .inr (.inl (if_neg (by simp)))

theorem revoked_quiet (h : Quiet db db') :
    Quiet (revokeSessions db now userId) (revokeSessions db' now userId) := by
  have hsame : db'.sessions = db.sessions := by rw [← h]
  unfold Quiet revokeSessions
  rw [hsame, ← h]

structure Issued (db db' : Database) (now : Nat) (sessionId userId wallet : String) (s : Session)
    (homed last : Database) : Prop where
  home : Homed db homed userId wallet
  revoked : Quiet (revokeSessions homed now userId) last
  frame : { last with sessions := db'.sessions, funds := db'.funds } = db'
  fresh : last.sessions.get? sessionId = none
  rows : db'.sessions.rows = last.sessions.rows ++ [s]
  named : s.id = sessionId
  user : s.userId = userId
  opens : s.wallet = wallet
  unrevoked : s.revokedAt = none
  lives : 0 < s.expiresAt

theorem insertSession_effect {s : Session} (h : insertSession db s = .ok db') :
    db.sessions.get? s.id = none ∧ db'.sessions.rows = db.sessions.rows ++ [s] ∧
      { db with sessions := db'.sessions } = db' := by
  simp only [insertSession, bind_eq_ok, reject_eq_ok, orReject_eq_ok, exists_const, pure_eq_ok] at h
  obtain ⟨-, sessions, hinsert, rfl⟩ := h
  obtain ⟨hfresh, hrows⟩ := Table.insert?_eq_some.mp hinsert
  exact ⟨hfresh, hrows, rfl⟩

theorem checkIssue_ttl (h : checkIssue ext request policy = .ok payTo) : 60000 ≤ request.ttlMs := by
  simp only [checkIssue, bind_eq_ok, reject_eq_ok, orReject_eq_ok, exists_const, not_or, not_lt,
    pure_eq_ok] at h
  obtain ⟨_, -, _, -, -, -, ⟨hmin, -⟩, -⟩ := h
  exact hmin

theorem issue_effect
    (h : issuePrepaidWalletSession ext db now sessionId request policy = .ok db') :
    Draws W db db' ∧ provesWallet db (trim request.userId) (trim request.wallet) = true ∧
      ∃ s homed last, Issued db db' now sessionId (trim request.userId) (trim request.wallet) s homed
        last := by
  simp only [issuePrepaidWalletSession, bind_eq_ok, reject_eq_ok, exists_const, asI64_eq_ok,
    pure_eq_ok, Bool.not_eq_false] at h
  obtain ⟨payTo, hcheck, -, hproves, time, ⟨-, htime⟩, homed, hhome, switched, hswitch, expiresAt,
    ⟨-, hexpires⟩, mid, hinsert, rfl⟩ := h
  obtain rfl := htime.symm
  have hhomed := home_effect hhome
  obtain ⟨hquiet, hdraws⟩ := @switch_effect _ _ _ _ W hswitch
  obtain ⟨hfresh, hrows, hframe⟩ := insertSession_effect hinsert
  have hfunds : homed.funds = db.funds := by rw [← hhomed.frame]
  have hmid : mid.funds = switched.funds := by rw [← hframe]; rfl
  refine ⟨?_, hproves, _, homed, revokeSessions switched now (trim request.userId), hhomed,
    revoked_quiet hquiet, ?_, hfresh, hrows, rfl, rfl, rfl, rfl, ?_⟩
  · have hfirst : Draws W db homed := .none fun key => by rw [hfunds]
    have hlast : Draws W switched mid := .none fun key => by rw [hmid]
    exact hfirst.trans (hdraws.trans (hlast.trans (withAccount_effect _).2))
  · rw [← hframe]
    rfl
  · have hmin := checkIssue_ttl hcheck
    change 0 < expiresAt
    simp only [hexpires, saturatingAdd, u64Max]
    omega

end Issue

section Bundles

variable {request : BundleRequest} {source : FundingSource} {invoice : InvoicePreview}
  {payer : Option String} {onlyAvailable : Option Nat} {ids : BundleIds} {existing : BundleQuote}
  {tokenHash : String}

theorem requirePrepaidSession_eq_ok {s : Session}
    (h : requirePrepaidSession db now tokenHash = .ok s) :
    s ∈ db.sessions.rows ∧ s.tokenHash = tokenHash ∧ liveSession db now s = true ∧
      activeUser db s.userId = true := by
  simp only [requirePrepaidSession, bind_eq_ok, reject_eq_ok, orReject_eq_ok, exists_const,
    asI64_eq_ok] at h
  obtain ⟨-, time, ⟨-, htime⟩, hfind⟩ := h
  obtain rfl := htime.symm
  have hs := List.find?_some hfind
  simp only [Bool.and_eq_true, decide_eq_true_eq] at hs
  exact ⟨List.mem_of_find?_eq_some hfind, hs.1.1, hs.1.2, hs.2⟩

theorem liveSession_owns {s : Session} (h : liveSession db now s = true) :
    s.revokedAt = none ∧ now < s.expiresAt ∧ ownsWallet db s.userId s.wallet = true := by
  simp only [liveSession, Bool.and_eq_true, decide_eq_true_eq] at h
  exact ⟨h.1.1, h.1.2, h.2⟩

theorem reserveBudget_effect {ledgerId jobId : String}
    (h : reserveBudget db now policy payTo invoice ledgerId jobId payer = .ok db') :
    Quiet db db' ∧ ∃ wallet, payer = some wallet ∧ Draws (· = wallet) db db' := by
  simp only [reserveBudget, withFunds, bind_eq_ok, orReject_eq_ok, pure_eq_ok] at h
  obtain ⟨wallet, hwallet, funds, hreserve, rfl⟩ := h
  obtain ⟨e, hposting, haccount, -⟩ := reserve_posts hreserve
  have hspends : e.deltaAtomic < 0 → e.account.wallet = wallet := by
    intro _
    rw [haccount]
    rfl
  exact ⟨rfl, wallet, hwallet, Draws.of_account hposting.account hspends⟩

theorem reuse_effect
    (h : reuseBundle db now policy payTo invoice ids payer onlyAvailable existing = .ok db') :
    Quiet db db' ∧ Draws (fun w => payer = some w) db db' := by
  unfold reuseBundle at h
  split at h
  · obtain ⟨hquiet, wallet, rfl, hdraws⟩ := reserveBudget_effect h
    have hfirst : Draws (fun w => some wallet = some w) db db' :=
      fun key hlt => congrArg some (hdraws key hlt).symm
    exact ⟨hquiet, hfirst⟩
  · cases h
    exact ⟨.refl _, .refl _⟩

theorem insertBundleDocuments_effect {id : String} {documents : List BundleDocument}
    (h : documents.foldlM (insertBundleDocument id) db = .ok db') :
    Quiet db db' ∧ db'.funds.prepaidAccounts = db.funds.prepaidAccounts := by
  induction documents generalizing db with
  | nil =>
    cases h
    exact ⟨.refl _, rfl⟩
  | cons document documents ih =>
    simp only [List.foldlM_cons, bind_eq_ok, insertBundleDocument, orReject_eq_ok, pure_eq_ok] at h
    obtain ⟨_, ⟨rows, -, rfl⟩, h⟩ := h
    obtain ⟨hquiet, hsame⟩ := ih h
    exact ⟨hquiet, hsame⟩

theorem createBundle_effect
    (h : createBundle db now request source policy payTo invoice ids payer onlyAvailable = .ok db') :
    Quiet db db' ∧ Draws (fun w => payer = some w) db db' := by
  simp only [createBundle, bind_eq_ok, reject_eq_ok, orReject_eq_ok, exists_const] at h
  obtain ⟨-, _, -, terms, -, quotes, -, mid, hdocuments, h⟩ := h
  obtain ⟨hquiet, hsame⟩ := insertBundleDocuments_effect hdocuments
  have hfirst : Draws (fun w => payer = some w) db mid := .none fun key => by
    unfold prepaidAvailable
    rw [hsame]
  split at h
  · obtain ⟨hquiet', wallet, rfl, hdraws⟩ := reserveBudget_effect h
    exact ⟨Quiet.trans hquiet hquiet', hfirst.trans fun key hlt => congrArg some (hdraws key hlt).symm⟩
  · cases h
    exact ⟨hquiet, hfirst⟩

theorem openSession_effect {mid : Database}
    (h : openSession db now policy payTo (some tokenHash) = .ok (mid, payer)) :
    ∃ s, requirePrepaidSession db now tokenHash = .ok s ∧ payer = some s.wallet ∧
      Quiet (touchSession db now tokenHash) mid ∧
      ∀ key, prepaidAvailable mid.funds key = prepaidAvailable db.funds key := by
  simp only [openSession, bind_eq_ok, pure_eq_ok, Prod.mk.injEq] at h
  obtain ⟨s, hs, rfl, rfl⟩ := h
  refine ⟨s, hs, rfl, rfl, fun key => ?_⟩
  exact (ensurePrepaidAccount_cases db.funds (bundleAccount s.wallet payTo policy)).2.2.1 key

theorem bundle_effect {readers : InvoiceReaders}
    (h : createPaymentBundle db now request policy ext readers ids tokenHash = .ok db') :
    ∃ s, requirePrepaidSession db now tokenHash = .ok s ∧
      Quiet (touchSession db now tokenHash) db' ∧ Draws (· = s.wallet) db db' := by
  simp only [createPaymentBundle, createPaymentBundleWithFunding, bind_eq_ok, reject_eq_ok,
    exists_const, asI64_eq_ok] at h
  obtain ⟨payTo, -, _, -, ⟨mid, payer⟩, hopen, invoice, -, -, onlyAvailable, -, time, ⟨-, htime⟩, h⟩ := h
  obtain rfl := htime.symm
  obtain ⟨s, hs, rfl, hquiet, hsame⟩ := openSession_effect hopen
  have hfinish : Quiet mid db' ∧ Draws (fun w => some s.wallet = some w) mid db' := by
    split at h
    · exact reuse_effect h
    · exact createBundle_effect h
  refine ⟨s, hs, hquiet.trans hfinish.1, (Draws.none hsame).trans ?_⟩
  exact hfinish.2.mono fun w hw => (Option.some.inj hw).symm

end Bundles

section Wallets

theorem latest_mem {α : Type} {createdAt : α → Nat} {l : List α} {a : α}
    (h : latest createdAt l = some a) : a ∈ l := by
  induction l with
  | nil => cases h
  | cons b l ih =>
    rw [latest] at h
    split at h
    · exact List.mem_cons.mpr (.inl (Option.some.inj h).symm)
    · next c hc =>
      split at h
      · exact List.mem_cons.mpr (.inl (Option.some.inj h).symm)
      · obtain rfl := Option.some.inj h
        exact List.mem_cons_of_mem _ (ih hc)

-- a live session, an identity or a verified profile of the user, and no other owner
inductive Spends (db : Database) (now : Nat) (userId wallet : String) : Prop
  | session (s : Session) (hs : s ∈ db.sessions.rows) (huser : s.userId = userId)
    (hwallet : s.wallet = wallet) (hlive : liveSession db now s = true)
  | identity (hholds : holdsIdentity db userId wallet = true)
    (hfree : otherOwner db userId wallet = false)
  | profile (hverified : verifiedWallet db userId = some wallet)
    (hfree : otherOwner db userId wallet = false)

theorem userPrepaidWallet_spends (h : userPrepaidWallet db now userId = .ok (some wallet)) :
    Spends db now userId wallet := by
  simp only [userPrepaidWallet, bind_eq_ok, asI64_eq_ok, pure_eq_ok] at h
  obtain ⟨time, ⟨-, htime⟩, h⟩ := h
  obtain rfl := htime.symm
  rw [Option.or_eq_some_iff, Option.or_eq_some_iff] at h
  rcases h with (h | ⟨-, h⟩) | ⟨-, h⟩
  · obtain ⟨s, hs, rfl⟩ := Option.map_eq_some_iff.mp h
    obtain ⟨hmem, hlive⟩ := List.mem_filter.mp (latest_mem hs)
    simp only [Bool.and_eq_true, decide_eq_true_eq] at hlive
    exact .session s hmem hlive.1 rfl hlive.2
  · obtain ⟨i, hi, rfl⟩ := Option.map_eq_some_iff.mp h
    have hfound := List.find?_some hi
    simp only [Bool.and_eq_true, decide_eq_true_eq, Bool.not_eq_true'] at hfound
    refine .identity (List.any_eq_true.mpr ⟨i, List.mem_of_find?_eq_some hi, ?_⟩) hfound.2
    exact decide_eq_true ⟨rfl, hfound.1⟩
  · obtain ⟨hverified, hfree⟩ := Option.filter_eq_some_iff.mp h
    exact .profile hverified (by simpa using hfree)

theorem openCall_effect {ids : CallIds} {ownerId : String} {request : OpenCallRequest}
    (h : createOpenCall db ext now ids ownerId request policy = .ok db') :
    Quiet db db' ∧ ∃ wallet, Spends db now (trim ownerId) wallet ∧ Draws (· = wallet) db db' := by
  simp only [createOpenCall, bind_eq_ok, reject_eq_ok, orReject_eq_ok, exists_const, pure_eq_ok] at h
  obtain ⟨_, -, -, _, -, -, -, _, -, payTo, -, found, hfound, wallet, rfl, amount, -, time, -, mid,
    hdebit, funds, hrecord, calls, -, rfl⟩ := h
  obtain ⟨honly, hledger, -, haccount⟩ := debitAccount_cases hdebit
  have hposting := recordLedger_posts hrecord honly hledger haccount
  exact ⟨rfl, wallet, userPrepaidWallet_spends hfound, .of_account hposting.account fun _ => rfl⟩

theorem insertPayoutClaim_effect {payout : Payout} (h : insertPayoutClaim db ext payout = .ok db') :
    { db with payouts := db'.payouts } = db' := by
  simp only [insertPayoutClaim, bind_eq_ok, reject_eq_ok, orReject_eq_ok, exists_const, pure_eq_ok] at h
  obtain ⟨-, -, _, -, _, -, _, -, payouts, -, rfl⟩ := h
  rfl

theorem withdrawal_effect {ids : PayoutIds} {requested : Option String}
    (h : createPrepaidWithdrawal db ext now ids userId requested policy = .ok db') :
    Quiet db db' ∧ ∃ wallet, Spends db now (trim userId) wallet ∧ Draws (· = wallet) db db' := by
  simp only [createPrepaidWithdrawal, withFunds, bind_eq_ok, reject_eq_ok, orReject_eq_ok, exists_const,
    pure_eq_ok] at h
  obtain ⟨_, -, payTo, -, -, found, hfound, wallet, rfl, amount, -, -, mid, hclaim, debited, hdebit,
    funds, hrecord, rfl⟩ := h
  have hmid := insertPayoutClaim_effect hclaim
  have hfunds : mid.funds = db.funds := by rw [← hmid]
  rw [hfunds] at hdebit
  obtain ⟨honly, hledger, -, haccount⟩ := debitAccount_cases hdebit
  have hposting := recordLedger_posts hrecord honly hledger haccount
  have hquiet : Quiet db { mid with funds := funds } := by
    rw [← hmid]
    rfl
  exact ⟨hquiet, wallet, userPrepaidWallet_spends hfound,
    .of_account hposting.account fun _ => rfl⟩

end Wallets

section Deletion

variable {wallets : List String}

theorem releases_effect (h : wallets.foldlM releaseWallet db = .ok db') :
    Quiet db db' ∧ Draws W db db' := by
  induction wallets generalizing db with
  | nil =>
    cases h
    exact ⟨.refl _, .refl _⟩
  | cons wallet wallets ih =>
    simp only [List.foldlM_cons, bind_eq_ok, releaseWallet, reject_eq_ok, exists_const, pure_eq_ok] at h
    obtain ⟨_, ⟨-, rfl⟩, h⟩ := h
    obtain ⟨hquiet, hdraws⟩ := ih h
    exact ⟨(dropQuotes_quiet _ _).trans hquiet, (dropQuotes_draws _ _).trans hdraws⟩

theorem refund_effect {newId : String → String} {call : OpenCall}
    (h : refundCall now newId db call = .ok db') : Quiet db db' ∧ Draws W db db' := by
  unfold refundCall at h
  split at h
  · cases h
    exact ⟨.refl _, .refl _⟩
  · next key hkey =>
    simp only [withFunds, bind_eq_ok, pure_eq_ok] at h
    obtain ⟨amount, -, time, -, credited, hcredit, funds, hrecord, rfl⟩ := h
    obtain ⟨hensure, hledger, havailable, hsome⟩ := ensurePrepaidAccount_cases db.funds key
    obtain ⟨honly, hledger', haccount⟩ := creditAccount_cases hcredit hsome
    have hposting := recordLedger_posts hrecord (hensure.trans honly) (hledger'.trans hledger)
      fun k => by rw [haccount, havailable]
    exact ⟨rfl, .of_account hposting.account fun hneg => absurd hneg (by simp)⟩

theorem refunds_effect {newId : String → String} {calls : List OpenCall}
    (h : calls.foldlM (refundCall now newId) db = .ok db') : Quiet db db' ∧ Draws W db db' := by
  induction calls generalizing db with
  | nil =>
    cases h
    exact ⟨.refl _, .refl _⟩
  | cons call calls ih =>
    simp only [List.foldlM_cons, bind_eq_ok] at h
    obtain ⟨mid, hrefund, h⟩ := h
    obtain ⟨hquiet, hdraws⟩ := @refund_effect _ _ _ W _ _ hrefund
    obtain ⟨hquiet', hdraws'⟩ := ih h
    exact ⟨hquiet.trans hquiet', hdraws.trans hdraws'⟩

theorem sweepAccount_effect {newIds : AccountKey → PayoutIds} {account : PrepaidAccount}
    (h : sweepAccount ext now userId newIds db account = .ok db') :
    Quiet db db' ∧ Draws (· = account.key.wallet) db db' := by
  simp only [sweepAccount, withFunds, bind_eq_ok, orReject_eq_ok, pure_eq_ok] at h
  obtain ⟨mid, hclaim, amount, -, debited, hdebit, funds, hrecord, rfl⟩ := h
  have hmid := insertPayoutClaim_effect hclaim
  have hfunds : mid.funds = db.funds := by rw [← hmid]
  rw [hfunds] at hdebit
  obtain ⟨honly, hledger, -, haccount⟩ := debitAccount_cases hdebit
  have hposting := recordLedger_posts hrecord honly hledger haccount
  have hquiet : Quiet db { mid with funds := funds } := by
    rw [← hmid]
    rfl
  exact ⟨hquiet, .of_account hposting.account fun _ => rfl⟩

theorem sweepAccounts_effect {newIds : AccountKey → PayoutIds} {accounts : List PrepaidAccount}
    (hwallet : ∀ a ∈ accounts, a.key.wallet = wallet)
    (h : accounts.foldlM (sweepAccount ext now userId newIds) db = .ok db') :
    Quiet db db' ∧ Draws (· = wallet) db db' := by
  induction accounts generalizing db with
  | nil =>
    cases h
    exact ⟨.refl _, .refl _⟩
  | cons a accounts ih =>
    simp only [List.foldlM_cons, bind_eq_ok] at h
    obtain ⟨mid, hsweep, h⟩ := h
    obtain ⟨hquiet, hdraws⟩ := sweepAccount_effect hsweep
    rw [hwallet a List.mem_cons_self] at hdraws
    obtain ⟨hquiet', hdraws'⟩ := ih (fun b hb => hwallet b (List.mem_cons_of_mem _ hb)) h
    exact ⟨hquiet.trans hquiet', hdraws.trans hdraws'⟩

theorem sweeps_effect {newIds : AccountKey → PayoutIds}
    (h : wallets.foldlM (sweepWallet ext now userId newIds) db = .ok db') :
    Quiet db db' ∧ Draws (· ∈ wallets) db db' := by
  induction wallets generalizing db with
  | nil =>
    cases h
    exact ⟨.refl _, .refl _⟩
  | cons wallet wallets ih =>
    simp only [List.foldlM_cons, bind_eq_ok] at h
    obtain ⟨mid, hsweep, h⟩ := h
    have hwallet : ∀ a ∈ fundedAccounts db wallet, a.key.wallet = wallet := fun a ha =>
      (of_decide_eq_true (List.mem_filter.mp ha).2).1
    obtain ⟨hquiet, hdraws⟩ := sweepAccounts_effect hwallet hsweep
    obtain ⟨hquiet', hdraws'⟩ := ih h
    refine ⟨hquiet.trans hquiet', (hdraws.mono fun w hw => ?_).trans (hdraws'.mono fun w hw => ?_)⟩
    · exact List.mem_cons.mpr (.inl hw)
    · exact List.mem_cons_of_mem _ hw

theorem escrows_effect {newId : String → String} {calls : List OpenCall}
    (h : calls.foldlM (returnEscrow ext now userId newId) db = .ok db') :
    { db with payouts := db'.payouts } = db' := by
  induction calls generalizing db with
  | nil =>
    cases h
    rfl
  | cons call calls ih =>
    simp only [List.foldlM_cons, returnEscrow, bind_eq_ok] at h
    obtain ⟨mid, ⟨_, -, hclaim⟩, h⟩ := h
    rw [← ih h, ← insertPayoutClaim_effect hclaim]

theorem delete_effect {others : Except StoreError Unit} {ids : DeletionIds}
    (h : deleteAccount db ext now userId others ids = .ok db') :
    ∃ last, Quiet db last ∧ db' = removeUser last userId ∧
      Draws (· ∈ prepaidWallets db userId) db db' := by
  simp only [deleteAccount, bind_eq_ok, reject_eq_ok, exists_const, pure_eq_ok] at h
  obtain ⟨-, released, hrelease, _, -, refunded, hrefund, swept, hsweep, returned, hreturn, rfl⟩ := h
  obtain ⟨hquiet, hdraws⟩ := @releases_effect _ _ (· ∈ prepaidWallets db userId) _ hrelease
  obtain ⟨hquiet', hdraws'⟩ := @refunds_effect _ _ _ (· ∈ prepaidWallets db userId) _ _ hrefund
  obtain ⟨hquiet'', hdraws''⟩ := sweeps_effect hsweep
  have hreturned := escrows_effect hreturn
  refine ⟨_, (hquiet.trans hquiet').trans (hquiet''.trans ?_), rfl, fun key hlt => ?_⟩
  · rw [← hreturned]
    rfl
  · apply (hdraws.trans hdraws').trans hdraws'' key
    rw [← hreturned] at hlt
    exact hlt

end Deletion

end Obulus.Wallets
