import Mathlib.Data.List.Dedup
import Obulus.Foundation.Trace
import Obulus.Wallets.Effects

namespace Obulus.Wallets

open Foundation Store Funds

inductive Op
  | signUp (userId : String)
  | bind (userId wallet : String)
  | challenge (id userId wallet nonce : String) (ttlMs : Nat)
  | verify (userId challengeId signature : String)
  | siwxChallenge (challengeId : String) (request : SiwxRequest)
  | verifySiwx (challengeId : String) (payload : SiwxPayload)
  | upsert (userId : String) (request : UpsertProfileRequest)
  | issue (sessionId : String) (request : IssueRequest) (policy : PaymentQuotePolicy)
  | reserve (readers : InvoiceReaders) (ids : BundleIds) (tokenHash : String) (request : BundleRequest)
    (policy : PaymentQuotePolicy)
  | openCall (ids : CallIds) (ownerId : String) (request : OpenCallRequest)
    (policy : PaymentQuotePolicy)
  | withdraw (ids : PayoutIds) (userId : String) (requestedAtomic : Option String)
    (policy : PaymentQuotePolicy)
  | delete (userId : String) (others : Except StoreError Unit) (ids : DeletionIds)
  | elsewhere (funds : Funds.Database) (payShQuoteFences : List String)

structure Event where
  now : Nat
  op : Op

-- `proven` pairs a user with the wallets whose control the user has proved
structure World where
  db : Database
  proven : List (String × String)

variable {ext : Externals} {db db' : Database} {w w' start : World} {e : Event} {events : List Event}
  {proven proven' : List (String × String)} {userId wallet : String} {now : Nat}

section System

def perform (ext : Externals) (db : Database) (e : Event) : Except StoreError Database :=
  match e.op with
  | .signUp userId => signUp db userId
  | .bind userId wallet => bindWalletIdentity db e.now ext userId wallet
  | .challenge id userId wallet nonce ttlMs =>
    createWalletChallenge ext db e.now id userId wallet nonce ttlMs
  | .verify userId challengeId signature =>
    verifyWalletChallenge ext db e.now userId challengeId signature
  | .siwxChallenge challengeId request => createWalletSiwxChallenge db e.now challengeId request
  | .verifySiwx challengeId payload => verifyWalletSiwxChallenge ext db e.now challengeId payload
  | .upsert userId request => upsertProfile db e.now userId ext request
  | .issue sessionId request policy => issuePrepaidWalletSession ext db e.now sessionId request policy
  | .reserve readers ids tokenHash request policy =>
    createPaymentBundle db e.now request policy ext readers ids tokenHash
  | .openCall ids ownerId request policy => createOpenCall db ext e.now ids ownerId request policy
  | .withdraw ids userId requestedAtomic policy =>
    createPrepaidWithdrawal db ext e.now ids userId requestedAtomic policy
  | .delete userId others ids => deleteAccount db ext e.now userId others ids
  | .elsewhere funds payShQuoteFences =>
    .ok { db with
      funds := funds
      payShQuoteFences := payShQuoteFences }

-- the user and the wallet of an accepted sign-in or verification
def proves (db : Database) : Op → List (String × String)
  | .bind userId wallet => [(trim userId, trim wallet)]
  | .verify userId challengeId _ =>
    ((db.challenges.get? (trim challengeId)).map fun c => (trim userId, c.wallet)).toList
  | .verifySiwx challengeId payload =>
    ((db.siwxChallenges.get? (trim challengeId)).map fun c => (c.userId, trim payload.address)).toList
  | _ => []

def forget (op : Op) (proven : List (String × String)) : List (String × String) :=
  match op with
  | .delete userId _ _ => proven.filter fun p => decide (p.1 ≠ userId)
  | _ => proven

inductive Step (ext : Externals) (w : World) (e : Event) : World → Prop
  | ok {db' : Database} : perform ext w.db e = .ok db' →
      Step ext w e ⟨db', proves w.db e.op ++ forget e.op w.proven⟩
  | error {error : StoreError} : perform ext w.db e = .error error → Step ext w e w

-- on whose behalf an operation draws on prepaid accounts
def actor (db : Database) (e : Event) : Option String :=
  match e.op with
  | .reserve _ _ tokenHash _ _ => (requirePrepaidSession db e.now tokenHash).toOption.map Session.userId
  | .openCall _ ownerId _ _ => some (trim ownerId)
  | .withdraw _ userId _ _ => some (trim userId)
  | .delete userId _ _ => some userId
  | _ => none

def Elsewhere (e : Event) : Prop := ∃ funds fences, e.op = .elsewhere funds fences

end System

section Invariant

structure Owned (db : Database) (proven : List (String × String)) : Prop where
  sessions : ∀ s ∈ db.sessions.rows, ∃ o, db.owners.get? s.wallet = some o ∧ o.userId = s.userId
  single : ∀ s ∈ db.sessions.rows, ∀ s' ∈ db.sessions.rows, s.revokedAt = none →
    s'.revokedAt = none → s.userId = s'.userId → s = s'
  identities : ∀ i ∈ db.identities.rows, (i.userId, i.wallet) ∈ proven
  profiles : ∀ u wallet, verifiedWallet db u = some wallet → (u, wallet) ∈ proven
  owners : ∀ o ∈ db.owners.rows, (o.userId, o.wallet) ∈ proven

theorem Owned.mono (h : Owned db proven) (hproven : ∀ p ∈ proven, p ∈ proven') : Owned db proven' :=
  ⟨h.sessions, h.single, fun i hi => hproven _ (h.identities i hi),
    fun u wallet hw => hproven _ (h.profiles u wallet hw), fun o ho => hproven _ (h.owners o ho)⟩

theorem Owned.quiet (h : Owned db proven) (hquiet : Quiet db db') : Owned db' proven := by
  rw [← hquiet]
  exact ⟨h.sessions, h.single, h.identities, h.profiles, h.owners⟩

theorem Owned.holds (h : Owned db proven) (hholds : holdsIdentity db userId wallet = true) :
    (userId, wallet) ∈ proven := by
  obtain ⟨i, hi, hmatch⟩ := List.any_eq_true.mp hholds
  obtain ⟨rfl, rfl⟩ := of_decide_eq_true hmatch
  exact h.identities i hi

theorem Owned.ownedBy (h : Owned db proven) (howns : ownsWallet db userId wallet = true) :
    (userId, wallet) ∈ proven ∧ otherOwner db userId wallet = false := by
  obtain ⟨o, ho, rfl⟩ := (ownsWallet_eq_true db userId wallet).mp howns
  have hwallet := Table.get?_key ho
  subst hwallet
  refine ⟨h.owners o (Table.get?_mem ho), (otherOwner_eq_false db _ _).mpr fun o' ho' => ?_⟩
  rw [ho] at ho'
  rw [Option.some.inj ho']

-- a change of the sessions that keeps what they are of and revokes at most
structure Revokes (p : Session → Bool) (f : Session → Session) : Prop where
  user : ∀ s, (f s).userId = s.userId
  wallet : ∀ s, (f s).wallet = s.wallet
  revoked : ∀ s, s.revokedAt ≠ none → (f s).revokedAt ≠ none

theorem Revokes.ite {p : Session → Bool} {f : Session → Session} (h : Revokes p f) (s : Session) :
    (if p s then f s else s).userId = s.userId ∧ (if p s then f s else s).wallet = s.wallet ∧
      ((if p s then f s else s).revokedAt = none → s.revokedAt = none) := by
  split
  · refine ⟨h.user s, h.wallet s, fun hnone => ?_⟩
    by_contra hne
    exact h.revoked s hne hnone
  · exact ⟨rfl, rfl, id⟩

theorem Owned.revoke {p : Session → Bool} {f : Session → Session} (h : Owned db proven)
    (hf : Revokes p f) (hid : ∀ s, (f s).id = s.id) :
    Owned { db with sessions := db.sessions.update p f hid } proven := by
  have hmem : ∀ r ∈ (db.sessions.update p f hid).rows,
      ∃ s ∈ db.sessions.rows, (if p s then f s else s) = r := fun r hr => Table.mem_update.mp hr
  refine ⟨fun r hr => ?_, fun r hr r' hr' hnone hnone' huser => ?_, h.identities, h.profiles,
    h.owners⟩
  · obtain ⟨s, hs, rfl⟩ := hmem r hr
    obtain ⟨huser, hwallet, -⟩ := hf.ite s
    rw [huser, hwallet]
    exact h.sessions s hs
  · obtain ⟨s, hs, rfl⟩ := hmem r hr
    obtain ⟨s', hs', rfl⟩ := hmem r' hr'
    obtain ⟨huser₁, -, hlive₁⟩ := hf.ite s
    obtain ⟨huser₂, -, hlive₂⟩ := hf.ite s'
    rw [huser₁, huser₂] at huser
    rw [h.single s hs s' hs' (hlive₁ hnone) (hlive₂ hnone') huser]

theorem touch_revokes (tokenHash : String) :
    Revokes (fun s => decide (s.tokenHash = tokenHash)) fun s => { s with lastUsedAt := some now } :=
  ⟨fun _ => rfl, fun _ => rfl, fun _ => id⟩

theorem revoke_revokes : Revokes (fun s => decide (s.userId = userId ∧ s.revokedAt = none))
    fun s => { s with revokedAt := some now } :=
  ⟨fun _ => rfl, fun _ => rfl, fun _ _ => Option.some_ne_none _⟩

theorem mem_revokeSessions {s : Session} : s ∈ (revokeSessions db now userId).sessions.rows ↔
    ∃ r ∈ db.sessions.rows, (if decide (r.userId = userId ∧ r.revokedAt = none) = true then
      { r with revokedAt := some now } else r) = s := by
  unfold revokeSessions
  rw [Table.mem_update]

theorem revokeSessions_unrevoked {s : Session}
    (hs : s ∈ (revokeSessions db now userId).sessions.rows) (hnone : s.revokedAt = none) :
    s.userId ≠ userId ∧ s ∈ db.sessions.rows := by
  obtain ⟨r, hr, rfl⟩ := mem_revokeSessions.mp hs
  split at hnone
  · cases hnone
  · next hother =>
    rw [if_neg hother]
    simp only [decide_eq_true_eq, not_and] at hother
    exact ⟨fun huser => hother huser hnone, hr⟩

end Invariant

section Operations

theorem bind_owned (h : Owned db proven) (hbind : bindWalletIdentity db now ext userId wallet = .ok db') :
    Owned db' ((trim userId, trim wallet) :: proven) := by
  obtain ⟨-, -, t, rfl, hrows⟩ := @bind_effect _ _ _ _ _ _ (fun _ => True) hbind
  refine ⟨h.sessions, h.single, fun i hi => ?_,
    fun u w hw => List.mem_cons_of_mem _ (h.profiles u w hw),
    fun o ho => List.mem_cons_of_mem _ (h.owners o ho)⟩
  rcases hrows i hi with hold | ⟨hwallet, huser⟩
  · exact List.mem_cons_of_mem _ (h.identities i hold)
  · rw [hwallet, huser]
    exact List.mem_cons_self

theorem verifyProfile_owned (h : Owned db proven)
    (hverify : verifyProfileWallet db now userId wallet = .ok db') :
    Owned db' ((userId, wallet) :: proven) := by
  obtain ⟨-, -, mid, hquiet, rfl⟩ := @verifyProfileWallet_effect _ _ _ _ _ (fun _ => True) hverify
  have hmid := h.quiet hquiet
  refine ⟨hmid.sessions, hmid.single, fun i hi => List.mem_cons_of_mem _ (hmid.identities i hi),
    fun u w hw => ?_, fun o ho => List.mem_cons_of_mem _ (hmid.owners o ho)⟩
  unfold verifiedWallet at hw
  rw [Table.get?_update] at hw
  by_cases huser : u = userId
  · subst huser
    cases hp : mid.profiles.get? u with
    | none => simp [hp] at hw
    | some p =>
      have hkey : p.userId = u := Table.get?_key hp
      simp only [hp, Option.map_some, hkey, decide_true, if_true, Profile.verified,
        Option.isSome_some, Option.filter_some, Option.bind_some, Option.some.injEq] at hw
      rw [hw]
      exact List.mem_cons_self
  · refine List.mem_cons_of_mem _ (hmid.profiles u w ?_)
    unfold verifiedWallet
    cases hp : mid.profiles.get? u with
    | none => simp [hp] at hw
    | some p =>
      have hkey : p.userId ≠ userId := by
        rw [Table.get?_key hp]
        exact huser
      simpa [hp, hkey] using hw

theorem upsert_owned {request : UpsertProfileRequest} (h : Owned db proven)
    (hupsert : upsertProfile db now userId ext request = .ok db') : Owned db' proven := by
  obtain ⟨-, handle, chosen, verifiedAt, hholds, rfl⟩ :=
    @upsert_effect _ _ _ _ _ (fun _ => True) _ hupsert
  refine ⟨h.sessions, h.single, h.identities, fun u w hw => ?_, h.owners⟩
  unfold verifiedWallet at hw
  rw [Table.get?_put] at hw
  split at hw
  · next huser =>
    obtain ⟨p, hp, hwallet⟩ := Option.bind_eq_some_iff.mp hw
    obtain ⟨hsame, hverified⟩ := Option.filter_eq_some_iff.mp hp
    obtain rfl := Option.some.inj hsame
    obtain rfl : chosen = some w := hwallet
    have hu : trim userId = u := huser
    subst hu
    simp only [upsertedProfile, Profile.verified] at hverified
    have hnow : verifiedAt ≠ none → (trim userId, w) ∈ proven :=
      fun hne => h.holds (hholds hne w rfl)
    cases hold : db.profiles.get? (trim userId) with
    | none =>
      rw [hold] at hverified
      exact hnow (Option.isSome_iff_ne_none.mp hverified)
    | some p =>
      rw [hold] at hverified
      dsimp only at hverified
      split at hverified
      · next hkept =>
        cases hat : p.walletVerifiedAt with
        | some time =>
          have hstanding : p.verified = true := by
            rw [Profile.verified, hat]
            rfl
          refine h.profiles _ w ?_
          rw [verifiedWallet, hold, Option.filter_some, if_pos hstanding]
          exact hkept.2
        | none =>
          rw [hat, Option.none_or] at hverified
          exact hnow (Option.isSome_iff_ne_none.mp hverified)
      · exact hnow (Option.isSome_iff_ne_none.mp hverified)
  · exact h.profiles u w hw

theorem homed_owned {homed : Database} (h : Owned db proven) (hhome : Homed db homed userId wallet)
    (hproven : (userId, wallet) ∈ proven) : Owned homed proven := by
  obtain ⟨owner, howner, huser⟩ := hhome.owner
  refine ⟨fun s hs => ?_, fun s hs s' hs' => ?_, ?_, ?_, fun o ho => ?_⟩
  · obtain ⟨o, ho, hsame⟩ := h.sessions s (hhome.kept.subset hs)
    by_cases hwallet : s.wallet = wallet
    · rw [hwallet] at ho ⊢
      rcases hhome.sessions s hs hwallet with hmine | hold | hnone
      · exact ⟨owner, howner, huser.trans hmine.symm⟩
      · exact ⟨o, hold.trans ho, hsame⟩
      · rw [hnone] at ho
        cases ho
    · exact ⟨o, (hhome.others _ hwallet).trans ho, hsame⟩
  · exact h.single s (hhome.kept.subset hs) s' (hhome.kept.subset hs')
  · rw [← hhome.frame]
    exact h.identities
  · rw [← hhome.frame]
    exact h.profiles
  · have hget := Table.get?_of_mem ho
    by_cases hwallet : o.wallet = wallet
    · rw [hwallet, howner] at hget
      rw [← Option.some.inj hget, huser, Option.some.inj hget, hwallet]
      exact hproven
    · rw [hhome.others _ hwallet] at hget
      exact h.owners o (Table.get?_mem hget)

theorem issue_owned {sessionId : String} {request : IssueRequest} {policy : PaymentQuotePolicy}
    (h : Owned db proven)
    (hissue : issuePrepaidWalletSession ext db now sessionId request policy = .ok db') :
    Owned db' proven := by
  obtain ⟨-, hproves, s, homed, last, hissued⟩ := @issue_effect _ _ _ _ _ (fun _ => True) _ _ hissue
  have hproven : (trim request.userId, trim request.wallet) ∈ proven := by
    rw [provesWallet, Bool.or_eq_true, decide_eq_true_eq] at hproves
    rcases hproves with hholds | hverified
    · exact h.holds hholds
    · exact h.profiles _ _ hverified
  have hhomed := homed_owned h hissued.home hproven
  have hrevoked : Owned (revokeSessions homed now (trim request.userId)) proven :=
    hhomed.revoke revoke_revokes fun _ => rfl
  have hlast := hrevoked.quiet hissued.revoked
  have hmem : ∀ r ∈ db'.sessions.rows, r ∈ last.sessions.rows ∨ r = s := by
    intro r hr
    rw [hissued.rows] at hr
    simpa using hr
  have hothers : ∀ r ∈ last.sessions.rows, r.revokedAt = none → r.userId ≠ s.userId := by
    intro r hr hnone
    rw [← hissued.revoked] at hr
    rw [hissued.user]
    exact (revokeSessions_unrevoked hr hnone).1
  have howners : last.owners = homed.owners := by
    rw [← hissued.revoked]
    rfl
  have howned : Owned { last with sessions := db'.sessions } proven := by
    refine ⟨fun r hr => ?_, fun r hr r' hr' hnone hnone' huser => ?_, hlast.identities,
      hlast.profiles, hlast.owners⟩
    · rcases hmem r hr with hold | rfl
      · exact hlast.sessions r hold
      · obtain ⟨o, ho, huser⟩ := hissued.home.owner
        refine ⟨o, ?_, huser.trans hissued.user.symm⟩
        change last.owners.get? r.wallet = some o
        rw [howners, hissued.opens]
        exact ho
    · rcases hmem r hr with hold | rfl
      · rcases hmem r' hr' with hold' | rfl
        · exact hlast.single r hold r' hold' hnone hnone' huser
        · exact absurd huser (hothers r hold hnone)
      · rcases hmem r' hr' with hold' | rfl
        · exact absurd huser.symm (hothers r' hold' hnone')
        · rfl
  rw [← hissued.frame]
  exact ⟨howned.sessions, howned.single, howned.identities, howned.profiles, howned.owners⟩

theorem delete_owned {others : Except StoreError Unit} {ids : DeletionIds} (h : Owned db proven)
    (hdelete : deleteAccount db ext now userId others ids = .ok db') :
    Owned db' (proven.filter fun p => decide (p.1 ≠ userId)) := by
  obtain ⟨last, hquiet, rfl, -⟩ := delete_effect hdelete
  have hlast := h.quiet hquiet
  have hkept : ∀ p ∈ proven, p.1 ≠ userId → p ∈ proven.filter fun p => decide (p.1 ≠ userId) :=
    fun p hp hne => List.mem_filter.mpr ⟨hp, decide_eq_true hne⟩
  refine ⟨fun s hs => ?_, fun s hs s' hs' => ?_, fun i hi => ?_, fun u w hw => ?_, fun o ho => ?_⟩
  · obtain ⟨hs, hstays⟩ := List.mem_filter.mp hs
    obtain ⟨o, ho, huser⟩ := hlast.sessions s hs
    refine ⟨o, ?_, huser⟩
    have hget : (removeUser last userId).owners.get? s.wallet =
        (last.owners.get? s.wallet).filter fun o => !decide (o.userId = userId) := Table.get?_delete
    rw [hget, ho, Option.filter_some, huser, if_pos hstays]
  · exact hlast.single s (List.mem_filter.mp hs).1 s' (List.mem_filter.mp hs').1
  · obtain ⟨hi, hstays⟩ := List.mem_filter.mp hi
    exact hkept _ (hlast.identities i hi) (by simpa using hstays)
  · have hget : (removeUser last userId).profiles.get? u =
        (last.profiles.get? u).filter fun p => !decide (p.userId = userId) := Table.get?_delete
    rw [verifiedWallet, hget] at hw
    cases hp : last.profiles.get? u with
    | none => simp [hp] at hw
    | some p =>
      have hkey : p.userId = u := Table.get?_key hp
      by_cases huser : p.userId = userId
      · rw [hp, Option.filter_some, if_neg (by simpa using huser)] at hw
        cases hw
      · rw [hp, Option.filter_some, if_pos (by simpa using huser)] at hw
        refine hkept _ (hlast.profiles u w ?_) (hkey ▸ huser)
        rw [verifiedWallet, hp]
        exact hw
  · obtain ⟨ho, hstays⟩ := List.mem_filter.mp ho
    exact hkept _ (hlast.owners o ho) (by simpa using hstays)

end Operations

section Runs

theorem step_owned (h : Owned w.db w.proven) (hstep : Step ext w e w') : Owned w'.db w'.proven := by
  cases hstep with
  | error => exact h
  | ok hperform =>
    obtain ⟨now, op⟩ := e
    cases op with
    | signUp userId =>
      simp only [perform, signUp, bind_eq_ok, orReject_eq_ok, pure_eq_ok] at hperform
      obtain ⟨_, -, rfl⟩ := hperform
      exact ⟨h.sessions, h.single, h.identities, h.profiles, h.owners⟩
    | bind userId wallet => exact bind_owned h hperform
    | challenge id userId wallet nonce ttlMs =>
      exact h.quiet (@challenge_effect _ _ _ _ _ _ (fun _ => True) _ _ _ hperform).1
    | verify userId challengeId signature =>
      obtain ⟨challenge, mid, hget, hverify, t, rfl⟩ := verify_effect hperform
      have hmid := verifyProfile_owned h hverify
      have howned : Owned { mid with challenges := t } ((trim userId, challenge.wallet) :: w.proven) :=
        ⟨hmid.sessions, hmid.single, hmid.identities, hmid.profiles, hmid.owners⟩
      have hrevoked : Owned (revokeSessions { mid with challenges := t } now (trim userId))
          ((trim userId, challenge.wallet) :: w.proven) := howned.revoke revoke_revokes fun _ => rfl
      simpa [proves, forget, hget] using hrevoked
    | siwxChallenge challengeId request =>
      exact h.quiet (@siwxChallenge_effect _ _ _ (fun _ => True) _ _ hperform).1
    | verifySiwx challengeId payload =>
      obtain ⟨challenge, mid, hget, hverify, t, rfl⟩ := verifySiwx_effect hperform
      have hmid := verifyProfile_owned h hverify
      have howned : Owned { mid with siwxChallenges := t }
          ((challenge.userId, trim payload.address) :: w.proven) :=
        ⟨hmid.sessions, hmid.single, hmid.identities, hmid.profiles, hmid.owners⟩
      simpa [proves, forget, hget] using howned
    | upsert userId request => exact upsert_owned h hperform
    | issue sessionId request policy => exact issue_owned h hperform
    | reserve readers ids tokenHash request policy =>
      obtain ⟨s, -, hquiet, -⟩ := bundle_effect hperform
      exact (h.revoke (touch_revokes tokenHash) fun _ => rfl).quiet hquiet
    | openCall ids ownerId request policy => exact h.quiet (openCall_effect hperform).1
    | withdraw ids userId requestedAtomic policy => exact h.quiet (withdrawal_effect hperform).1
    | delete userId others ids => exact delete_owned h hperform
    | elsewhere funds payShQuoteFences =>
      cases hperform
      exact ⟨h.sessions, h.single, h.identities, h.profiles, h.owners⟩

-- the wallets whose value an operation may take
def Spendable (w : World) (e : Event) (wallet : String) : Prop :=
  ∃ userId, actor w.db e = some userId ∧ (userId, wallet) ∈ w.proven ∧
    otherOwner w.db userId wallet = false

theorem spends_proven (h : Owned db proven) (hspends : Spends db now userId wallet) :
    (userId, wallet) ∈ proven ∧ otherOwner db userId wallet = false := by
  cases hspends with
  | session s hs huser hwallet hlive =>
    obtain ⟨-, -, howns⟩ := liveSession_owns hlive
    rw [huser, hwallet] at howns
    exact h.ownedBy howns
  | identity hholds hfree => exact ⟨h.holds hholds, hfree⟩
  | profile hverified hfree => exact ⟨h.profiles _ _ hverified, hfree⟩

theorem prepaidWallets_proven (h : Owned db proven) (hwallet : wallet ∈ prepaidWallets db userId) :
    (userId, wallet) ∈ proven ∧ otherOwner db userId wallet = false := by
  simp only [prepaidWallets, List.mem_dedup, List.mem_append, List.mem_map, List.mem_filter,
    Bool.and_eq_true, decide_eq_true_eq, Bool.not_eq_true', Option.mem_toList] at hwallet
  rcases hwallet with ((⟨i, ⟨hi, rfl, hfree⟩, rfl⟩ | hprofile) | ⟨s, ⟨hs, rfl, hfree⟩, rfl⟩) |
    ⟨o, ⟨ho, rfl⟩, rfl⟩
  · exact ⟨h.identities i hi, hfree⟩
  · obtain ⟨hverified, hfree⟩ := Option.filter_eq_some_iff.mp hprofile
    exact ⟨h.profiles _ _ hverified, by simpa using hfree⟩
  · obtain ⟨o, ho, huser⟩ := h.sessions s hs
    exact h.ownedBy ((ownsWallet_eq_true db _ _).mpr ⟨o, ho, huser⟩)
  · exact h.ownedBy ((ownsWallet_eq_true db _ _).mpr ⟨o, Table.get?_of_mem ho, rfl⟩)

theorem perform_draws (h : Owned w.db w.proven) (hlisted : ¬Elsewhere e)
    (hperform : perform ext w.db e = .ok db') : Draws (Spendable w e) w.db db' := by
  obtain ⟨now, op⟩ := e
  cases op with
  | signUp userId =>
    simp only [perform, signUp, bind_eq_ok, orReject_eq_ok, pure_eq_ok] at hperform
    obtain ⟨_, -, rfl⟩ := hperform
    exact .none fun _ => rfl
  | bind userId wallet => exact (bind_effect hperform).1
  | challenge id userId wallet nonce ttlMs => exact (challenge_effect hperform).2
  | verify userId challengeId signature =>
    obtain ⟨challenge, mid, -, hverify, t, rfl⟩ := verify_effect hperform
    obtain ⟨hdraws, -, -⟩ := @verifyProfileWallet_effect _ _ _ _ _ (Spendable w _) hverify
    exact fun key hlt => hdraws key hlt
  | siwxChallenge challengeId request => exact (siwxChallenge_effect hperform).2
  | verifySiwx challengeId payload =>
    obtain ⟨challenge, mid, -, hverify, t, rfl⟩ := verifySiwx_effect hperform
    obtain ⟨hdraws, -, -⟩ := @verifyProfileWallet_effect _ _ _ _ _ (Spendable w _) hverify
    exact fun key hlt => hdraws key hlt
  | upsert userId request => exact (upsert_effect hperform).1
  | issue sessionId request policy => exact (issue_effect hperform).1
  | reserve readers ids tokenHash request policy =>
    obtain ⟨s, hs, -, hdraws⟩ := bundle_effect hperform
    obtain ⟨-, -, hlive, -⟩ := requirePrepaidSession_eq_ok hs
    refine hdraws.mono fun wallet hwallet => ⟨s.userId, ?_, ?_⟩
    · simp [actor, hs, Except.toOption]
    · rw [hwallet]
      exact h.ownedBy (liveSession_owns hlive).2.2
  | openCall ids ownerId request policy =>
    obtain ⟨-, wallet, hspends, hdraws⟩ := openCall_effect hperform
    refine hdraws.mono fun _ hwallet => ⟨trim ownerId, rfl, ?_⟩
    rw [hwallet]
    exact spends_proven h hspends
  | withdraw ids userId requestedAtomic policy =>
    obtain ⟨-, wallet, hspends, hdraws⟩ := withdrawal_effect hperform
    refine hdraws.mono fun _ hwallet => ⟨trim userId, rfl, ?_⟩
    rw [hwallet]
    exact spends_proven h hspends
  | delete userId others ids =>
    obtain ⟨-, -, -, hdraws⟩ := delete_effect hperform
    exact hdraws.mono fun wallet hwallet => ⟨userId, rfl, prepaidWallets_proven h hwallet⟩
  | elsewhere funds payShQuoteFences => exact absurd ⟨funds, payShQuoteFences, rfl⟩ hlisted

theorem adoptOwners_eq {sessions : List Session}
    (h : ∀ s ∈ sessions, (db.owners.get? s.wallet).isSome = true) : adoptOwners db sessions = db := by
  induction sessions with
  | nil => rfl
  | cons s sessions ih =>
    have hclaim : claimOwner db s.createdAt s.userId s.wallet = db := by
      rw [claimOwner, if_pos (h s List.mem_cons_self)]
    rw [adoptOwners, List.foldl_cons, hclaim]
    exact ih fun s' hs' => h s' (List.mem_cons_of_mem _ hs')

theorem owned_boots (h : Owned db proven) : backfillPrepaidWalletOwners db = .ok db := by
  have hmismatch : mismatchedOwner db = none := by
    rw [mismatchedOwner, Option.map_eq_none_iff, List.find?_eq_none]
    intro s hs
    obtain ⟨o, ho, huser⟩ := h.sessions s hs
    have howned := h.ownedBy ((ownsWallet_eq_true db _ _).mpr ⟨o, ho, huser⟩)
    simp [howned.2]
  have hshared : sharedWallet db = none := by
    rw [sharedWallet, Option.map_eq_none_iff, List.find?_eq_none]
    intro s hs hany
    obtain ⟨s', hs', hother⟩ := List.any_eq_true.mp hany
    obtain ⟨hwallet, huser⟩ := of_decide_eq_true hother
    obtain ⟨o, ho, hsame⟩ := h.sessions s hs
    obtain ⟨o', ho', hsame'⟩ := h.sessions s' hs'
    rw [hwallet, ho] at ho'
    obtain rfl := Option.some.inj ho'
    exact huser (hsame'.symm.trans hsame)
  have hadopt : adoptOwners db (db.sessions.rows.insertionSort fun s s' => s.createdAt ≤ s'.createdAt) =
      db := by
    apply adoptOwners_eq
    intro s hs
    obtain ⟨o, ho, -⟩ := h.sessions s ((List.mem_insertionSort _).mp hs)
    rw [ho]
    rfl
  simp only [backfillPrepaidWalletOwners, hshared, hmismatch, hadopt]

theorem verify_revokes {challengeId signature : String}
    (h : verifyWalletChallenge ext db now userId challengeId signature = .ok db') :
    ∀ s ∈ db'.sessions.rows, s.userId = trim userId → s.revokedAt ≠ none := by
  obtain ⟨_, _, _, _, _, rfl⟩ := verify_effect h
  intro s hs huser hnone
  exact (revokeSessions_unrevoked hs hnone).1 huser

theorem verifySiwx_keeps {challengeId : String} {payload : SiwxPayload}
    (h : verifyWalletSiwxChallenge ext db now challengeId payload = .ok db') :
    db'.sessions = db.sessions := by
  obtain ⟨challenge, mid, -, hverify, t, rfl⟩ := verifySiwx_effect h
  obtain ⟨-, -, quiet, hquiet, rfl⟩ := @verifyProfileWallet_effect _ _ _ _ _ (fun _ => True) hverify
  rw [← hquiet]

structure Guarded (ext : Externals) (w : World) : Prop where
  sessions : ∀ s ∈ w.db.sessions.rows,
    ∃ o, w.db.owners.get? s.wallet = some o ∧ o.userId = s.userId
  single : ∀ s ∈ w.db.sessions.rows, ∀ s' ∈ w.db.sessions.rows, s.revokedAt = none →
    s'.revokedAt = none → s.userId = s'.userId → s = s'
  owners : ∀ o ∈ w.db.owners.rows, (o.userId, o.wallet) ∈ w.proven
  boots : backfillPrepaidWalletOwners w.db = .ok w.db
  draws : ∀ e db', ¬Elsewhere e → perform ext w.db e = .ok db' → Draws (Spendable w e) w.db db'
  revokes : ∀ now userId challengeId signature db',
    verifyWalletChallenge ext w.db now userId challengeId signature = .ok db' →
      ∀ s ∈ db'.sessions.rows, s.userId = trim userId → s.revokedAt ≠ none
  leaves : ∀ now challengeId payload db',
    verifyWalletSiwxChallenge ext w.db now challengeId payload = .ok db' →
      db'.sessions = w.db.sessions

structure Opening (w : World) : Prop where
  identities : w.db.identities = .empty
  profiles : w.db.profiles = .empty
  owners : w.db.owners = .empty
  sessions : w.db.sessions = .empty

theorem Opening.owned (h : Opening w) : Owned w.db w.proven := by
  refine ⟨?_, ?_, ?_, ?_, ?_⟩
  · rw [h.sessions]
    exact fun s hs => absurd hs List.not_mem_nil
  · rw [h.sessions]
    exact fun s hs => absurd hs List.not_mem_nil
  · rw [h.identities]
    exact fun i hi => absurd hi List.not_mem_nil
  · intro u wallet hverified
    rw [verifiedWallet, h.profiles] at hverified
    cases hverified
  · rw [h.owners]
    exact fun o ho => absurd ho List.not_mem_nil

theorem run_owned (h : Owned start.db start.proven) (hrun : Trace (Step ext) start events w) :
    Owned w.db w.proven := by
  induction hrun with
  | nil => exact h
  | snoc _ hstep ih => exact step_owned ih hstep

theorem wallets_guarded (hstart : Opening start) (hrun : Trace (Step ext) start events w) :
    Guarded ext w := by
  have howned := run_owned hstart.owned hrun
  exact ⟨howned.sessions, howned.single, howned.owners, owned_boots howned,
    fun _ _ => perform_draws howned, fun _ _ _ _ _ => verify_revokes,
    fun _ _ _ _ => verifySiwx_keeps⟩

end Runs

section Sample

def accept (ext : Externals) (w : World) (e : Event) : Option World :=
  (perform ext w.db e).toOption.map fun db => ⟨db, proves w.db e.op ++ forget e.op w.proven⟩

theorem accept_trace (h : runWith (accept ext) w events = some w') : Trace (Step ext) w events w' := by
  apply runWith_trace _ h
  intro w e w' haccept
  obtain ⟨db', hperform, rfl⟩ := Option.map_eq_some_iff.mp haccept
  exact .ok (toOption_eq_some.mp hperform)

def sampleWallet : String := "AKnL4NNf3DGWZJS6cPknBuEGnVsV4A4m5tgebLHaRSZ9"

def sampleTreasury : String := "9hSR6S7WPtxmTojgo6GG3k4yDPecgJY292j7xrsUGWBu"

def sampleToken : String := String.ofList (List.replicate 64 'a')

-- of the key of `sampleWallet`, over the message of the challenge below
def sampleSignature : String :=
  "53hFxXNirUydPKuGoxwNj6TQ8jYwyDXGxSNuZ1ckgAdz89xSgjmsprLDtXpu9MGHthbjEbQcxksB2kB959o6zSVm"

def sampleExternals : Externals where
  encoding := .standard
  sha256Hex text := text
  ed25519Key key := decide (key.length = 32)
  verifyStrict key _ signature := decide (key.length = 32 ∧ signature.length = 64)

def samplePolicy : PaymentQuotePolicy where
  network := "solana"
  asset := "USDC"
  krwPerUsdc := 1350
  ttlMs := 900000
  fallbackRecipient := none
  bundleRecipient := some sampleTreasury

def sampleAccount : AccountKey := ⟨sampleWallet, sampleTreasury, "solana", "USDC"⟩

def sampleProfile : UpsertProfileRequest where
  handle := "alice"
  ageBand := "25-34"
  region := "seoul"
  household := "alone"
  field := "food"
  years := "1-3"
  speaksTo := ["food"]
  wallet := none
  avatarJson := none

def sampleFunds : Funds.Database where
  queries := []
  documents := .empty
  memoryEntries := .empty
  paymentQuotes := .empty
  bundleQuotes := .empty
  bundleDocuments := .empty
  fundingQuotes := .empty
  openCalls := .empty
  settlements := .empty
  earningEvents := .empty
  chainSettlements := .empty
  bundleChainSettlements := .empty
  openCallChainSettlements := .empty
  transactionRegistry := .empty
  paymentAttempts := .empty
  prepaidAccounts := .empty
  prepaidLedger := .empty
  recoveryHolds := []

def sampleStart : World where
  db :=
    { users := .empty
      identities := .empty
      profiles := .empty
      owners := .empty
      sessions := .empty
      challenges := .empty
      siwxChallenges := .empty
      payouts := .empty
      payShQuoteFences := []
      funds := sampleFunds }
  proven := []

def aliceOpens : List Event :=
  [⟨1000, .signUp "alice"⟩, ⟨2000, .bind "alice" sampleWallet⟩,
    ⟨3000, .issue "session" ⟨"alice", sampleWallet, sampleToken, 3600000⟩ samplePolicy⟩]

def aliceTopsUp : Event :=
  ⟨3500, .elsewhere { sampleFunds with prepaidAccounts := ⟨[⟨sampleAccount, 500⟩], by simp⟩ } []⟩

def aliceWithdraws : Event :=
  ⟨4000, .withdraw ⟨"payout", "withdrawal"⟩ "alice" (some "200") samplePolicy⟩

def aliceVerifies : List Event :=
  [⟨5000, .upsert "alice" sampleProfile⟩,
    ⟨5000, .challenge "challenge" "alice" sampleWallet sampleToken 60000⟩,
    ⟨6000, .verify "alice" "challenge" sampleSignature⟩]

theorem wallets_guarded_sample : ∃ w, Trace (Step sampleExternals) sampleStart
      (aliceOpens ++ [aliceTopsUp, aliceWithdraws] ++ aliceVerifies) w ∧
    prepaidAvailable w.db.funds sampleAccount = 300 ∧
    (w.db.sessions.get? "session").any (fun s => decide (s.revokedAt = some 6000)) = true ∧
    verifiedWallet w.db "alice" = some sampleWallet ∧ Guarded sampleExternals w := by
  have hrun : (runWith (accept sampleExternals) sampleStart
      (aliceOpens ++ [aliceTopsUp, aliceWithdraws] ++ aliceVerifies)).any (fun w =>
        decide (prepaidAvailable w.db.funds sampleAccount = 300) &&
        (w.db.sessions.get? "session").any (fun s => decide (s.revokedAt = some 6000)) &&
        decide (verifiedWallet w.db "alice" = some sampleWallet)) = true := by
    decide +kernel
  obtain ⟨w, hw, hafter⟩ := (Option.any_eq_true _ _).mp hrun
  simp only [Bool.and_eq_true, decide_eq_true_eq] at hafter
  have htrace := accept_trace hw
  exact ⟨w, htrace, hafter.1.1, hafter.1.2, hafter.2, wallets_guarded ⟨rfl, rfl, rfl, rfl⟩ htrace⟩

end Sample

end Obulus.Wallets
