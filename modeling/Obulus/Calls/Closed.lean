import Obulus.Calls.Slots

namespace Obulus.Calls

open Foundation Store Funds

variable {app : Appraisal} {db db' : Database} {call : StoredCall} {ids : AnswerIds}
  {reflections : List Reflection} {request : AnswerRequest} {payout : Option OnchainPayout}
  {interview : List InterviewResponse} {now createdAt : Nat}

section Closed

-- a transaction that fails is dropped, with every row of every table as it was
def committed (db : Database) : Except StoreError Database → Database
  | .ok db' => db'
  | .error _ => db

structure Refused (db : Database) (result : Except StoreError Database) : Prop where
  failed : ∃ e, result = .error e
  unchanged : committed db result = db

theorem refused_iff {result : Except StoreError Database} :
    Refused db result ↔ ∀ db', result ≠ .ok db' := by
  cases result with
  | ok db' =>
    refine ⟨fun h => ?_, fun h => absurd rfl (h db')⟩
    obtain ⟨⟨e, he⟩, -⟩ := h
    cases he
  | error e => exact ⟨fun _ => nofun, fun _ => ⟨⟨e, rfl⟩, rfl⟩⟩

-- the contributor's texts are in order
structure WellFormed (request : AnswerRequest) : Prop where
  user : request.user ≠ ""
  answer : trim request.answer ≠ ""
  short : request.answer.length ≤ 10000
  interview : ∃ turns, validateInterviewResponses request.interview = .ok turns

-- the contributor can be paid for an answer to this call
def Payable (app : Appraisal) (call : StoredCall) (profile : UserProfile) : Prop :=
  call.escrowMode = .x402SolanaEscrow →
    (payoutWallet app profile).isSome = true ∧ ∃ amount, openCallAnswerAtomic call = .ok amount

-- every check before the appraisal passes
structure Examined (app : Appraisal) (db : Database) (now : Nat) (request : AnswerRequest)
    (call : StoredCall) : Prop where
  texts : WellFormed request
  unsuspended : strikes db request.user < strikeLimit
  stranger : call.ownerId ≠ request.user
  profile : ∃ profile, loadProfile db request.user = some profile ∧ Payable app call profile ∧
    profileMatches profile call.filters = true
  room : call.answered < call.target
  first : alreadyAnswered db request.openCallId request.user = false
  clock : now ≤ i64Max
  slot : ownsReservation (deleteExpired db now) now request.openCallId request.user = true ∨
    activeOfOthers (deleteExpired db now) now request.openCallId request.user <
      call.target - call.answered

structure PoorAnswer (app : Appraisal) (db : Database) (ids : AnswerIds) (now createdAt : Nat)
    (request : AnswerRequest) (call : StoredCall) : Prop where
  examined : Examined app db now request call
  poor : answerIssues app db request call ≠ []
  clock : createdAt ≤ i64Max
  fresh : db.memoryEntries.get? ids.memory = none

theorem checkAnswer_ok : (∃ turns, checkAnswer request = .ok turns) ↔ WellFormed request := by
  simp only [checkAnswer, bind_eq_ok, reject_eq_ok, exists_const, not_lt]
  constructor
  · rintro ⟨turns, huser, hanswer, hshort, hinterview⟩
    exact ⟨huser, hanswer, hshort, turns, hinterview⟩
  · rintro ⟨huser, hanswer, hshort, turns, hinterview⟩
    exact ⟨turns, huser, hanswer, hshort, hinterview⟩

theorem onchainPayout_ok {profile : UserProfile} {error : StoreError} :
    (∃ payout, onchainPayout app call profile error = .ok payout) ↔ Payable app call profile := by
  unfold onchainPayout Payable
  split
  · next hmode =>
    simp only [bind_eq_ok, orReject_eq_ok, pure_eq_ok, hmode, forall_const, Option.isSome_iff_exists]
    constructor
    · rintro ⟨_, wallet, hwallet, amount, hamount, -⟩
      exact ⟨⟨wallet, hwallet⟩, amount, hamount⟩
    · rintro ⟨⟨wallet, hwallet⟩, amount, hamount⟩
      exact ⟨_, wallet, hwallet, amount, hamount, rfl⟩
  · next hmode => exact ⟨fun _ h => absurd h hmode, fun _ => ⟨none, rfl⟩⟩

theorem accept_takes
    (h : acceptAnswer app db ids reflections createdAt request call payout interview = .ok db')
    (hcall : db.openCalls.get? request.openCallId = some call) : takesAnswers call = true := by
  simp only [acceptAnswer, bind_eq_ok, asI64_eq_ok, reject_eq_ok, exists_const, pure_eq_ok] at h
  obtain ⟨_, -, time, -, -, _, hdraw, -⟩ := h
  obtain ⟨row, remaining, hdrawn⟩ := drawEscrow_drawn hdraw
  obtain ⟨documents, hdocuments⟩ := @insertDocument_frame db (answerDocument app ids time request call)
  rw [← hdocuments] at hdrawn
  have hrow : db.openCalls.get? call.id = some row := hdrawn.held
  rw [call_key hcall, hcall, Option.some.injEq] at hrow
  subst hrow
  exact hdrawn.open'

theorem admission_ok (hcall : db.openCalls.get? request.openCallId = some call)
    (h : admission app db request = .ok (call, payout)) (htexts : WellFormed request)
    (hclock : now ≤ i64Max)
    (hslot : ¬(ownsReservation (deleteExpired db now) now request.openCallId request.user = false ∧
      call.target - call.answered ≤
        activeOfOthers (deleteExpired db now) now request.openCallId request.user)) :
    Examined app db now request call := by
  simp only [admission, bind_eq_ok, loadCall_eq_ok, reject_eq_ok, orReject_eq_ok, exists_const,
    pure_eq_ok, not_le] at h
  obtain ⟨hstrikes, row, hrow, howner, profile, hprofile, paid, hpayout, hmatches, hroom, hfirst,
    -⟩ := h
  rw [hcall, Option.some.injEq] at hrow
  subst hrow
  refine ⟨htexts, hstrikes, howner, ⟨profile, hprofile, onchainPayout_ok.mp ⟨paid, hpayout⟩,
    Bool.not_eq_false _ ▸ hmatches⟩, hroom, Bool.not_eq_true _ ▸ hfirst, hclock, ?_⟩
  rw [not_and_or, not_le, Bool.not_eq_false] at hslot
  exact hslot

theorem submit_poor (hcall : db.openCalls.get? request.openCallId = some call)
    (hclosed : call.status = .cancelled ∨ call.status = .filled)
    (h : submitAnswerWithInterview app db ids reflections now createdAt request = .ok db') :
    PoorAnswer app db ids now createdAt request call := by
  simp only [submitAnswerWithInterview, submitTo, bind_eq_ok, asI64_eq_ok, reject_eq_ok,
    exists_const, pure_eq_ok] at h
  obtain ⟨turns, htexts, ⟨row, payout⟩, hadmission, time, ⟨hclock, htime⟩, hslot, mid, hrecord,
    -⟩ := h
  subst htime
  have hrow : row = call := by
    simp only [admission, bind_eq_ok, loadCall_eq_ok, pure_eq_ok, Prod.mk.injEq] at hadmission
    obtain ⟨_, _, _, hget, _, _, _, _, _, _, _, _, _, _, _, _, rfl, -⟩ := hadmission
    exact Option.some.inj (hget.symm.trans hcall)
  subst hrow
  have hexamined := admission_ok hcall hadmission (checkAnswer_ok.mp ⟨turns, htexts⟩) hclock hslot
  unfold recordAnswer at hrecord
  split at hrecord
  · have htakes := accept_takes hrecord hcall
    have hopen := (takesAnswers_iff.mp htakes).1
    rw [hopen] at hclosed
    rcases hclosed with hclosed | hclosed <;> cases hclosed
  · next hpoor =>
    simp only [voidAnswer, bind_eq_ok, asI64_eq_ok, insertMemory_eq_ok] at hrecord
    obtain ⟨_, ⟨htime, -⟩, entries, hentries, -⟩ := hrecord
    exact ⟨hexamined, hpoor, htime, (Table.insert?_eq_some.mp hentries).1⟩

theorem poor_submitted (hcall : db.openCalls.get? request.openCallId = some call)
    (h : PoorAnswer app db ids now createdAt request call) :
    ∃ db', submitAnswerWithInterview app db ids reflections now createdAt request = .ok db' := by
  obtain ⟨⟨htexts, hstrikes, howner, ⟨profile, hprofile, hpayable, hmatches⟩, hroom, hfirst, hnow,
    hslot⟩, hpoor, htime, hfresh⟩ := h
  obtain ⟨turns, hturns⟩ := checkAnswer_ok.mpr htexts
  obtain ⟨payout, hpayout⟩ := onchainPayout_ok.mpr hpayable
  obtain ⟨entries, hentries⟩ : ∃ t, db.memoryEntries.insert?
      (answerEntry ids createdAt request call turns (answerIssues app db request call)) = some t :=
    ⟨_, Table.put_eq_insert? hfresh⟩
  have hadmission : admission app db request = .ok (call, payout) := by
    simp only [admission, bind_eq_ok, loadCall_eq_ok, reject_eq_ok, orReject_eq_ok, exists_const,
      pure_eq_ok, not_le]
    refine ⟨hstrikes, call, hcall, howner, profile, hprofile, payout, hpayout, ?_, hroom, ?_, rfl⟩
    · rw [hmatches]
      intro hfalse
      cases hfalse
    · rw [hfirst]
      intro htrue
      cases htrue
  have hrecord : ∃ mid, recordAnswer app (deleteExpired db now) ids reflections createdAt request call
      payout turns = .ok mid := by
    have hpoor' : answerIssues app (deleteExpired db now) request call ≠ [] := hpoor
    rw [recordAnswer, if_neg hpoor']
    simp only [voidAnswer, bind_eq_ok, asI64_eq_ok, insertMemory_eq_ok]
    exact ⟨_, createdAt, ⟨htime, rfl⟩, entries, hentries, rfl⟩
  obtain ⟨mid, hmid⟩ := hrecord
  simp only [submitAnswerWithInterview, submitTo, bind_eq_ok, asI64_eq_ok, reject_eq_ok,
    exists_const, pure_eq_ok]
  refine ⟨_, turns, hturns, (call, payout), hadmission, now, ⟨hnow, rfl⟩, ?_, mid, hmid, rfl⟩
  rw [not_and_or, not_le, Bool.not_eq_false]
  exact hslot

theorem closed_refuses_iff (hcall : db.openCalls.get? request.openCallId = some call)
    (hclosed : call.status = .cancelled ∨ call.status = .filled) :
    Refused db (submitAnswerWithInterview app db ids reflections now createdAt request) ↔
      ¬PoorAnswer app db ids now createdAt request call := by
  rw [refused_iff]
  constructor
  · intro h hpoor
    obtain ⟨db', hdb'⟩ := poor_submitted hcall hpoor
    exact h db' hdb'
  · intro h db' hdb'
    exact h (submit_poor hcall hclosed hdb')

end Closed

section Samples

-- what `assess` says of a short answer without particulars
def briefIssues : List AnswerIssue :=
  [⟨"Low-effort answers", "Too short to be a document. Nobody buys one line, and the buyer is charged for every opened answer."⟩,
    ⟨"Low-effort answers", "No place, time, price, or number appears in the answer. Those lived details are the part worth paying for."⟩]

def strictAppraisal : Appraisal :=
  { sampleAppraisal with assess := fun _ answer => if answer = "somewhere nice" then briefIssues else [] }

def cancelledCall : StoredCall :=
  { sampleCall with
    status := .cancelled
    escrowRemainingKrw := 0
    escrowRemainingAtomic := some 0 }

def cancelledDatabase : Database :=
  { sampleDatabase with
    openCalls := ⟨[cancelledCall], by simp⟩
    memoryEntries := .empty
    disputes := .empty }

def briefRequest : AnswerRequest := ⟨"call", "bob", "somewhere nice", []⟩

def briefAnswer : Except StoreError Database :=
  submitAnswerWithInterview strictAppraisal cancelledDatabase sampleIds [] 2000 2000 briefRequest

theorem cancelled_call_strikes :
    cancelledDatabase.openCalls.get? briefRequest.openCallId = some cancelledCall ∧
      cancelledCall.status = .cancelled ∧
      strikes cancelledDatabase "bob" = 0 ∧
      (∃ db', briefAnswer = .ok db' ∧ strikes db' "bob" = 1) ∧
      ¬Refused cancelledDatabase briefAnswer := by
  have hrun : briefAnswer.toOption.any (fun db' => decide (strikes db' "bob" = 1)) = true := by
    decide +kernel
  obtain ⟨db', hdb', hstrikes⟩ := (Option.any_eq_true _ _).mp hrun
  have hok := toOption_eq_some.mp hdb'
  refine ⟨by decide, rfl, by decide, ⟨db', hok, of_decide_eq_true hstrikes⟩, fun h => ?_⟩
  exact refused_iff.mp h db' hok

def bobDetails : AnswerRequest := ⟨"call", "bob", sampleAnswer, []⟩

theorem closed_refuses_iff_sample :
    Refused cancelledDatabase
      (submitAnswerWithInterview strictAppraisal cancelledDatabase sampleIds [] 2000 2000
        bobDetails) := by
  have hiff : Refused cancelledDatabase (submitAnswerWithInterview strictAppraisal
      cancelledDatabase sampleIds [] 2000 2000 bobDetails) ↔
      ¬PoorAnswer strictAppraisal cancelledDatabase sampleIds 2000 2000 bobDetails cancelledCall :=
    closed_refuses_iff (by decide) (.inl rfl)
  refine hiff.mpr fun h => ?_
  have hpoor : answerIssues strictAppraisal cancelledDatabase bobDetails cancelledCall = [] := by
    decide
  exact h.poor hpoor

end Samples

end Obulus.Calls
