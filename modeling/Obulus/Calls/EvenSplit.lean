import Obulus.Calls.EscrowKept
import Mathlib.Algebra.Order.BigOperators.Group.List
import Mathlib.Algebra.Order.Floor.Semifield
import Mathlib.Data.List.Forall2
import Mathlib.Data.Nat.Cast.Order.Field
import Mathlib.Data.Rat.Floor
import Mathlib.Tactic.Linarith

namespace Obulus.Calls.Funding

open Foundation Store Funds

variable {app : Appraisal} {ext : Externals} {db db' start : Database} {call : StoredCall}
  {ids : AnswerIds} {reflections : List Reflection} {request : AnswerRequest}
  {payout : Option OnchainPayout} {interview : List InterviewResponse} {now createdAt total : Nat}
  {callId userId : String} {payments : List Nat} {events : List (Option Event)}

section Refusals

def exhaustedErrors : List StoreError :=
  [.conflict "open-call escrow is exhausted",
    .conflict "open-call on-chain escrow is exhausted",
    .conflict "this open call is already full or its escrow is exhausted",
    .conflict "the original call no longer has enough escrow",
    .conflict "the funded call no longer has enough escrow"]

-- the refusal, if any, is for another reason than the escrow
def Covered (error : StoreError) : Prop := error ∉ exhaustedErrors

theorem covered_routine : Routine Covered := by
  constructor <;> intros <;> simp [Covered, exhaustedErrors]

structure Affords (call : StoredCall) : Prop where
  takes : takesAnswers call = true
  mode : call.escrowMode = .x402SolanaEscrow
  krw : call.unitPriceKrw ≤ call.escrowRemainingKrw
  atomic : ∃ amount left, openCallAnswerAtomic call = .ok amount ∧
    call.escrowRemainingAtomic = some left ∧ amount ≤ left

theorem Kept.affords (h : Kept payments call total) (htakes : takesAnswers call = true)
    (hmode : call.escrowMode = .x402SolanaEscrow) (hfunded : call.target ≤ total) : Affords call := by
  obtain ⟨hopened, hroom⟩ := takesAnswers_iff.mp htakes
  have hlive : call.status ≠ .cancelled := by
    rw [hopened]
    exact nofun
  refine ⟨htakes, hmode, ?_, _, _, h.answerAtomic htakes hfunded, h.left hlive, ?_⟩
  · rw [h.krw hlive]
    exact Nat.le_mul_of_pos_right _ (by omega)
  · rw [evenRest_succ hroom, List.sum_cons]
    exact Nat.le_add_right _ _

theorem Affords.owed (h : Affords call) (howed : Owed call payout) : ∃ p left, payout = some p ∧
    call.escrowRemainingAtomic = some left ∧ p.payoutAtomic ≤ left := by
  obtain ⟨p, hp, hamount⟩ := howed.onchain h.mode
  obtain ⟨amount, left, hdue, hleft, hle⟩ := h.atomic
  rw [hdue, Except.ok.injEq] at hamount
  exact ⟨p, left, hp, hleft, hamount ▸ hle⟩

theorem Affords.draw {errors : DrawErrors} (h : Affords call) (howed : Owed call payout)
    (hget : db.openCalls.get? call.id = some call) :
    Raises Covered (drawEscrow db call errors payout) := by
  obtain ⟨p, left, rfl, hleft, hle⟩ := h.owed howed
  refine Raises.bind (asI64_raises covered_routine) fun amount hamount => ?_
  rw [asI64_eq_ok] at hamount
  obtain ⟨-, rfl⟩ := hamount
  refine (raises_orReject fun hnone => ?_).bind fun _ _ => raises_ok
  have hkrw := h.krw
  simp [hget, h.takes, hleft, hle, hkrw] at hnone

theorem Affords.wallet {profile : UserProfile} {error : StoreError} (h : Affords call)
    (herror : Covered error) : Raises Covered (onchainPayout app call profile error) := by
  obtain ⟨amount, left, hdue, -⟩ := h.atomic
  rw [onchainPayout, if_pos h.mode]
  refine (raises_orReject fun _ => herror).bind fun _ _ => ?_
  rw [hdue]
  exact raises_ok

theorem Affords.matchPayout {profile : UserProfile} (h : Affords call) :
    Raises Covered (matchPayout app call profile) := by
  obtain ⟨amount, left, hdue, -⟩ := h.atomic
  rw [Calls.matchPayout, if_pos h.mode]
  split
  · exact raises_ok
  · rw [hdue]
    exact raises_ok

theorem Affords.record (h : Affords call) (howed : Owed call payout)
    (hget : db.openCalls.get? call.id = some call) :
    Raises Covered
      (recordAnswer app db ids reflections createdAt request call payout interview) := by
  unfold recordAnswer
  split
  · refine Raises.bind (asI64_raises covered_routine) fun krw hkrw => ?_
    refine Raises.bind (asI64_raises covered_routine) fun time _ => ?_
    rw [asI64_eq_ok] at hkrw
    refine (raises_reject fun hpoor => ?_).bind fun _ _ => ?_
    · have henough := h.krw
      rw [hkrw.2] at hpoor
      omega
    obtain ⟨documents, hdocuments⟩ := @insertDocument_frame db
      (answerDocument app ids time request call)
    have hget' : (insertDocument db (answerDocument app ids time request call)).openCalls.get?
        call.id = some call := by
      rw [← hdocuments]
      exact hget
    refine (h.draw howed hget').bind fun _ _ => ?_
    refine (insertMemory_raises covered_routine).bind fun _ _ => ?_
    refine (insertReflections_raises covered_routine).bind fun _ _ => ?_
    exact (payAnswer_raises covered_routine).bind fun _ _ => raises_ok
  · exact (asI64_raises covered_routine).bind fun _ _ => insertMemory_raises covered_routine

theorem Affords.admission (h : Affords call)
    (hcall : db.openCalls.get? request.openCallId = some call) :
    Raises Covered (admission app db request) := by
  refine (raises_reject fun _ => by simp [Covered, exhaustedErrors]).bind fun _ _ => ?_
  refine (raises_orReject fun _ => covered_routine.notFound _).bind fun loaded hloaded => ?_
  obtain rfl : call = loaded := by
    rw [orReject_eq_ok, hcall, Option.some.injEq] at hloaded
    exact hloaded
  refine (raises_reject fun _ => by simp [Covered, exhaustedErrors]).bind fun _ _ => ?_
  refine (raises_orReject fun _ => by simp [Covered, exhaustedErrors]).bind fun _ _ => ?_
  refine (h.wallet (by simp [Covered, exhaustedErrors])).bind fun _ _ => ?_
  refine (raises_reject fun _ => by simp [Covered, exhaustedErrors]).bind fun _ _ => ?_
  refine (raises_reject fun _ => by simp [Covered, exhaustedErrors]).bind fun _ _ => ?_
  exact (raises_reject fun _ => by simp [Covered, exhaustedErrors]).bind fun _ _ => raises_ok

theorem Affords.submit (h : Affords call)
    (hcall : db.openCalls.get? request.openCallId = some call) :
    Raises Covered (submitAnswerWithInterview app db ids reflections now createdAt request) := by
  refine (checkAnswer_raises covered_routine).bind fun interview _ => ?_
  refine (h.admission hcall).bind ?_
  rintro ⟨loaded, payout⟩ hadmit
  simp only [Calls.admission, bind_eq_ok, loadCall_eq_ok, reject_eq_ok, exists_const, pure_eq_ok,
    Prod.mk.injEq] at hadmit
  obtain ⟨-, loaded', hloaded, -, profile, -, paid, hpayout, -, -, -, rfl, rfl⟩ := hadmit
  rw [hcall, Option.some.injEq] at hloaded
  subst hloaded
  refine Raises.bind (asI64_raises covered_routine) fun time _ => ?_
  refine (raises_reject fun _ => by simp [Covered, exhaustedErrors]).bind fun _ _ => ?_
  refine Raises.bind ?_ fun _ _ => raises_ok
  apply h.record (onchainPayout_owed hpayout)
  rw [call_key hcall]
  exact hcall

theorem Affords.candidate {matchIds : String → AnswerIds} (h : Affords call)
    (hcall : db.openCalls.get? callId = some call) :
    Raises Covered (matchCandidate app db now matchIds callId call userId) := by
  unfold matchCandidate
  split
  · exact raises_ok
  · refine (raises_reject fun hpoor => ?_).bind fun _ _ => ?_
    · have henough := h.krw
      omega
    refine h.matchPayout.bind fun payout hpayout => ?_
    cases payout with
    | none => exact raises_ok
    | some payout =>
      refine (h.draw (matchPayout_owed hpayout) (call_key hcall ▸ hcall)).bind fun _ _ => ?_
      refine Raises.bind (asI64_raises covered_routine) fun _ _ => ?_
      refine Raises.bind (asI64_raises covered_routine) fun _ _ => ?_
      refine (insertMemory_raises covered_routine).bind fun _ _ => ?_
      exact (payAnswer_raises covered_routine).bind fun _ _ => raises_ok

-- a funded call with at least one unit for each of its answers
structure Solvent (db : Database) (callId : String) : Prop where
  kept : EscrowKept db
  funded : ∃ call total, onchain db callId = some call ∧ call.escrowTotalAtomic = some total ∧
    call.target ≤ total

theorem Solvent.affords (h : Solvent db callId) (hcall : db.openCalls.get? callId = some call)
    (htakes : takesAnswers call = true) : Affords call := by
  obtain ⟨row, total, hrow, htotal, hle⟩ := h.funded
  obtain ⟨total', hkept⟩ := h.kept.calls callId row hrow
  obtain ⟨hget, hmode⟩ := onchain_eq_some.mp hrow
  obtain rfl : row = call := Option.some.inj (hget.symm.trans hcall)
  obtain rfl : total' = total := Option.some.inj (hkept.funded.symm.trans htotal)
  exact hkept.affords htakes hmode hle

theorem Solvent.candidate {matchIds : String → AnswerIds} (h : Solvent db callId)
    (hcall : db.openCalls.get? callId = some call)
    (hmatch : matchCandidate app db now matchIds callId call userId = .ok db') :
    Solvent db' callId := by
  rcases match_effect hcall hmatch with rfl | ⟨payout, howed, hanswered⟩
  · exact h
  · refine ⟨h.kept.answered hanswered howed, ?_⟩
    obtain ⟨row, total, hrow, htotal, hle⟩ := h.funded
    obtain ⟨hget, hmode⟩ := onchain_eq_some.mp hrow
    obtain rfl : row = call := Option.some.inj (hget.symm.trans hcall)
    obtain ⟨remaining, hput, -⟩ := hanswered.calls
    refine ⟨counted row remaining, total, ?_, htotal, hle⟩
    rw [onchain_eq_some, hput, Table.get?_put]
    exact ⟨if_pos (call_key hcall), hmode⟩

theorem Solvent.pass {matchIds : String → AnswerIds} {candidates : List String}
    (h : Solvent db callId) : Raises Covered (agentPass app now matchIds callId db candidates) := by
  induction candidates generalizing db with
  | nil => exact raises_ok
  | cons userId rest ih =>
    refine (raises_orReject fun _ => covered_routine.notFound _).bind fun call hcall => ?_
    rw [orReject_eq_ok] at hcall
    split
    · exact raises_ok
    · next htakes =>
      rw [Bool.not_eq_false] at htakes
      refine ((h.affords hcall htakes).candidate hcall).bind fun matched hmatch => ?_
      exact ih (h.candidate hcall hmatch)

theorem Affords.review {reviewerId memoryId : String} {review : ReviewDisputeRequest}
    {m : MemoryEntry} (h : Affords call) (hcall : db.openCalls.get? callId = some call)
    (hmemory : db.memoryEntries.get? memoryId = some m) (hfor : m.openCallId = some callId) :
    Raises Covered (reviewDispute app db ids now reviewerId memoryId review) := by
  refine (raises_reject fun _ => by simp [Covered, exhaustedErrors]).bind fun _ _ => ?_
  refine Raises.bind ?_ fun _ _ => ?_
  · refine (raises_reject fun _ => covered_routine.validation _).bind fun _ _ => ?_
    exact raises_reject fun _ => covered_routine.validation _
  refine (raises_orReject fun _ => covered_routine.notFound _).bind fun dispute _ => ?_
  refine (raises_reject fun _ => by simp [Covered, exhaustedErrors]).bind fun _ _ => ?_
  refine Raises.bind ?_ fun _ _ => ?_
  · unfold decideDispute
    split
    · refine (raises_orReject fun _ => covered_routine.notFound _).bind ?_
      rintro ⟨m', callId'⟩ hdisputed
      simp only [orReject_eq_ok, disputedMemory, Option.bind_eq_some_iff,
        Option.filter_eq_some_iff, Option.map_eq_some_iff, Prod.mk.injEq] at hdisputed
      obtain ⟨m'', ⟨hm, -⟩, callId'', ⟨hcallId, -⟩, rfl, rfl⟩ := hdisputed
      obtain rfl : m = m'' := Option.some.inj (hmemory.symm.trans hm)
      obtain rfl : callId = callId'' := Option.some.inj (hfor.symm.trans hcallId)
      refine (raises_orReject fun _ => covered_routine.notFound _).bind fun loaded hloaded => ?_
      rw [orReject_eq_ok] at hloaded
      obtain rfl : call = loaded := Option.some.inj (hcall.symm.trans hloaded)
      refine (raises_reject fun _ => by simp [Covered, exhaustedErrors]).bind fun _ _ => ?_
      refine (raises_reject fun hpoor => ?_).bind fun _ _ => ?_
      · have henough := h.krw
        omega
      refine (raises_orReject fun _ => covered_routine.notFound _).bind fun _ _ => ?_
      refine (h.wallet (by simp [Covered, exhaustedErrors])).bind fun payout hpayout => ?_
      refine Raises.bind (asI64_raises covered_routine) fun krw _ => ?_
      obtain ⟨documents, hdocuments⟩ := @insertDocument_frame db (restoredDocument app ids m call)
      have hget : (restoreMemory (insertDocument db (restoredDocument app ids m call)) ids memoryId
          krw).openCalls.get? call.id = some call := by
        rw [← hdocuments, call_key hcall]
        exact hcall
      refine (h.draw (onchainPayout_owed hpayout) hget).bind fun _ _ => ?_
      exact payAnswer_raises covered_routine
    · exact raises_ok
  · exact Raises.bind (asI64_raises covered_routine) fun _ _ => raises_ok

end Refusals

section Weighted

variable {sum remainder totalAtomic : UInt64} {weights amounts shares : List UInt64} {weight : Nat}

theorem totalWeight_eq {n : Nat} (h : totalWeight n weights = some weight) :
    weight = n + (weights.map UInt64.toNat).sum := by
  induction weights generalizing n with
  | nil =>
    cases h
    rfl
  | cons w weights ih =>
    unfold totalWeight at h
    split at h
    · cases h
    · rw [ih h, List.map_cons, List.sum_cons, Nat.add_assoc]

theorem checkedSum_eq {floorTotal : UInt64} (h : checkedSum sum amounts = some floorTotal) :
    floorTotal.toNat = sum.toNat + (amounts.map UInt64.toNat).sum := by
  induction amounts generalizing sum with
  | nil =>
    cases h
    rfl
  | cons a amounts ih =>
    simp only [checkedSum, Option.bind_eq_some_iff] at h
    obtain ⟨next, hnext, h⟩ := h
    rw [ih h, UInt64.toNat_of_checkedAdd hnext, List.map_cons, List.sum_cons, Nat.add_assoc]

theorem spread_eq (hroom : ∀ a ∈ amounts, 0 < remainder.toNat → a.toNat + 1 < 2 ^ 64) :
    (spread remainder amounts).map UInt64.toNat =
      handOut remainder.toNat (amounts.map UInt64.toNat) := by
  induction amounts generalizing remainder with
  | nil =>
    cases remainder.toNat <;> rfl
  | cons a amounts ih =>
    unfold spread
    split
    · next hzero =>
      rw [hzero]
      rfl
    · next hne =>
      have hpos : 0 < remainder.toNat := by
        rw [Nat.pos_iff_ne_zero]
        intro hzero
        exact hne (UInt64.toNat_inj.mp hzero)
      have hless : (remainder - 1).toNat = remainder.toNat - 1 :=
        UInt64.toNat_sub_of_le _ _ (UInt64.le_iff_toNat_le.mpr hpos)
      obtain ⟨left, hleft⟩ : ∃ left, remainder.toNat = left + 1 := ⟨remainder.toNat - 1, by omega⟩
      rw [List.map_cons, List.map_cons, hleft, handOut,
        UInt64.toNat_saturatingAdd (hroom a List.mem_cons_self hpos), ih, hless, hleft]
      · rfl
      · intro b hb _
        exact hroom b (List.mem_cons_of_mem _ hb) hpos

theorem floors_eq (hweight : (weights.map UInt64.toNat).sum = weight) :
    (weights.map fun w => UInt64.ofNat (totalAtomic.toNat * w.toNat / weight)).map UInt64.toNat =
      floorShares totalAtomic.toNat weight (weights.map UInt64.toNat) := by
  rw [floorShares, List.map_map, List.map_map]
  apply List.map_congr_left
  intro w hw
  have hle : w.toNat ≤ weight := by
    rw [← hweight]
    exact List.le_sum_of_mem (List.mem_map.mpr ⟨w, hw, rfl⟩)
  have hdiv : totalAtomic.toNat * w.toNat / weight ≤ totalAtomic.toNat :=
    Nat.div_le_of_le_mul (Nat.mul_comm weight _ ▸ Nat.mul_le_mul_left _ hle)
  have htotal : totalAtomic.toNat < 2 ^ 64 := totalAtomic.toNat_lt
  exact UInt64.toNat_ofNat_of_lt (hdiv.trans_lt htotal)

-- a floor, or one more, is within one unit of the quotient
theorem near_quotient {a n d : Nat} (h : a = n / d ∨ a = n / d + 1) :
    |(a : ℚ) - (n : ℚ) / d| ≤ 1 := by
  have hlow : ((n / d : Nat) : ℚ) ≤ (n : ℚ) / d := Nat.cast_div_le
  have hhigh : (n : ℚ) / d < ((n / d : Nat) : ℚ) + 1 := by
    rw [← Nat.floor_div_eq_div (K := ℚ)]
    exact Nat.lt_floor_add_one _
  rw [abs_le]
  rcases h with rfl | rfl
  · constructor <;> linarith
  · push_cast
    constructor <;> linarith

structure Allocated (totalAtomic : UInt64) (weights shares : List UInt64) : Prop where
  sum : (shares.map UInt64.toNat).sum = totalAtomic.toNat
  positive : ∀ share ∈ shares, 0 < share.toNat
  near : List.Forall₂ (fun (share weight : UInt64) =>
    |(share.toNat : ℚ) - (totalAtomic.toNat * weight.toNat : Nat) /
      (weights.map UInt64.toNat).sum| ≤ 1) shares weights

theorem weight_pos (hne : weights ≠ []) (hzero : 0 ∉ weights) :
    0 < (weights.map UInt64.toNat).sum := by
  obtain ⟨w, rest, rfl⟩ := List.exists_cons_of_ne_nil hne
  have hw : w ≠ 0 := fun h => hzero (h ▸ List.mem_cons_self)
  have hw' : w.toNat ≠ 0 := fun h => hw (UInt64.toNat_inj.mp h)
  rw [List.map_cons, List.sum_cons]
  omega

theorem allocate_spread (h : allocateAtomicByWeight totalAtomic weights = .ok shares) :
    weights ≠ [] ∧ 0 ∉ weights ∧ 0 ∉ shares ∧ shares.map UInt64.toNat =
      handOut (totalAtomic.toNat - (floorShares totalAtomic.toNat (weights.map UInt64.toNat).sum
          (weights.map UInt64.toNat)).sum)
        (floorShares totalAtomic.toNat (weights.map UInt64.toNat).sum
          (weights.map UInt64.toNat)) := by
  simp only [allocateAtomicByWeight, bind_eq_ok, reject_eq_ok, orReject_eq_ok, exists_const,
    pure_eq_ok, not_or] at h
  obtain ⟨⟨-, hne, hzero⟩, weight, hweight, floorTotal, hfloor, hnone, rfl⟩ := h
  refine ⟨hne, hzero, hnone, ?_⟩
  have hsum := totalWeight_eq hweight
  rw [Nat.zero_add] at hsum
  subst hsum
  have hfloors := @floors_eq totalAtomic weights _ rfl
  have htotal := checkedSum_eq hfloor
  rw [hfloors, UInt64.toNat_zero, Nat.zero_add] at htotal
  have hremainder := UInt64.toNat_saturatingSub totalAtomic floorTotal
  rw [spread_eq, hfloors, hremainder, htotal]
  -- a unit is left only when every floor is below the total
  intro a ha hleft
  rw [hremainder, htotal] at hleft
  have hmem : a.toNat ∈ floorShares totalAtomic.toNat (weights.map UInt64.toNat).sum
      (weights.map UInt64.toNat) := by
    rw [← hfloors]
    exact List.mem_map.mpr ⟨a, ha, rfl⟩
  have hle := List.le_sum_of_mem hmem
  have hbound : totalAtomic.toNat < 2 ^ 64 := totalAtomic.toNat_lt
  omega

theorem allocate_allocated (h : allocateAtomicByWeight totalAtomic weights = .ok shares) :
    Allocated totalAtomic weights shares := by
  obtain ⟨hne, hzero, hnone, hshares⟩ := allocate_spread h
  refine ⟨?_, ?_, ?_⟩
  · rw [hshares]
    exact sum_weighted (weight_pos hne hzero)
  · intro share hshare
    rw [Nat.pos_iff_ne_zero]
    intro hshare0
    obtain rfl : share = 0 := UInt64.toNat_inj.mp hshare0
    exact hnone hshare
  · have hnear := @handOut_near
      (totalAtomic.toNat - (floorShares totalAtomic.toNat (weights.map UInt64.toNat).sum
        (weights.map UInt64.toNat)).sum)
      (floorShares totalAtomic.toNat (weights.map UInt64.toNat).sum (weights.map UInt64.toNat))
    rw [← hshares] at hnear
    simp only [floorShares, List.map_map, List.forall₂_map_left_iff,
      List.forall₂_map_right_iff] at hnear
    exact hnear.imp fun share weight hshare => near_quotient hshare

end Weighted

section Split

structure SplitEvenly (app : Appraisal) (db : Database) (call : StoredCall) (total : Nat) : Prop where
  positive : 0 < call.target
  paid : answerPayments db call.id = evenShares total call.target call.answered
  even : ∀ amount ∈ answerPayments db call.id,
    amount = total / call.target ∨ amount = total / call.target + 1
  next : takesAnswers call = true →
    openCallAnswerAtomic call = .ok (evenShare total call.target call.answered)
  remaining : call.status ≠ .cancelled →
    call.escrowRemainingAtomic = some (evenRest total call.target call.answered).sum
  answers : takesAnswers call = true → ∀ ids reflections now createdAt (request : AnswerRequest),
    request.openCallId = call.id →
      Raises Covered (submitAnswerWithInterview app db ids reflections now createdAt request)
  agents : ∀ ids now, Raises Covered (runCallAgents app db now ids call.id)
  reviews : takesAnswers call = true → ∀ ids now reviewerId memoryId review m,
    db.memoryEntries.get? memoryId = some m → m.openCallId = some call.id →
      Raises Covered (reviewDispute app db ids now reviewerId memoryId review)
  completed : call.status = .filled → call.answered = call.target ∧
    (answerPayments db call.id).sum = total ∧ call.escrowRemainingAtomic = some 0

theorem EscrowKept.splitEvenly (h : EscrowKept db) (hcall : onchain db callId = some call)
    (htotal : call.escrowTotalAtomic = some total) (hfunded : call.target ≤ total) :
    SplitEvenly app db call total := by
  obtain ⟨hget, hmode⟩ := onchain_eq_some.mp hcall
  have hid := call_key hget
  obtain ⟨total', hkept⟩ := h.calls callId call hcall
  obtain rfl : total' = total := Option.some.inj (hkept.funded.symm.trans htotal)
  have hsolvent : Solvent db callId := ⟨h, call, total', hcall, htotal, hfunded⟩
  subst hid
  refine ⟨hkept.positive, hkept.paid, ?_, fun htakes => hkept.answerAtomic htakes hfunded, hkept.left,
    ?_, ?_, ?_, ?_⟩
  · intro amount hamount
    rw [hkept.paid] at hamount
    obtain ⟨k, -, rfl⟩ := List.mem_map.mp hamount
    exact evenShare_cases
  · intro htakes ids reflections now createdAt request hrequest
    apply (hsolvent.affords hget htakes).submit
    rw [hrequest]
    exact hget
  · intro ids now
    unfold runCallAgents
    rw [hget]
    exact hsolvent.pass
  · intro htakes ids now reviewerId memoryId review m hm hfor
    exact (hsolvent.affords hget htakes).review hget hm hfor
  · intro hfilled
    have hall := hkept.full hfilled
    have hleft := hkept.left (by rw [hfilled]; exact nofun)
    refine ⟨hall, ?_, ?_⟩
    · rw [hkept.paid, hall]
      exact sum_evenShares_all hkept.positive
    · rw [hleft, evenRest_nil hall.ge]
      rfl

theorem escrow_split_exact :
    (∀ app ext start events db callId call total, Opening start →
      Trace (Step app ext) start events db → onchain db callId = some call →
        call.escrowTotalAtomic = some total → call.target ≤ total →
          SplitEvenly app db call total) ∧
      ∀ totalAtomic weights shares, allocateAtomicByWeight totalAtomic weights = .ok shares →
        Allocated totalAtomic weights shares := by
  refine ⟨?_, fun _ _ _ h => allocate_allocated h⟩
  intro app ext start events db callId call total hstart hrun hcall htotal hfunded
  exact (run_kept hstart hrun).splitEvenly hcall htotal hfunded

end Split

section Samples

def splitStart : Database := Database.empty emptyFunds

def payoutWalletText : String := "EPjFWdd5AufqSSqeM2qN1xzybapC8G4wEGGkZwyTDt1v"

def paidProfile (userId : String) : UserProfile :=
  { sampleProfile userId with
    wallet := some payoutWalletText
    walletVerified := true }

def splitAttempt : PaymentAttempt where
  settlementKind := .openCall
  quoteId := "quote"
  attemptId := String.ofList (List.replicate 64 'a')
  payerWallet := none
  signedTransactionBase64 := none
  recentBlockhash := none
  absenceObservedAt := none
  legacyEvidence := true
  reconcileAfter := 900000
  createdAt := 1000

-- three contributors, and a payment in flight
def splitDesk : Database :=
  { splitStart with
    profiles := ⟨[paidProfile "alice", paidProfile "bob", paidProfile "carol"], by decide⟩
    funds := { emptyFunds with paymentAttempts := ⟨[splitAttempt], by simp⟩ } }

def splitOrder : OpenCallRequest where
  question := sampleQuestion
  unitPrice := 1352
  target := 3
  shelf := "lunch"
  category := "food"
  filters := ⟨none, none, none, none, none, none⟩

def splitPolicy : PaymentQuotePolicy where
  network := "solana:devnet"
  asset := payoutWalletText
  krwPerUsdc := 1350
  ttlMs := 600000
  fallbackRecipient := none
  bundleRecipient := some payoutWalletText

def splitPayment : RecordChainSettlementRequest where
  quoteId := "quote"
  attemptId := some (String.ofList (List.replicate 64 'a'))
  transactionSignature := String.ofList (List.replicate 88 '5')
  payer := payoutWalletText
  payTo := payoutWalletText
  amountAtomic := "3004445"
  network := "solana:devnet"
  rawResponseJson := "null"

def splitAnswer (userId answer : String) : Event :=
  ⟨3000, 3000, .answer ⟨"memory_" ++ userId, "md_" ++ userId, "earning_" ++ userId, "claim_" ++ userId⟩ []
    ⟨"call", userId, answer, []⟩⟩

def splitEvents : List Event :=
  [⟨1000, 1000, .quote "quote" "owner" splitOrder splitPolicy fun _ => false⟩,
    ⟨2000, 2000, .fund ⟨"s", "chain", "e", "call", "d", "r"⟩ splitPayment⟩,
    splitAnswer "alice" "Noodles by Exit 3", splitAnswer "bob" "Soup at 12", splitAnswer "carol" "Rice"]

def accept (app : Appraisal) (ext : Externals) (db : Database) (e : Event) : Option Database :=
  (execute app ext db e).toOption

theorem accept_trace {es : List Event} (h : runWith (accept app ext) db es = some db') :
    Trace (Step app ext) db (es.map some) db' := by
  induction es generalizing db with
  | nil =>
    cases h
    exact .nil
  | cons e es ih =>
    simp only [runWith, Option.bind_eq_some_iff] at h
    obtain ⟨mid, hmid, h⟩ := h
    exact Trace.cons_iff.mpr ⟨mid, .ok (toOption_eq_some.mp hmid), ih h⟩

def splitExternals : Externals where
  encoding := .standard
  hexDigest text := text

theorem splitStart_opening : Opening splitStart := ⟨rfl, rfl, rfl⟩

theorem splitDesk_elsewhere : Elsewhere splitStart splitDesk :=
  ⟨fun _ => rfl, fun _ => rfl, fun _ hq => absurd hq List.not_mem_nil⟩

theorem escrow_split_exact_sample :
    (∃ db call, Trace (Step sampleAppraisal splitExternals) splitStart (none :: splitEvents.map some) db ∧
      onchain db "call" = some call ∧ call.status = .filled ∧
      answerPayments db "call" = [1001482, 1001482, 1001481] ∧
      SplitEvenly sampleAppraisal db call 3004445) ∧
      Allocated 10 [1, 2, 4] [2, 3, 5] := by
  refine ⟨?_, escrow_split_exact.2 10 [1, 2, 4] [2, 3, 5] rfl⟩
  have hrun : (runWith (accept sampleAppraisal splitExternals) splitDesk splitEvents).any (fun db =>
      decide (answerPayments db "call" = [1001482, 1001482, 1001481]) &&
        (onchain db "call").any fun call =>
          decide (call.status = .filled ∧ call.escrowTotalAtomic = some 3004445 ∧ call.target = 3)) =
      true := by
    decide +kernel
  obtain ⟨db, hdb, hrun⟩ := (Option.any_eq_true _ _).mp hrun
  simp only [Bool.and_eq_true, decide_eq_true_eq, Option.any_eq_true] at hrun
  obtain ⟨hpaid, call, hcall, hstatus, htotal, htarget⟩ := hrun
  have htrace : Trace (Step sampleAppraisal splitExternals) splitStart (none :: splitEvents.map some)
      db := Trace.cons_iff.mpr ⟨splitDesk, .elsewhere splitDesk_elsewhere, accept_trace hdb⟩
  refine ⟨db, call, htrace, hcall, hstatus, hpaid, ?_⟩
  exact escrow_split_exact.1 _ _ _ _ _ _ _ _ splitStart_opening htrace hcall htotal
    (by rw [htarget]; decide)

end Samples

end Obulus.Calls.Funding
