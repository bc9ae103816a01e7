import Obulus.Migration.RealCoins
import Obulus.Calls.Effects
import Obulus.Store.Encoding
import Mathlib.Algebra.Order.BigOperators.Group.List

namespace Obulus.Migration

open Foundation Store

variable {encoding : Encoding} {now : Nat} {db db' : Database} {b : Calls.Balance} {t : Tally}
  {rows : List Funds.LedgerEntry} {key : Funds.AccountKey}

section Sums

theorem bump_apply {sums : Funds.AccountKey → Int} {e : Funds.LedgerEntry} :
    bump sums e key = sums key + if e.account = key then e.deltaAtomic else 0 := by
  unfold bump
  rw [Function.update_apply]
  split
  · next h =>
    subst h
    rw [if_pos rfl]
  · next h => rw [if_neg fun h' => h h'.symm, Int.add_zero]

theorem tally_from : (rows.foldl (Tally.count encoding) t).backedDeposit key = t.backedDeposit key +
      ((rows.filter fun e => decide (e.account = key ∧ e.kind = .deposit) &&
        isRealOnchainSignature encoding e.referenceId).map Funds.LedgerEntry.deltaAtomic).sum ∧
    (rows.foldl (Tally.count encoding) t).nonDeposit key = t.nonDeposit key +
      ((rows.filter fun e => decide (e.account = key ∧ e.kind ≠ .deposit)).map
        Funds.LedgerEntry.deltaAtomic).sum := by
  induction rows generalizing t with
  | nil => simp
  | cons e rows ih =>
    obtain ⟨hbacked, hother⟩ := @ih (t.count encoding e)
    rw [List.foldl_cons, hbacked, hother]
    unfold Tally.count
    by_cases hkind : e.kind = .deposit
    · by_cases hreal : isRealOnchainSignature encoding e.referenceId = true
      · by_cases hkey : e.account = key
        · simp [hkind, hreal, hkey, bump_apply, Int.add_assoc]
        · simp [hkind, hreal, hkey, bump_apply]
      · simp [hkind, hreal]
    · by_cases hkey : e.account = key
      · simp [hkind, hkey, bump_apply, Int.add_assoc]
      · simp [hkind, hkey, bump_apply]

theorem tally_eq : (tally encoding db.prepaidLedger.rows).backedDeposit key =
      genuineDeposits encoding db key ∧
    (tally encoding db.prepaidLedger.rows).nonDeposit key = otherDeltas db key := by
  obtain ⟨hbacked, hother⟩ := @tally_from encoding ⟨fun _ => 0, fun _ => 0⟩ db.prepaidLedger.rows key
  rw [tally, hbacked, hother]
  exact ⟨Int.zero_add _, Int.zero_add _⟩

theorem clampI64_eq {n : Int} : (clampI64 (max n 0) : Int) = max n 0 ↔ n ≤ i64Max := by
  unfold clampI64
  split <;> omega

end Sums

section Rows

theorem isBackfilled_iff : isBackfilled b = true ↔
    0 < b.availableKrw ∧ -675 < drift b ∧ drift b ≤ 675 := by
  simp only [isBackfilled, decide_eq_true_eq, drift]
  omega

theorem backfilled_pos (h : isBackfilled b = true) : 0 < b.availableAtomic := by
  rw [isBackfilled_iff, drift] at h
  omega

theorem reconcile_eq_ok (hfirst : db.reconcileMarkers.get? markerName = none)
    (h : reconcilePrepaidRealCoins encoding now db = .ok db') :
    (db'.reconcileMarkers.get? markerName).isSome = true ∧
      (∀ userId, db'.balances.get? userId =
        (db.balances.get? userId).map fun b => if isBackfilled b then zeroCredit b else b) ∧
      ∀ key, db'.prepaidAccounts.get? key =
        (db.prepaidAccounts.get? key).map (recomputed (tally encoding db.prepaidLedger.rows)) := by
  unfold reconcilePrepaidRealCoins at h
  rw [hfirst] at h
  simp only [Option.isSome_none, Bool.false_eq_true, if_false, bind_eq_ok, asI64_eq_ok, reject_eq_ok,
    orReject_eq_ok, exists_const, pure_eq_ok] at h
  obtain ⟨time, -, -, markers, hinsert, rfl⟩ := h
  refine ⟨?_, fun userId => ?_, fun key => ?_⟩
  · change (markers.get? markerName).isSome = true
    rw [Table.get?_insert? hinsert, if_pos rfl]
    rfl
  · exact @Table.get?_update _ _ _ db.balances userId isBackfilled zeroCredit (fun _ => rfl) _
  · have hget := @Table.get?_update _ _ _ db.prepaidAccounts key (fun _ => true)
      (recomputed (tally encoding db.prepaidLedger.rows)) (fun _ => rfl) _
    simpa only [if_true] using hget

theorem reconcile_later {later : Database} (h : (later.reconcileMarkers.get? markerName).isSome = true) :
    reconcilePrepaidRealCoins encoding now later = .ok later := by
  rw [reconcilePrepaidRealCoins, if_pos h]

end Rows

section Exact

theorem unbacked_only (hfirst : db.reconcileMarkers.get? markerName = none)
    (h : reconcilePrepaidRealCoins encoding now db = .ok db') (hfits : Discernible encoding db) :
    RemovesUnbackedOnly encoding db db' := by
  obtain ⟨hmarked, hbalances, haccounts⟩ := reconcile_eq_ok hfirst h
  refine ⟨?_, ?_, ?_⟩
  · intro userId b b' hb hb' hchanged
    rw [hbalances, hb, Option.map_some, Option.some.injEq] at hb'
    split at hb'
    · next hbackfilled =>
      subst hb'
      refine ⟨rfl, fun hearned => ?_⟩
      have hdrift := hfits.drifted userId b hb hearned
      rw [isBackfilled_iff] at hbackfilled
      omega
    · exact absurd (congrArg Calls.Balance.availableAtomic hb').symm hchanged
  · intro key
    rw [haccounts, Option.isSome_map]
    refine ⟨rfl, ?_⟩
    intro a ha
    obtain ⟨old, hold, rfl⟩ := Option.map_eq_some_iff.mp ha
    obtain ⟨hbacked, hother⟩ := @tally_eq encoding db key
    have hkey := Table.get?_key hold
    rw [recomputed, hkey, hbacked, hother]
    apply clampI64_eq.mpr
    apply hfits.fits
    rw [hold]
    rfl
  · intro now later hsame
    apply reconcile_later
    rw [hsame]
    exact hmarked

theorem discernible (hfirst : db.reconcileMarkers.get? markerName = none)
    (h : reconcilePrepaidRealCoins encoding now db = .ok db')
    (hremoves : RemovesUnbackedOnly encoding db db') : Discernible encoding db := by
  obtain ⟨-, hbalances, haccounts⟩ := reconcile_eq_ok hfirst h
  refine ⟨?_, ?_⟩
  · intro userId b hb hearned
    by_contra hnear
    have hbackfilled : isBackfilled b = true := by
      rw [isBackfilled_iff]
      omega
    have hb' := hbalances userId
    rw [hb, Option.map_some, if_pos hbackfilled] at hb'
    have hpositive := backfilled_pos hbackfilled
    have hchanged : (zeroCredit b).availableAtomic ≠ b.availableAtomic := by
      change 0 ≠ b.availableAtomic
      omega
    exact (hremoves.credit userId b _ hb hb' hchanged).2 hearned
  · intro key hsome
    obtain ⟨a, ha⟩ := Option.isSome_iff_exists.mp hsome
    have ha' := haccounts key
    rw [ha, Option.map_some] at ha'
    obtain ⟨hbacked, hother⟩ := @tally_eq encoding db key
    have hsum := (hremoves.accounts key).2 _ ha'
    rw [recomputed, Table.get?_key ha, hbacked, hother] at hsum
    exact clampI64_eq.mp hsum

theorem reconcile_exact (hfirst : db.reconcileMarkers.get? markerName = none)
    (h : reconcilePrepaidRealCoins encoding now db = .ok db') :
    RemovesUnbackedOnly encoding db db' ↔ Discernible encoding db :=
  ⟨discernible hfirst h, unbacked_only hfirst h⟩

end Exact

section Accruals

variable {calls calls' : Calls.Database} {userId : String} {amounts : List Nat}

-- what rounding up adds to an amount, in 1350ths of a unit
def excess (amountKrw : Nat) : Int :=
  1350 * ((amountKrw * 1000000 + 1349) / 1350 : Nat) - 1000000 * amountKrw

theorem excess_bounds (amountKrw : Nat) : 0 ≤ excess amountKrw ∧ excess amountKrw < 1350 := by
  unfold excess
  omega

theorem krwToAtomicPinned_excess {amountKrw atomic : Nat}
    (h : Funds.krwToAtomicPinned amountKrw = .ok atomic) :
    (1350 : Int) * atomic = 1000000 * amountKrw + excess amountKrw := by
  unfold excess
  unfold Funds.krwToAtomicPinned at h
  split at h
  · next hzero =>
    cases h
    subst hzero
    rfl
  · simp only [Funds.krwToUsdcAtomic, Funds.krwPerUsdcPinned, Funds.usdcAtomicUnits, bind_eq_ok,
      pure_eq_ok] at h
    obtain ⟨_, -, _, -, rfl⟩ := h
    omega

-- an earning of the contributor that is not held
inductive Accrues (userId : String) (calls : Calls.Database) (amountKrw : Nat) : Calls.Database → Prop
  | earned {id source : String} {settlementId memoryId documentId : Option String} {createdAt : Nat}
      {calls' : Calls.Database} : Calls.strikes calls userId < Calls.autoMatchStrikeLimit →
      Calls.insertEarningEvent calls id settlementId memoryId documentId userId source amountKrw
        createdAt = .ok calls' → Accrues userId calls amountKrw calls'

theorem Accrues.drift {amountKrw : Nat} (h : Accrues userId calls amountKrw calls')
    (hb : calls.balances.get? userId = some b) : ∃ b', calls'.balances.get? userId = some b' ∧
      Migration.drift b' = Migration.drift b + excess amountKrw ∧
      b'.availableKrw = b.availableKrw + amountKrw := by
  obtain ⟨hstrikes, hinsert⟩ := h
  have hheld : ¬Calls.autoMatchStrikeLimit ≤ Calls.strikes calls userId := not_le.mpr hstrikes
  simp only [Calls.insertEarningEvent, hheld, decide_false, bind_eq_ok, asI64_eq_ok,
    Calls.insertEarning_eq_ok, Calls.accrue, reject_eq_ok, exists_const, pure_eq_ok] at hinsert
  obtain ⟨_, hatomic, krw, ⟨-, rfl⟩, atomic, ⟨-, rfl⟩, _, -, _, ⟨t, -, rfl⟩, -, rfl⟩ := hinsert
  refine ⟨Calls.addBalance krw false atomic b, ?_, ?_, rfl⟩
  · have hkey : b.userId = userId := Table.get?_key hb
    simp only [Table.get?_update, hb, Option.map_some, hkey, decide_true, if_true]
  · have hexcess := krwToAtomicPinned_excess hatomic
    simp only [Migration.drift, Calls.addBalance, Bool.false_eq_true, if_false]
    omega

theorem accruals_drift (hrun : Trace (Accrues userId) calls amounts calls')
    (hb : calls.balances.get? userId = some b) : ∃ b', calls'.balances.get? userId = some b' ∧
      drift b' = drift b + (amounts.map excess).sum ∧
      b'.availableKrw = b.availableKrw + amounts.sum := by
  induction hrun with
  | nil => exact ⟨b, hb, by simp, by simp⟩
  | snoc _ hstep ih =>
    obtain ⟨mid, hmid, hdrift, hkrw⟩ := ih
    obtain ⟨b', hb', hdrift', hkrw'⟩ := hstep.drift hmid
    refine ⟨b', hb', ?_, ?_⟩
    · rw [hdrift', hdrift, List.map_append, List.sum_append, List.map_singleton, List.sum_singleton]
      omega
    · rw [hkrw', hkrw, List.sum_append, List.sum_singleton]
      omega

-- the earnings are told apart from the credit below them once their roundings add up
theorem accruals_discerned_iff (hrun : Trace (Accrues userId) calls amounts calls')
    (hb : calls.balances.get? userId = some b) (hcredit : -675 < drift b) :
    ∃ b', calls'.balances.get? userId = some b' ∧ (isBackfilled b' = true ↔
      0 < b.availableKrw + amounts.sum ∧ drift b + (amounts.map excess).sum ≤ 675) := by
  obtain ⟨b', hb', hdrift, hkrw⟩ := accruals_drift hrun hb
  have hpositive : 0 ≤ (amounts.map excess).sum := by
    apply List.sum_nonneg
    intro e he
    obtain ⟨amount, -, rfl⟩ := List.mem_map.mp he
    exact (excess_bounds amount).1
  refine ⟨b', hb', ?_⟩
  rw [isBackfilled_iff, hdrift, hkrw]
  omega

end Accruals

section Samples

def sampleCalls : Calls.Database :=
  { Calls.Database.empty ⟨[], .empty, .empty, .empty, .empty, .empty, .empty, .empty, .empty, .empty,
      .empty, .empty, .empty, .empty, .empty, .empty, .empty, []⟩ with
    balances := ⟨[⟨"carol", 0, 0, 0, 0, 0⟩], by simp⟩ }

def sampleKey : Funds.AccountKey := ⟨"wallet", "platform", "solana:devnet", "usdc"⟩

def sampleSignature : String := "1111111111111111111111111111111111111111111111111111111111111112"

-- one deposit on the chain, one that only the database knows, and an escrow
def sampleLedger : Table Funds.LedgerEntry.reference :=
  ⟨[⟨"led_1", sampleKey, .deposit, sampleSignature, 500000, 500000, 100⟩,
    ⟨"led_2", sampleKey, .deposit, "welcome-credit", 9000000, 9500000, 200⟩,
    ⟨"led_3", sampleKey, .openCallReservation, "call_1", -200000, 9300000, 300⟩], by decide⟩

-- a start of the service on these rows, before the reconciliation has ever run
def upgraded (calls : Calls.Database) : Database where
  balances := calls.balances
  earningEvents := calls.earningEvents
  prepaidAccounts := ⟨[⟨sampleKey, 9300000, 9500000⟩], by simp⟩
  prepaidLedger := sampleLedger
  reconcileMarkers := .empty

def carolEarns (amountKrw : Nat) : Except StoreError Calls.Database :=
  Calls.insertEarningEvent sampleCalls "earning" none none none "carol" "open_call" amountKrw 1000

def balanceOf (db : Database) (userId : String) : Option Nat :=
  (db.balances.get? userId).map Calls.Balance.availableAtomic

theorem earned_of {calls : Calls.Database} (h : (upgraded calls).earningEvents.rows.any (fun e =>
    decide (e.authorId = "carol" ∧ e.payoutStatus = .accrued ∧ 0 < e.amountAtomic)) = true) :
    Earned (upgraded calls) "carol" := by
  obtain ⟨e, he, hearned⟩ := List.any_eq_true.mp h
  rw [decide_eq_true_eq] at hearned
  exact ⟨e, he, hearned⟩

-- 1350 KRW are one USDC to the unit, as the legacy credit would be
theorem earning_zeroed : ∃ calls db', carolEarns 1350 = .ok calls ∧
    balanceOf (upgraded calls) "carol" = some 1000000 ∧ Earned (upgraded calls) "carol" ∧
    reconcilePrepaidRealCoins .standard 2000 (upgraded calls) = .ok db' ∧
    balanceOf db' "carol" = some 0 ∧ ¬RemovesUnbackedOnly .standard (upgraded calls) db' := by
  have hrun : (carolEarns 1350).toOption.any (fun calls =>
      decide (balanceOf (upgraded calls) "carol" = some 1000000) &&
      (upgraded calls).earningEvents.rows.any (fun e =>
        decide (e.authorId = "carol" ∧ e.payoutStatus = .accrued ∧ 0 < e.amountAtomic)) &&
      (reconcilePrepaidRealCoins .standard 2000 (upgraded calls)).toOption.any fun db' =>
        decide (balanceOf db' "carol" = some 0)) = true := by
    decide +kernel
  obtain ⟨calls, hcalls, hrun⟩ := (Option.any_eq_true _ _).mp hrun
  simp only [Bool.and_eq_true, decide_eq_true_eq, Option.any_eq_true] at hrun
  obtain ⟨⟨hbefore, hearned⟩, db', hdb', hafter⟩ := hrun
  rw [toOption_eq_some] at hcalls hdb'
  have hcarol := earned_of hearned
  refine ⟨calls, db', hcalls, hbefore, hcarol, hdb', hafter, fun hremoves => ?_⟩
  obtain ⟨b, hb, hamount⟩ := Option.map_eq_some_iff.mp hbefore
  obtain ⟨b', hb', hzero⟩ := Option.map_eq_some_iff.mp hafter
  exact (hremoves.credit "carol" b b' hb hb' (by omega)).2 hcarol

theorem sample_fits (calls : Calls.Database) (key : Funds.AccountKey)
    (hkey : ((upgraded calls).prepaidAccounts.get? key).isSome = true) :
    genuineDeposits .standard (upgraded calls) key + otherDeltas (upgraded calls) key ≤ i64Max := by
  obtain ⟨a, ha⟩ := Option.isSome_iff_exists.mp hkey
  have hrow : a = ⟨sampleKey, 9300000, 9500000⟩ := List.mem_singleton.mp (Table.get?_mem ha)
  rw [← Table.get?_key ha, hrow]
  change ((sampleLedger.rows.filter _).map _).sum + ((sampleLedger.rows.filter _).map _).sum ≤ _
  decide +kernel

-- 701 KRW are rounded up by more than half a unit
theorem reconcile_exact_sample : ∃ calls db', carolEarns 701 = .ok calls ∧
    Earned (upgraded calls) "carol" ∧
    reconcilePrepaidRealCoins .standard 2000 (upgraded calls) = .ok db' ∧
    balanceOf db' "carol" = some 519260 ∧
    db'.prepaidAccounts.get? sampleKey = some ⟨sampleKey, 300000, 500000⟩ ∧
    RemovesUnbackedOnly .standard (upgraded calls) db' := by
  have hrun : (carolEarns 701).toOption.any (fun calls =>
      calls.balances.rows.all (fun b => decide (675 < drift b)) &&
      (upgraded calls).earningEvents.rows.any (fun e =>
        decide (e.authorId = "carol" ∧ e.payoutStatus = .accrued ∧ 0 < e.amountAtomic)) &&
      (reconcilePrepaidRealCoins .standard 2000 (upgraded calls)).toOption.any fun db' =>
        decide (balanceOf db' "carol" = some 519260) &&
        decide (db'.prepaidAccounts.get? sampleKey = some ⟨sampleKey, 300000, 500000⟩)) = true := by
    decide +kernel
  obtain ⟨calls, hcalls, hrun⟩ := (Option.any_eq_true _ _).mp hrun
  simp only [Bool.and_eq_true, decide_eq_true_eq, Option.any_eq_true, List.all_eq_true] at hrun
  obtain ⟨⟨hdrift, hearned⟩, db', hdb', hafter, haccount⟩ := hrun
  rw [toOption_eq_some] at hcalls hdb'
  have hdiscernible : Discernible .standard (upgraded calls) := by
    refine ⟨fun userId b hb _ => ?_, sample_fits calls⟩
    exact .inr (.inr (hdrift b (Table.get?_mem hb)))
  exact ⟨calls, db', hcalls, earned_of hearned, hdb', hafter, haccount,
    (reconcile_exact rfl hdb').mpr hdiscernible⟩

end Samples

end Obulus.Migration
