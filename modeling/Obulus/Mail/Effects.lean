import Mathlib.Data.List.Sort
import Obulus.Mail.Outbox

namespace Obulus.Mail

open Foundation Store

variable {t t' : Outbox} {ids : List String} {leased : List PendingEmail} {id workerId : String}
  {now limit leaseMs leaseExpiresAt : Nat} {e : Email}

section Lease

theorem dueIds_nodup (t : Outbox) (now limit : Nat) : (dueIds now t limit).Nodup := by
  unfold dueIds
  rw [List.map_take]
  apply (List.take_sublist _ _).nodup
  have hperm := (List.mergeSort_perm (t.rows.filter (Email.due now)) Email.earlier).map Email.id
  exact hperm.nodup_iff.mpr ((List.filter_sublist.map Email.id).nodup t.nodup)

theorem dueIds_due (h : id ∈ dueIds now t limit) : (t.get? id).any (Email.due now) = true := by
  unfold dueIds at h
  obtain ⟨e, he, rfl⟩ := List.mem_map.mp h
  have hmem := List.mem_mergeSort.mp (List.mem_of_mem_take he)
  obtain ⟨hrow, hdue⟩ := List.mem_filter.mp hmem
  rw [Table.get?_of_mem hrow]
  exact hdue

theorem dueIds_ne_nil (hlimit : 0 < limit) (he : t.get? id = some e) (hdue : e.due now = true) :
    dueIds now t limit ≠ [] := by
  intro h
  have hmem : e ∈ (t.rows.filter (Email.due now)).mergeSort Email.earlier :=
    List.mem_mergeSort.mpr (List.mem_filter.mpr ⟨Table.get?_mem he, hdue⟩)
  simp only [dueIds, List.map_eq_nil_iff, List.take_eq_nil_iff] at h
  rcases h with h | h
  · omega
  · rw [h] at hmem
    cases hmem

theorem get?_leaseOne (t : Outbox) (id id' : String) :
    (leaseOne workerId leaseExpiresAt now t id).get? id' =
      (t.get? id').map fun e =>
        if id' = id ∧ e.due now = true then takeLease workerId leaseExpiresAt e else e := by
  unfold leaseOne
  rw [Table.get?_update]
  cases he : t.get? id' with
  | none => rfl
  | some e =>
    have hid := Table.get?_key he
    simp [hid]

theorem leaseEach_rows (h : leaseEach workerId leaseExpiresAt now ids t = .ok (t', leased))
    (hnodup : ids.Nodup) (hdue : ∀ id ∈ ids, (t.get? id).any (Email.due now) = true) :
    leased.map PendingEmail.id = ids ∧ t'.rows.map Email.id = t.rows.map Email.id ∧
      ∀ id, t'.get? id = (t.get? id).map fun e =>
        if id ∈ ids then takeLease workerId leaseExpiresAt e else e := by
  induction ids generalizing t leased with
  | nil =>
    simp only [leaseEach, Except.ok.injEq, Prod.mk.injEq] at h
    obtain ⟨rfl, rfl⟩ := h
    exact ⟨rfl, rfl, by simp⟩
  | cons id ids ih =>
    rw [List.nodup_cons] at hnodup
    obtain ⟨hid, htail⟩ := hnodup
    have hfirst := hdue id List.mem_cons_self
    simp only [leaseEach, bind_eq_ok, asI64_eq_ok] at h
    obtain ⟨_, ⟨-, hexpires⟩, _, ⟨-, hnow⟩, h⟩ := h
    rw [hexpires, hnow, if_pos hfirst] at h
    simp only [bind_eq_ok, orReject_eq_ok, pure_eq_ok, Prod.mk.injEq, Prod.exists] at h
    obtain ⟨email, hemail, after, rest, hrest, rfl, rfl⟩ := h
    have hdue' : ∀ id' ∈ ids,
        ((leaseOne workerId leaseExpiresAt now t id).get? id').any (Email.due now) = true := by
      intro id' hid'
      have hne : id' ≠ id := fun heq => hid (heq ▸ hid')
      rw [get?_leaseOne]
      simpa [hne] using hdue id' (List.mem_cons_of_mem _ hid')
    obtain ⟨hleased, hkeys, hrows⟩ := ih hrest htail hdue'
    refine ⟨?_, ?_, ?_⟩
    · simp [hleased, Email.pending, Table.get?_key hemail]
    · rw [hkeys]
      exact Table.keys_update
    · intro id'
      rw [hrows, get?_leaseOne, Option.map_map]
      cases he : t.get? id' with
      | none => rfl
      | some e =>
        by_cases heq : id' = id
        · subst heq
          have hd : e.due now = true := by simpa [he] using hfirst
          simp [hid, hd]
        · simp [heq]

theorem leaseEach_ok (hexpires : leaseExpiresAt ≤ i64Max) (hnow : now ≤ i64Max) (ids : List String)
    (t : Outbox) : ∃ r, leaseEach workerId leaseExpiresAt now ids t = .ok r := by
  induction ids generalizing t with
  | nil => exact ⟨_, rfl⟩
  | cons id ids ih =>
    have hexpires' : asI64 leaseExpiresAt = .ok leaseExpiresAt := asI64_eq_ok.mpr ⟨hexpires, rfl⟩
    have hnow' : asI64 now = .ok now := asI64_eq_ok.mpr ⟨hnow, rfl⟩
    simp only [leaseEach, hexpires', hnow', ok_bind]
    split
    · next hdue =>
      obtain ⟨e, he, hd⟩ := Option.any_eq_true _ _ |>.mp hdue
      have hget : (leaseOne workerId leaseExpiresAt now t id).get? id =
          some (takeLease workerId leaseExpiresAt e) := by
        rw [get?_leaseOne, he]
        simp [hd]
      obtain ⟨⟨after, rest⟩, hrest⟩ := ih (leaseOne workerId leaseExpiresAt now t id)
      simp only [hget, orReject, hrest, ok_bind]
      exact ⟨_, rfl⟩
    · exact ih t

def afterExpiry (now : Nat) (e : Email) : Email :=
  if e.abandoned now = true then reopen e else e

@[simp] theorem afterExpiry_id (now : Nat) (e : Email) : (afterExpiry now e).id = e.id := by
  unfold afterExpiry
  split <;> rfl

theorem get?_reopenAbandoned (t : Outbox) (id : String) :
    (reopenAbandoned now t).get? id = (t.get? id).map (afterExpiry now) :=
  Table.get?_update

structure Leases (t : Outbox) (now : Nat) (workerId : String) (limit leaseMs : Nat) (t' : Outbox)
    (leased : List PendingEmail) : Prop where
  clock : now ≤ i64Max
  workerLength : 16 ≤ (trim workerId).utf8ByteSize ∧ (trim workerId).utf8ByteSize ≤ 128
  batch : 1 ≤ limit ∧ limit ≤ 100
  duration : 30000 ≤ leaseMs ∧ leaseMs ≤ emailMaxLeaseMs
  ids : leased.map PendingEmail.id = dueIds now (reopenAbandoned now t) limit
  due : ∀ id ∈ leased.map PendingEmail.id, ∃ e, t.get? id = some e ∧
    (afterExpiry now e).due now = true
  keys : t'.rows.map Email.id = t.rows.map Email.id
  rows : ∀ id, t'.get? id = (t.get? id).map fun e =>
    if id ∈ leased.map PendingEmail.id then
      takeLease (trim workerId) (saturatingAdd now leaseMs) (afterExpiry now e)
    else afterExpiry now e

theorem leasePendingEmails_ok
    (h : leasePendingEmails workerId now t limit leaseMs = .ok (t', leased)) :
    Leases t now workerId limit leaseMs t' leased := by
  simp only [leasePendingEmails, bind_eq_ok, reject_eq_ok, exists_const, not_or, Nat.not_lt,
    asI64_eq_ok] at h
  obtain ⟨⟨hmin, hmax, hlimit, hlimit', hms, hms'⟩, _, ⟨hclock, hnow⟩, h⟩ := h
  rw [hnow] at h
  obtain ⟨hids, hkeys, hrows⟩ := leaseEach_rows h (dueIds_nodup _ _ _) fun _ => dueIds_due
  refine ⟨hclock, ⟨hmin, hmax⟩, ⟨hlimit, hlimit'⟩, ⟨hms, hms'⟩, hids, ?_, hkeys.trans Table.keys_update, ?_⟩
  · intro id hid
    rw [hids] at hid
    have hany := dueIds_due hid
    rw [get?_reopenAbandoned] at hany
    cases he : t.get? id with
    | none => simp [he] at hany
    | some e => exact ⟨e, rfl, by simpa [he] using hany⟩
  · intro id
    rw [hrows, get?_reopenAbandoned, Option.map_map, hids]
    rfl

end Lease

section Reports

variable {exhausted : Bool} {error : String}

theorem get?_held {f : Email → Email} {hf : ∀ e, (f e).id = e.id} (hheld : e.heldBy id workerId = true)
    (he : t.get? id = some e) (id' : String) :
    (t.update (Email.heldBy id workerId) f hf).get? id' =
      if id' = id then some (f e) else t.get? id' := by
  rw [Table.get?_update]
  by_cases hid : id' = id
  · subst hid
    simp [he, hheld]
  · rw [if_neg hid]
    cases he' : t.get? id' with
    | none => rfl
    | some e' =>
      have hkey := Table.get?_key he'
      have hother : e'.heldBy id workerId = false := by simp [Email.heldBy, hkey, hid]
      simp [hother]

structure Reported (t : Outbox) (id workerId : String) (f : Email → Email) (t' : Outbox)
    (e : Email) : Prop where
  row : t.get? id = some e
  sending : e.status = .sending
  owner : e.leaseOwner = some (trim workerId)
  rows : ∀ id', t'.get? id' = if id' = id then some (f e) else t.get? id'

theorem markEmailDelivered_ok (h : markEmailDelivered t now id workerId = .ok t') :
    ∃ e, Reported t id workerId (deliver now) t' e := by
  simp only [markEmailDelivered, bind_eq_ok, asI64_eq_ok, reject_eq_ok, exists_const, pure_eq_ok,
    Bool.not_eq_false] at h
  obtain ⟨_, ⟨-, hnow⟩, hheld, rfl⟩ := h
  rw [hnow]
  obtain ⟨e, he, hheld⟩ := Option.any_eq_true _ _ |>.mp hheld
  have hparts := hheld
  simp only [Email.heldBy, decide_eq_true_eq] at hparts
  exact ⟨e, he, hparts.2.1, hparts.2.2, get?_held hheld he⟩

theorem markEmailFailed_ok (h : markEmailFailed t id workerId error = .ok (t', exhausted)) :
    ∃ e, Reported t id workerId (fail error) t' e := by
  simp only [markEmailFailed, bind_eq_ok, reject_eq_ok, exists_const, orReject_eq_ok, pure_eq_ok,
    Bool.not_eq_false, Prod.mk.injEq] at h
  obtain ⟨hheld, _, -, rfl, -⟩ := h
  obtain ⟨e, he, hheld⟩ := Option.any_eq_true _ _ |>.mp hheld
  have hparts := hheld
  simp only [Email.heldBy, decide_eq_true_eq] at hparts
  exact ⟨e, he, hparts.2.1, hparts.2.2, get?_held hheld he⟩

end Reports

end Obulus.Mail
