import Mathlib.Data.List.Perm.Subperm
import Obulus.Local.Lock
import Obulus.Local.Unsettled

namespace Obulus.Local.Lock

open Foundation

def World.worker {σ Job : Type} (world : World σ Job) (nonce : String) : Option (Worker σ Job) :=
  world.workers.get? nonce

variable {σ Job : Type} {apply : Job → σ → Option σ} {draws : Job → List String}
  {known : List String} {world world' : World σ Job} {disk disk' : Disk σ Job}
  {worker other : Worker σ Job} {event : Event Job} {action : Action} {phase : Phase σ}
  {nonce : String}

theorem step_act (h : step apply draws known world (.act nonce action) = some world') :
    ∃ worker disk phase, world.worker nonce = some worker ∧
      Effect apply world.disk worker action disk phase ∧
      world' = { world with
        disk := disk, workers := world.workers.put { worker with phase := phase } } := by
  simp only [step, Option.bind_eq_bind, Option.bind_eq_some_iff] at h
  obtain ⟨worker, hworker, h⟩ := h
  split at h
  · simp only [Option.bind_eq_some_iff, Option.some.injEq] at h
    obtain ⟨⟨disk, phase⟩, hact, rfl⟩ := h
    exact ⟨worker, disk, phase, hworker, act_effect hact, rfl⟩
  · cases h

theorem worker_put (hworker : world.worker nonce = some worker) (n : String) :
    (world.workers.put { worker with phase := phase }).get? n =
      if nonce = n then some { worker with phase := phase } else world.worker n := by
  have hkey : worker.nonce = nonce := Table.get?_key hworker
  rw [Table.get?_put, World.worker, ← hkey]

structure Exclusive (apply : Job → σ → Option σ) (world : World σ Job) : Prop where
  held : ∀ n worker inode, world.worker n = some worker → worker.phase.inode = some inode →
    world.disk.lock.map LockFile.inode = some inode
  sole : ∀ n worker m other, world.worker n = some worker → world.worker m = some other →
    worker.phase.inode ≠ none → other.phase.inode ≠ none → n = m
  snapshot : ∀ n worker updated, world.worker n = some worker →
    worker.phase.updated = some updated → apply worker.job world.disk.stored = some updated

theorem holds_of_updated {updated : σ} (h : phase.updated = some updated) : phase.inode ≠ none := by
  cases phase <;> first | cases h; done | simp [Phase.inode]

-- a worker holds the lock after a step only if it is the one that acted, or held it before
theorem Exclusive.put (h : Exclusive apply world) (hworker : world.worker nonce = some worker)
    (hheld : ∀ inode, phase.inode = some inode → disk.lock.map LockFile.inode = some inode)
    (halone : phase.inode ≠ none → ∀ n other, world.worker n = some other →
      other.phase.inode ≠ none → n = nonce)
    (hothers : ∀ n other, world.worker n = some other → n ≠ nonce → other.phase.inode ≠ none →
      disk.lock.map LockFile.inode = world.disk.lock.map LockFile.inode ∧
        disk.stored = world.disk.stored)
    (hupdated : ∀ updated, phase.updated = some updated → apply worker.job disk.stored = some updated) :
    Exclusive apply { world with
      disk := disk, workers := world.workers.put { worker with phase := phase } } := by
  have hput := @worker_put _ _ _ _ phase _ hworker
  constructor
  · intro n other inode hother hinode
    rw [World.worker, hput] at hother
    split at hother
    · cases hother
      exact hheld inode hinode
    · next hne =>
      rw [(hothers n other hother (Ne.symm hne) (by simp [hinode])).1]
      exact h.held n other inode hother hinode
  · intro n a m b ha hb hna hnb
    rw [World.worker, hput] at ha hb
    split at ha
    · next hn =>
      cases ha
      split at hb
      · next hm => exact hn.symm.trans hm
      · exact hn.symm.trans (halone hna m b hb hnb).symm
    · split at hb
      · next hm =>
        cases hb
        exact (halone hnb n a ha hna).trans hm
      · exact h.sole n a m b ha hb hna hnb
  · intro n other updated hother hphase
    rw [World.worker, hput] at hother
    split at hother
    · cases hother
      exact hupdated updated hphase
    · next hne =>
      rw [(hothers n other hother (Ne.symm hne) (holds_of_updated hphase)).2]
      exact h.snapshot n other updated hother hphase

theorem Exclusive.holder (h : Exclusive apply world) (hworker : world.worker nonce = some worker)
    (hholds : worker.phase.inode ≠ none) (n : String) (other : Worker σ Job)
    (hother : world.worker n = some other) (hne : n ≠ nonce) : other.phase.inode = none := by
  by_contra hinode
  exact hne (h.sole n other nonce worker hother hworker hinode hholds)

theorem Exclusive.act (h : Exclusive apply world) (hworker : world.worker nonce = some worker)
    (hcalm : calm world (.act nonce action : Event Job) = true)
    (heffect : Effect apply world.disk worker action disk phase) :
    Exclusive apply { world with
      disk := disk, workers := world.workers.put { worker with phase := phase } } := by
  cases heffect with
  | created hphase hlock hinode =>
    have hfree (n : String) (other : Worker σ Job) (hother : world.worker n = some other) :
        other.phase.inode = none := by
      cases hholds : other.phase.inode with
      | none => rfl
      | some inode =>
        have hheld := h.held n other inode hother hholds
        rw [hlock] at hheld
        cases hheld
    refine h.put hworker ?_ ?_ ?_ ?_
    · intro inode hwriting
      cases hwriting
      exact congrArg some hinode
    · intro _ n other hother hholds
      exact absurd (hfree n other hother) hholds
    · intro n other hother _ hholds
      exact absurd (hfree n other hother) hholds
    · intro updated hupdated
      cases hupdated
  | waited hinode hcommitted hinode' hcommitted' hupdated' =>
    refine h.put hworker ?_ ?_ ?_ ?_
    · intro inode hholds
      rw [hinode'] at hholds
      cases hholds
    · intro hholds
      exact absurd hinode' hholds
    · intros
      exact ⟨rfl, rfl⟩
    · intro updated hupdated
      rw [hupdated'] at hupdated
      cases hupdated
  | broke hphase hbreak =>
    subst hbreak
    refine h.put hworker ?_ ?_ ?_ ?_
    · intro inode hholds
      cases hholds
    · intro hholds
      exact absurd rfl hholds
    · intro n other hother _ hholds
      obtain ⟨inode, hinode⟩ := Option.ne_none_iff_exists'.mp hholds
      obtain ⟨file, hfile, hheld⟩ := Option.map_eq_some_iff.mp (h.held n other inode hother hinode)
      rw [calm, hfile, Option.all_some, List.all_eq_true] at hcalm
      have hout := hcalm other (Table.get?_mem hother)
      rw [decide_eq_true_eq, hheld] at hout
      exact absurd hinode hout
    · intro updated hupdated
      cases hupdated
  | recorded hphase hlock =>
    have hholds : worker.phase.inode ≠ none := by simp [hphase, Phase.inode]
    refine h.put hworker ?_ ?_ ?_ ?_
    · intro inode hinode
      rw [hlock]
      refine h.held nonce worker inode hworker ?_
      rw [hphase]
      exact hinode
    · intro _ n other hother hother'
      exact h.sole n other nonce worker hother hworker hother' hholds
    · intros
      exact ⟨hlock, rfl⟩
    · intro updated hupdated
      cases hupdated
  | moved hholds hinode hcommitted hupdated =>
    refine h.put hworker ?_ ?_ ?_ ?_
    · intro inode hphase
      exact h.held nonce worker inode hworker (hinode ▸ hphase)
    · intro _ n other hother hother'
      exact h.sole n other nonce worker hother hworker hother' hholds
    · intros
      exact ⟨rfl, rfl⟩
    · intro updated hphase
      rcases hupdated updated hphase with hbefore | happly
      · exact h.snapshot nonce worker updated hworker hbefore
      · exact happly
  | renamed hphase =>
    have hholds : worker.phase.inode ≠ none := by simp [hphase, Phase.inode]
    refine h.put hworker ?_ ?_ ?_ ?_
    · intro inode hinode
      refine h.held nonce worker inode hworker ?_
      rw [hphase]
      exact hinode
    · intro _ n other hother hother'
      exact h.sole n other nonce worker hother hworker hother' hholds
    · intro n other hother hne hother'
      exact absurd (h.holder hworker hholds n other hother hne) hother'
    · intro updated hupdated
      cases hupdated
  | released hphase =>
    refine h.put hworker ?_ ?_ ?_ ?_
    · intro inode hinode
      cases hinode
    · intro hholds
      exact absurd rfl hholds
    · intros
      exact ⟨rfl, rfl⟩
    · intro updated hupdated
      cases hupdated
  | unlocked hholds hcommitted =>
    refine h.put hworker ?_ ?_ ?_ ?_
    · intro inode hinode
      cases hinode
    · intro hphase
      exact absurd rfl hphase
    · intro n other hother hne hother'
      exact absurd (h.holder hworker hholds n other hother hne) hother'
    · intro updated hupdated
      cases hupdated

-- calls may end, and new ones begin, where they hold nothing
theorem Exclusive.frame (h : Exclusive apply world)
    (hlock : world'.disk.lock = world.disk.lock) (hstored : world'.disk.stored = world.disk.stored)
    (hworkers : ∀ n other, world'.worker n = some other →
      world.worker n = some other ∨ other.phase = .opening) : Exclusive apply world' := by
  have hold (n : String) (other : Worker σ Job) (hother : world'.worker n = some other)
      (hholds : other.phase.inode ≠ none) : world.worker n = some other := by
    rcases hworkers n other hother with hsame | hopening
    · exact hsame
    · rw [hopening] at hholds
      exact absurd rfl hholds
  constructor
  · intro n other inode hother hinode
    rw [hlock]
    exact h.held n other inode (hold n other hother (by simp [hinode])) hinode
  · intro n a m b ha hb hna hnb
    exact h.sole n a m b (hold n a ha hna) (hold m b hb hnb) hna hnb
  · intro n other updated hother hupdated
    rw [hstored]
    exact h.snapshot n other updated (hold n other hother (holds_of_updated hupdated)) hupdated

theorem worker_delete {p : Worker σ Job → Bool} {n : String}
    (h : (world.workers.delete p).get? n = some other) : world.worker n = some other := by
  rw [Table.get?_delete, Option.filter_eq_some_iff] at h
  exact h.1

theorem Exclusive.step (h : Exclusive apply world) (hcalm : calm world event = true)
    (hstep : step apply draws known world event = some world') : Exclusive apply world' := by
  cases event with
  | act nonce action =>
    obtain ⟨worker, disk, phase, hworker, heffect, rfl⟩ := step_act hstep
    exact h.act hworker hcalm heffect
  | begin nonce pid job =>
    simp only [Lock.step] at hstep
    split at hstep
    · cases hstep
      refine h.frame rfl rfl ?_
      intro n other hother
      rw [World.worker, Table.get?_put] at hother
      split at hother
      · cases hother
        exact .inr rfl
      · exact .inl hother
    · cases hstep
  | proceed nonce =>
    simp only [Lock.step, Option.bind_eq_bind, Option.bind_eq_some_iff] at hstep
    obtain ⟨worker, hworker, hstep⟩ := hstep
    split at hstep
    · cases hstep
      exact h.frame rfl rfl fun n other hother => .inl (worker_delete hother)
    · cases hstep
  | crash pid =>
    cases hstep
    exact h.frame rfl rfl fun n other hother => .inl (worker_delete hother)
  | tick ms =>
    cases hstep
    exact h.frame rfl rfl fun n other hother => .inl hother

def replay (apply : Job → σ → Option σ) (stored : σ) (jobs : List Job) : Option σ :=
  jobs.foldlM (fun stored job => apply job stored) stored

theorem replay_snoc {stored : σ} {jobs : List Job} {job : Job} :
    replay apply stored (jobs ++ [job]) = (replay apply stored jobs).bind (apply job) := by
  rw [replay, List.foldlM_append]
  cases h : replay apply stored jobs with
  | none =>
    rw [replay] at h
    simp [h]
  | some stored' =>
    rw [replay] at h
    simp [h]

-- every call is issued once, commits at most once, and is gone on with only after that
structure Ledger (draws : Job → List String) (known : List String) (world : World σ Job) : Prop where
  issued : ∀ a ∈ world.issued, ∀ b ∈ world.issued, a.1 ≠ b.1 →
    ∀ uuid ∈ draws a.2, uuid ∉ draws b.2
  unknown : ∀ a ∈ world.issued, ∀ uuid ∈ draws a.2, uuid ∉ known
  running : ∀ n worker, world.worker n = some worker → (n, worker.job) ∈ world.issued
  pending : ∀ n worker, world.worker n = some worker → worker.phase.committed = false →
    ∀ a ∈ world.disk.commits, a.1 ≠ n
  committed : ∀ n worker, world.worker n = some worker → worker.phase.committed = true →
    (n, worker.job) ∈ world.disk.commits
  waiting : ∀ n worker, world.worker n = some worker → ∀ a ∈ world.starts, a.1 ≠ n
  commits : world.disk.commits.Pairwise (fun a b => a.1 ≠ b.1)
  commitsIssued : ∀ a ∈ world.disk.commits, a ∈ world.issued
  starts : world.starts.Pairwise (fun a b => a.1 ≠ b.1)
  startsCommitted : ∀ a ∈ world.starts, a ∈ world.disk.commits

theorem Ledger.shrink (h : Ledger draws known world) (hissued : world'.issued = world.issued)
    (hdisk : world'.disk.commits = world.disk.commits) (hstarts : world'.starts = world.starts)
    (hworkers : ∀ n other, world'.worker n = some other → world.worker n = some other) :
    Ledger draws known world' := by
  constructor
  · rw [hissued]
    exact h.issued
  · rw [hissued]
    exact h.unknown
  · intro n other hother
    rw [hissued]
    exact h.running n other (hworkers n other hother)
  · intro n other hother
    rw [hdisk]
    exact h.pending n other (hworkers n other hother)
  · intro n other hother
    rw [hdisk]
    exact h.committed n other (hworkers n other hother)
  · intro n other hother
    rw [hstarts]
    exact h.waiting n other (hworkers n other hother)
  · rw [hdisk]
    exact h.commits
  · rw [hdisk, hissued]
    exact h.commitsIssued
  · rw [hstarts]
    exact h.starts
  · rw [hstarts, hdisk]
    exact h.startsCommitted

theorem Ledger.turn (h : Ledger draws known world) (hworker : world.worker nonce = some worker)
    (hcommits : disk.commits = world.disk.commits)
    (hphase : phase.committed = worker.phase.committed) :
    Ledger draws known { world with
      disk := disk, workers := world.workers.put { worker with phase := phase } } := by
  have hput := @worker_put _ _ _ _ phase _ hworker
  have hold (n : String) (other : Worker σ Job)
      (hother : (world.workers.put { worker with phase := phase }).get? n = some other) :
      ∃ before, world.worker n = some before ∧ other.job = before.job ∧
        other.phase.committed = before.phase.committed := by
    rw [hput] at hother
    split at hother
    · next heq =>
      cases hother
      exact ⟨worker, heq ▸ hworker, rfl, hphase⟩
    · exact ⟨other, hother, rfl, rfl⟩
  constructor
  · exact h.issued
  · exact h.unknown
  · intro n other hother
    obtain ⟨before, hbefore, hjob, -⟩ := hold n other hother
    rw [hjob]
    exact h.running n before hbefore
  · intro n other hother hpending
    obtain ⟨before, hbefore, -, hsame⟩ := hold n other hother
    rw [hcommits]
    exact h.pending n before hbefore (hsame ▸ hpending)
  · intro n other hother hcommitted
    obtain ⟨before, hbefore, hjob, hsame⟩ := hold n other hother
    rw [hcommits, hjob]
    exact h.committed n before hbefore (hsame ▸ hcommitted)
  · intro n other hother
    obtain ⟨before, hbefore, -⟩ := hold n other hother
    exact h.waiting n before hbefore
  · rw [hcommits]
    exact h.commits
  · rw [hcommits]
    exact h.commitsIssued
  · exact h.starts
  · rw [hcommits]
    exact h.startsCommitted

theorem Ledger.commit {updated : σ} {inode : Nat} (h : Ledger draws known world)
    (hworker : world.worker nonce = some worker) (hphase : worker.phase = .renaming inode updated) :
    Ledger draws known { world with
      disk := { world.disk with
        stored := updated, commits := world.disk.commits ++ [(worker.nonce, worker.job)] }
      workers := world.workers.put { worker with phase := .closing inode true } } := by
  have hkey : worker.nonce = nonce := Table.get?_key hworker
  have hnew := h.pending nonce worker hworker (by rw [hphase]; rfl)
  have hput := @worker_put _ _ _ _ (.closing inode true) _ hworker
  constructor
  · exact h.issued
  · exact h.unknown
  · intro n other hother
    rw [World.worker, hput] at hother
    split at hother
    · next heq =>
      cases hother
      exact heq ▸ h.running nonce worker hworker
    · exact h.running n other hother
  · intro n other hother hpending a ha
    rw [World.worker, hput] at hother
    split at hother
    · cases hother
      cases hpending
    · next hne =>
      rcases List.mem_append.mp ha with ha | ha
      · exact h.pending n other hother hpending a ha
      · rw [List.mem_singleton.mp ha, hkey]
        exact hne
  · intro n other hother hcommitted
    rw [World.worker, hput] at hother
    apply List.mem_append.mpr
    split at hother
    · next heq =>
      cases hother
      right
      rw [List.mem_singleton, ← heq, hkey]
    · exact .inl (h.committed n other hother hcommitted)
  · intro n other hother
    rw [World.worker, hput] at hother
    split at hother
    · next heq =>
      exact heq ▸ h.waiting nonce worker hworker
    · exact h.waiting n other hother
  · rw [List.pairwise_append]
    refine ⟨h.commits, List.pairwise_singleton _ _, ?_⟩
    intro a ha b hb
    rw [List.mem_singleton.mp hb, hkey]
    exact hnew a ha
  · intro a ha
    rcases List.mem_append.mp ha with ha | ha
    · exact h.commitsIssued a ha
    · rw [List.mem_singleton.mp ha, hkey]
      exact h.running nonce worker hworker
  · exact h.starts
  · intro a ha
    exact List.mem_append_left _ (h.startsCommitted a ha)

theorem Ledger.begin {pid : Nat} {job : Job} (h : Ledger draws known world)
    (hissuable : issuable draws known world nonce job = true) :
    Ledger draws known { world with
      issued := world.issued ++ [(nonce, job)]
      workers := world.workers.put ⟨nonce, pid, world.disk.now + waitMs, job, .opening⟩ } := by
  simp only [issuable, Bool.and_eq_true, List.all_eq_true, decide_eq_true_eq, Bool.not_eq_true',
    List.contains_eq_mem, decide_eq_false_iff_not] at hissuable
  obtain ⟨hknown, hfresh⟩ := hissuable
  have hput (n : String) : (world.workers.put ⟨nonce, pid, world.disk.now + waitMs, job, .opening⟩).get? n =
      if nonce = n then some ⟨nonce, pid, world.disk.now + waitMs, job, .opening⟩ else world.worker n :=
    Table.get?_put
  constructor
  · intro a ha b hb hne uuid hdraws hdraws'
    rcases List.mem_append.mp ha with ha | ha
    · rcases List.mem_append.mp hb with hb | hb
      · exact h.issued a ha b hb hne uuid hdraws hdraws'
      · rw [List.mem_singleton.mp hb] at hdraws'
        exact (hfresh a ha).2 uuid hdraws' hdraws
    · rw [List.mem_singleton.mp ha] at hdraws hne
      rcases List.mem_append.mp hb with hb | hb
      · exact (hfresh b hb).2 uuid hdraws hdraws'
      · rw [List.mem_singleton.mp hb] at hne
        exact hne rfl
  · intro a ha uuid hdraws
    rcases List.mem_append.mp ha with ha | ha
    · exact h.unknown a ha uuid hdraws
    · rw [List.mem_singleton.mp ha] at hdraws
      exact hknown uuid hdraws
  · intro n other hother
    rw [World.worker, hput] at hother
    apply List.mem_append.mpr
    split at hother
    · next heq =>
      cases hother
      right
      rw [List.mem_singleton, heq]
    · exact .inl (h.running n other hother)
  · intro n other hother hpending a ha
    rw [World.worker, hput] at hother
    split at hother
    · next heq =>
      rw [← heq]
      exact (hfresh a (h.commitsIssued a ha)).1
    · exact h.pending n other hother hpending a ha
  · intro n other hother hcommitted
    rw [World.worker, hput] at hother
    split at hother
    · cases hother
      cases hcommitted
    · exact h.committed n other hother hcommitted
  · intro n other hother a ha
    rw [World.worker, hput] at hother
    split at hother
    · next heq =>
      rw [← heq]
      exact (hfresh a (h.commitsIssued a (h.startsCommitted a ha))).1
    · exact h.waiting n other hother a ha
  · exact h.commits
  · intro a ha
    exact List.mem_append_left _ (h.commitsIssued a ha)
  · exact h.starts
  · exact h.startsCommitted

theorem Ledger.proceed {committed : Bool} (h : Ledger draws known world)
    (hworker : world.worker nonce = some worker) (hphase : worker.phase = .returned committed) :
    Ledger draws known { world with
      workers := world.workers.delete fun other => other.nonce = nonce
      starts := if committed then world.starts ++ [(nonce, worker.job)] else world.starts } := by
  have hgone (n : String) (other : Worker σ Job)
      (hother : (world.workers.delete fun other => other.nonce = nonce).get? n = some other) :
      n ≠ nonce ∧ world.worker n = some other := by
    rw [Table.get?_delete, Option.filter_eq_some_iff] at hother
    have hkey : other.nonce = n := Table.get?_key hother.1
    refine ⟨?_, hother.1⟩
    rintro rfl
    simp [hkey] at hother
  have hstart : committed = true → (nonce, worker.job) ∈ world.disk.commits := by
    intro hcommitted
    refine h.committed nonce worker hworker ?_
    rw [hphase]
    exact hcommitted
  have hmem (a : String × Job)
      (ha : a ∈ if committed then world.starts ++ [(nonce, worker.job)] else world.starts) :
      a ∈ world.starts ∨ committed = true ∧ a = (nonce, worker.job) := by
    split at ha
    · next hcommitted =>
      rcases List.mem_append.mp ha with ha | ha
      · exact .inl ha
      · exact .inr ⟨hcommitted, List.mem_singleton.mp ha⟩
    · exact .inl ha
  constructor
  · exact h.issued
  · exact h.unknown
  · intro n other hother
    exact h.running n other (hgone n other hother).2
  · intro n other hother
    exact h.pending n other (hgone n other hother).2
  · intro n other hother
    exact h.committed n other (hgone n other hother).2
  · intro n other hother a ha
    obtain ⟨hne, hbefore⟩ := hgone n other hother
    rcases hmem a ha with ha | ⟨-, rfl⟩
    · exact h.waiting n other hbefore a ha
    · exact hne.symm
  · exact h.commits
  · exact h.commitsIssued
  · show (if committed then world.starts ++ [(nonce, worker.job)] else world.starts).Pairwise _
    split
    · rw [List.pairwise_append]
      refine ⟨h.starts, List.pairwise_singleton _ _, ?_⟩
      intro a ha b hb
      rw [List.mem_singleton.mp hb]
      exact h.waiting nonce worker hworker a ha
    · exact h.starts
  · intro a ha
    rcases hmem a ha with ha | ⟨hcommitted, rfl⟩
    · exact h.startsCommitted a ha
    · exact hstart hcommitted

theorem Ledger.act (h : Ledger draws known world) (hworker : world.worker nonce = some worker)
    (heffect : Effect apply world.disk worker action disk phase) :
    Ledger draws known { world with
      disk := disk, workers := world.workers.put { worker with phase := phase } } := by
  cases heffect with
  | created hphase => exact h.turn hworker rfl (by rw [hphase]; rfl)
  | waited _ hcommitted _ hcommitted' => exact h.turn hworker rfl (by rw [hcommitted, hcommitted'])
  | broke hphase => exact h.turn hworker rfl (by rw [hphase]; rfl)
  | recorded hphase => exact h.turn hworker rfl (by rw [hphase]; rfl)
  | moved _ _ hcommitted => exact h.turn hworker rfl hcommitted
  | renamed hphase => exact h.commit hworker hphase
  | released hphase => exact h.turn hworker rfl (by rw [hphase]; rfl)
  | unlocked _ hcommitted => exact h.turn hworker rfl hcommitted.symm

theorem Ledger.step (h : Ledger draws known world)
    (hstep : step apply draws known world event = some world') : Ledger draws known world' := by
  cases event with
  | act nonce action =>
    obtain ⟨worker, disk, phase, hworker, heffect, rfl⟩ := step_act hstep
    exact h.act hworker heffect
  | begin nonce pid job =>
    simp only [Lock.step] at hstep
    split at hstep
    · next hissuable =>
      cases hstep
      exact h.begin hissuable
    · cases hstep
  | proceed nonce =>
    simp only [Lock.step, Option.bind_eq_bind, Option.bind_eq_some_iff] at hstep
    obtain ⟨worker, hworker, hstep⟩ := hstep
    split at hstep
    · next hphase =>
      cases hstep
      exact h.proceed hworker hphase
    · cases hstep
  | crash pid =>
    cases hstep
    exact h.shrink rfl rfl rfl fun n other hother => worker_delete hother
  | tick ms =>
    cases hstep
    exact h.shrink rfl rfl rfl fun n other hother => hother

theorem replay_step {stored : σ} (h : Exclusive apply world)
    (hreplay : replay apply stored (world.disk.commits.map Prod.snd) = some world.disk.stored)
    (hstep : step apply draws known world event = some world') :
    replay apply stored (world'.disk.commits.map Prod.snd) = some world'.disk.stored := by
  cases event with
  | act nonce action =>
    obtain ⟨worker, disk, phase, hworker, heffect, rfl⟩ := step_act hstep
    cases heffect with
    | renamed hphase =>
      rw [List.map_append, List.map_singleton, replay_snoc, hreplay]
      exact h.snapshot nonce worker _ hworker (by rw [hphase]; rfl)
    | _ => exact hreplay
  | begin nonce pid job =>
    simp only [step] at hstep
    split at hstep
    · cases hstep
      exact hreplay
    · cases hstep
  | proceed nonce =>
    simp only [step, Option.bind_eq_bind, Option.bind_eq_some_iff] at hstep
    obtain ⟨worker, hworker, hstep⟩ := hstep
    split at hstep
    · cases hstep
      exact hreplay
    · cases hstep
  | crash pid =>
    cases hstep
    exact hreplay
  | tick ms =>
    cases hstep
    exact hreplay

def CalmStep (apply : Job → σ → Option σ) (draws : Job → List String) (known : List String)
    (world : World σ Job) (event : Event Job) (world' : World σ Job) : Prop :=
  step apply draws known world event = some world' ∧ calm world event = true

-- no call runs yet; a lock file may be left from before
def World.start (now : Int) (lock : Option LockFile) (stored : σ) : World σ Job where
  disk := ⟨now, lock, (lock.map LockFile.inode).elim 0 (· + 1), stored, []⟩
  workers := Table.empty
  issued := []
  starts := []

theorem exclusive_start {now : Int} {lock : Option LockFile} {stored : σ} :
    Exclusive apply (World.start now lock stored : World σ Job) where
  held _ _ _ h := by cases h
  sole _ _ _ _ h := by cases h
  snapshot _ _ _ h := by cases h

theorem ledger_start {now : Int} {lock : Option LockFile} {stored : σ} :
    Ledger draws known (World.start now lock stored : World σ Job) where
  issued _ h := by cases h
  unknown _ h := by cases h
  running _ _ h := by cases h
  pending _ _ h := by cases h
  committed _ _ h := by cases h
  waiting _ _ h := by cases h
  commits := .nil
  commitsIssued _ h := by cases h
  starts := .nil
  startsCommitted _ h := by cases h

theorem calm_run {now : Int} {lock : Option LockFile} {stored : σ} {events : List (Event Job)}
    (h : Trace (CalmStep apply draws known) (World.start now lock stored) events world) :
    Exclusive apply world ∧ Ledger draws known world ∧
      replay apply stored (world.disk.commits.map Prod.snd) = some world.disk.stored := by
  refine h.invariant (P := fun world => Exclusive apply world ∧ Ledger draws known world ∧
    replay apply stored (world.disk.commits.map Prod.snd) = some world.disk.stored)
    ⟨exclusive_start, ledger_start, rfl⟩ ?_
  rintro world event world' ⟨hexclusive, hledger, hreplay⟩ ⟨hstep, hcalm⟩
  exact ⟨hexclusive.step hcalm hstep, hledger.step hstep, replay_step hexclusive hreplay hstep⟩

end Obulus.Local.Lock

namespace Obulus.Local

open Foundation

variable {platform : Platform} {config : Config} {state state' : State} {intentId : String}
  {updates : List Update} {update : Update}

def Update.claims (intentId : String) : Update → Bool
  | .claim named _ => named = intentId
  | _ => false

-- the intent ids an update makes from a randomUUID
def Update.draws : Update → List String
  | .prepare intentId _ _ _ _ => [intentId]
  | .prepareOpenCall intentId _ _ _ _ _ _ => [intentId]
  | _ => []

theorem prepares_iff : update.prepares intentId = true ↔ intentId ∈ update.draws := by
  cases update <;> simp [Update.prepares, Update.draws, eq_comm]

def applied (platform : Platform) (config : Config) (update : Update) (state : State) : Option State :=
  (update.apply platform config state).toOption

structure ClaimedOnce (start : State) (intentId : String) (updates : List Update) (state : State) : Prop where
  known : state.paymentIntents.get intentId ≠ none → start.paymentIntents.get intentId ≠ none ∨
    ∃ update ∈ updates, update.prepares intentId = true
  once : updates.countP (Update.claims intentId) = 0 ∨
    updates.countP (Update.claims intentId) = 1 ∧
      (start.paymentIntents.get intentId ≠ none ∨ ∃ update ∈ updates, update.prepares intentId = true) ∧
      ∀ intent, state.paymentIntents.get intentId = some intent → intent.status.begun = true

theorem ClaimedOnce.apply {start : State} (h : ClaimedOnce start intentId updates state)
    (hfresh : update.prepares intentId = true → start.paymentIntents.get intentId = none ∧
      ∀ before ∈ updates, before.prepares intentId = false)
    (happly : update.apply platform config state = .ok state') :
    ClaimedOnce start intentId (updates ++ [update]) state' := by
  have hmove : IntentMove intentId update (state.paymentIntents.get intentId)
      (state'.paymentIntents.get intentId) := apply_moves happly
  have hgrows (hmade : start.paymentIntents.get intentId ≠ none ∨
      ∃ update ∈ updates, update.prepares intentId = true) :
      start.paymentIntents.get intentId ≠ none ∨
        ∃ before ∈ updates ++ [update], before.prepares intentId = true := by
    rcases hmade with hstart | ⟨before, hmem, hprepares⟩
    · exact .inl hstart
    · exact .inr ⟨before, List.mem_append_left _ hmem, hprepares⟩
  have hquiet (hmade : start.paymentIntents.get intentId ≠ none ∨
      ∃ update ∈ updates, update.prepares intentId = true) : update.prepares intentId = false := by
    by_contra hprepares
    obtain ⟨hnone, hnew⟩ := hfresh (by simpa using hprepares)
    rcases hmade with hstart | ⟨before, hmem, hbefore⟩
    · exact hstart hnone
    · rw [hnew before hmem] at hbefore
      cases hbefore
  have hcount : (updates ++ [update]).countP (Update.claims intentId) =
      updates.countP (Update.claims intentId) + if update.claims intentId then 1 else 0 := by
    rw [List.countP_append, List.countP_singleton]
  constructor
  · intro hsome
    cases hbefore : state.paymentIntents.get intentId with
    | some intent => exact hgrows (h.known (by simp [hbefore]))
    | none =>
      rw [hbefore] at hmove
      cases hprepares : update.prepares intentId with
      | true => exact .inr ⟨update, by simp, hprepares⟩
      | false => exact absurd (hmove.absent hprepares) hsome
  · rw [hcount]
    cases hclaims : update.claims intentId with
    | false =>
      rcases h.once with hzero | ⟨hone, hmade, hbegun⟩
      · exact .inl (by simpa using hzero)
      · refine .inr ⟨by simpa using hone, hgrows hmade, ?_⟩
        intro intent' hafter
        cases hbefore : state.paymentIntents.get intentId with
        | none =>
          rw [hbefore] at hmove
          rw [hmove.absent (hquiet hmade)] at hafter
          cases hafter
        | some intent =>
          rw [hbefore, hafter] at hmove
          exact (hmove.same (hquiet hmade)).2.begun (hbegun intent hbefore)
    | true =>
      cases update with
      | claim named now =>
        have hnamed : named = intentId := by simpa [Update.claims] using hclaims
        subst hnamed
        rw [Update.apply, map_eq_ok] at happly
        obtain ⟨result, hclaim, rfl⟩ := happly
        obtain ⟨intent, hget, hstatus, -, rfl⟩ := claimIntent_ok hclaim
        have hmade := h.known (by simp [hget])
        rcases h.once with hzero | ⟨-, -, hbegun⟩
        · refine .inr ⟨by simpa using hzero, hgrows hmade, ?_⟩
          intro intent' hafter
          rw [get_setIntent, if_pos rfl] at hafter
          cases hafter
          rfl
        · have hout := hbegun intent hget
          rw [hstatus] at hout
          cases hout
      | _ => cases hclaims

theorem claimed_once {start : State} (hreplay : Lock.replay (applied platform config) start updates = some state)
    (hdistinct : updates.Pairwise fun a b => ∀ uuid ∈ a.draws, uuid ∉ b.draws)
    (hunknown : ∀ update ∈ updates, ∀ uuid ∈ update.draws, start.paymentIntents.get uuid = none) :
    ClaimedOnce start intentId updates state := by
  induction updates using List.reverseRecOn generalizing state with
  | nil =>
    cases hreplay
    exact ⟨.inl, .inl rfl⟩
  | append_singleton updates update ih =>
    rw [Lock.replay_snoc, Option.bind_eq_some_iff] at hreplay
    obtain ⟨before, hbefore, happly⟩ := hreplay
    rw [List.pairwise_append] at hdistinct
    obtain ⟨hpast, -, hlast⟩ := hdistinct
    have hclaimed := ih hbefore hpast fun update hmem => hunknown update (List.mem_append_left _ hmem)
    refine hclaimed.apply ?_ (toOption_eq_some.mp happly)
    intro hprepares
    refine ⟨hunknown update (by simp) intentId (prepares_iff.mp hprepares), ?_⟩
    intro earlier hmem
    by_contra hearlier
    rw [Bool.not_eq_false, prepares_iff] at hearlier
    exact hlast earlier hmem update (by simp) intentId hearlier (prepares_iff.mp hprepares)

theorem countP_le_one_of_subset {calls : List (String × Update)} {all : List (String × Update)}
    {p : Update → Bool} (hcalls : calls.Pairwise fun a b => a.1 ≠ b.1) (hsub : ∀ a ∈ calls, a ∈ all)
    (hall : (all.map Prod.snd).countP p ≤ 1) : (calls.map Prod.snd).countP p ≤ 1 := by
  have hnodup : calls.Nodup := hcalls.imp fun hne heq => hne (congrArg Prod.fst heq)
  have hle := (List.subperm_of_subset hnodup hsub).countP_le (p ∘ Prod.snd)
  rw [List.countP_map] at hall ⊢
  exact Nat.le_trans hle hall

def storedIds (state : State) : List String := state.paymentIntents.rows.map Prod.fst

def AgentStep (platform : Platform) (config : Config) (known : List String) :
    Lock.World State Update → Lock.Event Update → Lock.World State Update → Prop :=
  Lock.CalmStep (applied platform config) Update.draws known

theorem locked_updates_exclusive {now : Int} {lock : Option Lock.LockFile} {stored : State}
    {events : List (Lock.Event Update)} {world : Lock.World State Update}
    (h : Trace (AgentStep platform config (storedIds stored)) (Lock.World.start now lock stored) events
      world) :
    (∀ a ∈ world.workers.rows, ∀ b ∈ world.workers.rows,
      a.phase.inside = true → b.phase.inside = true → a = b) ∧
    Lock.replay (applied platform config) stored (world.disk.commits.map Prod.snd) =
      some world.disk.stored ∧
    ∀ intentId, (world.starts.map Prod.snd).countP (Update.claims intentId) ≤ 1 := by
  obtain ⟨hexclusive, hledger, hreplay⟩ := Lock.calm_run h
  refine ⟨?_, hreplay, ?_⟩
  · intro a ha b hb hinside hinside'
    have hholds {phase : Lock.Phase State} (hphase : phase.inside = true) : phase.inode ≠ none := by
      cases phase <;> first | cases hphase; done | simp [Lock.Phase.inode]
    have hnonce := hexclusive.sole a.nonce a b.nonce b (Table.get?_of_mem ha) (Table.get?_of_mem hb)
      (hholds hinside) (hholds hinside')
    have hget := Table.get?_of_mem ha
    rw [hnonce, Table.get?_of_mem hb] at hget
    exact (Option.some.inj hget).symm
  · intro intentId
    refine countP_le_one_of_subset hledger.starts hledger.startsCommitted ?_
    have hdistinct : (world.disk.commits.map Prod.snd).Pairwise fun a b =>
        ∀ uuid ∈ a.draws, uuid ∉ b.draws := by
      rw [List.pairwise_map]
      refine hledger.commits.imp_of_mem ?_
      intro a b ha hb hne
      exact hledger.issued a (hledger.commitsIssued a ha) b (hledger.commitsIssued b hb) hne
    have hunknown : ∀ update ∈ world.disk.commits.map Prod.snd, ∀ uuid ∈ update.draws,
        stored.paymentIntents.get uuid = none := by
      intro update hmem uuid hdraws
      obtain ⟨call, hcall, rfl⟩ := List.mem_map.mp hmem
      have hout := hledger.unknown call (hledger.commitsIssued call hcall) uuid hdraws
      rw [Entries.get_eq_none, Table.get?_eq_none]
      intro entry hentry hkey
      exact hout (List.mem_map.mpr ⟨entry, hentry, hkey⟩)
    rcases (@claimed_once _ _ _ intentId _ _ hreplay hdistinct hunknown).once with hzero | ⟨hone, -⟩
    · omega
    · omega

section Sample

def sampleApproved : PaymentIntent :=
  (preparedIntent samplePlatform none "qry_1" "devnet" samplePlan sampleBinding 1000).approve 2000 "b"

def sampleStored : State :=
  { emptyState with paymentIntents := ⟨[("intent_a", sampleApproved)], by simp⟩ }

-- the process that held this lock is gone
def deadLock : Lock.LockFile := ⟨0, some ⟨some 7, some "old", some 0⟩, 0⟩

def sampleWorld : Lock.World State Update := .start 40000 (some deadLock) sampleStored

def sampleStep : Lock.World State Update → Lock.Event Update → Option (Lock.World State Update) :=
  Lock.step (applied samplePlatform sampleConfig) Update.draws (storedIds sampleStored)

def judged (nonce : String) : List (Lock.Event Update) :=
  [.act nonce .create, .act nonce .readRecord, .act nonce .statLock, .act nonce (.assess false)]

def entered (nonce : String) : List (Lock.Event Update) :=
  [.act nonce .breakLock, .act nonce .create, .act nonce .writeRecord]

def finished (nonce : String) : List (Lock.Event Update) :=
  [.act nonce .writeTemporary, .act nonce .renameTemporary, .act nonce (.readOwn true),
    .act nonce .unlock, .proceed nonce]

def sampleAlone : List (Lock.Event Update) :=
  .begin "n1" 11 (.claim "intent_a" 3000) :: judged "n1" ++ entered "n1" ++
    .act "n1" .readState :: finished "n1"

-- both calls judge the dead lock before either of them breaks it
def sampleMeeting : List (Lock.Event Update) :=
  .begin "n1" 11 (.claim "intent_a" 3000) :: .begin "n2" 12 (.claim "intent_a" 3000) ::
    judged "n1" ++ judged "n2" ++ entered "n1" ++ .act "n1" .readState :: entered "n2" ++
    [.act "n2" .readState]

-- the first call finds another record in the lock and leaves it
def sampleBoth : List (Lock.Event Update) :=
  [.act "n1" .writeTemporary, .act "n1" .renameTemporary, .act "n1" (.readOwn true),
    .proceed "n1"] ++ finished "n2"

def sampleCalm (world : Lock.World State Update) (event : Lock.Event Update) :
    Option (Lock.World State Update) :=
  if Lock.calm world event then sampleStep world event else none

theorem agentStep_of_calm (world : Lock.World State Update) (event : Lock.Event Update)
    (world' : Lock.World State Update) (h : sampleCalm world event = some world') :
    AgentStep samplePlatform sampleConfig (storedIds sampleStored) world event world' := by
  rw [sampleCalm] at h
  split at h
  · next hcalm => exact ⟨h, hcalm⟩
  · cases h

theorem sampleAlone_runs :
    (runWith sampleCalm sampleWorld sampleAlone).any (fun world => world.starts.length == 1) = true := by
  decide +kernel

theorem sampleMeeting_runs : (runWith sampleStep sampleWorld sampleMeeting).any (fun world =>
    (world.workers.rows.all fun worker => worker.phase.inside) &&
      (world.workers.rows.map fun worker => worker.pid) == [11, 12] &&
      (runWith sampleStep world sampleBoth).any fun world' =>
        (world'.starts.map Prod.snd).countP (Update.claims "intent_a") == 2) = true := by
  decide +kernel

theorem locked_updates_exclusive_sample :
    ∃ world, Trace (AgentStep samplePlatform sampleConfig (storedIds sampleStored)) sampleWorld
        sampleAlone world ∧ world.starts.length = 1 ∧
      Lock.replay (applied samplePlatform sampleConfig) sampleStored
        (world.disk.commits.map Prod.snd) = some world.disk.stored := by
  obtain ⟨world, hworld, hstarts⟩ := (Option.any_eq_true _ _).mp sampleAlone_runs
  have hrun := runWith_trace agentStep_of_calm hworld
  exact ⟨world, hrun, by simpa using hstarts, (locked_updates_exclusive hrun).2.1⟩

theorem intent_executed_twice :
    ∃ world world', Trace (fun u e v => sampleStep u e = some v) sampleWorld sampleMeeting world ∧
      (∃ a ∈ world.workers.rows, ∃ b ∈ world.workers.rows, a.pid ≠ b.pid ∧
        a.phase.inside = true ∧ b.phase.inside = true) ∧
      Trace (fun u e v => sampleStep u e = some v) world sampleBoth world' ∧
      (world'.starts.map Prod.snd).countP (Update.claims "intent_a") = 2 := by
  obtain ⟨world, hworld, hsample⟩ := (Option.any_eq_true _ _).mp sampleMeeting_runs
  simp only [Bool.and_eq_true, beq_iff_eq, Option.any_eq_true, List.all_eq_true] at hsample
  obtain ⟨⟨hinside, hpids⟩, world', hfinished, hcount⟩ := hsample
  refine ⟨world, world', runWith_trace (fun _ _ _ h => h) hworld, ?_,
    runWith_trace (fun _ _ _ h => h) hfinished, hcount⟩
  have hfirst : 11 ∈ world.workers.rows.map fun worker => worker.pid := by rw [hpids]; simp
  have hsecond : 12 ∈ world.workers.rows.map fun worker => worker.pid := by rw [hpids]; simp
  obtain ⟨a, ha, hpid⟩ := List.mem_map.mp hfirst
  obtain ⟨b, hb, hpid'⟩ := List.mem_map.mp hsecond
  exact ⟨a, ha, b, hb, by omega, hinside a ha, hinside b hb⟩

end Sample

end Obulus.Local
