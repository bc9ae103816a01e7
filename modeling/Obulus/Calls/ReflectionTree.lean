import Obulus.Calls.Promotion
import Obulus.Calls.Closed

namespace Obulus.Calls

open Foundation Store Funds

section Tree

variable {S : List MemoryEntry} {lv : String → Nat} {m r r' : MemoryEntry} {l : Nat}

-- of the settled rows of one contributor, with the level of each
structure Tree (S : List MemoryEntry) (lv : String → Nat) : Prop where
  leaf : ∀ m ∈ S, m.memoryType ≠ .reflection → lv m.id = 0
  sources : ∀ r ∈ S, r.memoryType = .reflection → r.sourceIds.length = 3 ∧ r.sourceIds.Nodup ∧
    ∀ s ∈ r.sourceIds, lv r.id = lv s + 1 ∧ ∃ m ∈ S, m.id = s
  once : ∀ r ∈ S, r.memoryType = .reflection → ∀ r' ∈ S, r'.memoryType = .reflection →
    ∀ s ∈ r.sourceIds, s ∈ r'.sourceIds → r = r'
  promoted : ∀ l, 0 < l → l < 5 →
    (S.filter fun m => decide (m.memoryType = .reflection ∧ lv m.id = l ∧ ¬isSource S m)).length < 3

theorem Tower.sources_above (h : Tower S lv) (hl : 0 < l) (hbound : l < 5) :
    (tier S lv (l + 1)).map MemoryEntry.sourceIds =
      (chunksExact (tier S lv l)).map fun chunk => chunk.map MemoryEntry.id := by
  have hfirst := congrArg (List.map Prod.fst) (h.full l hl (by omega))
  rw [List.map_map, List.map_map] at hfirst
  exact hfirst

theorem Tower.tier_ids (h : Tower S lv) : ((tier S lv l).map MemoryEntry.id).Nodup :=
  h.ids.sublist (List.filter_sublist.map _)

theorem Tower.level_bounds (h : Tower S lv) (hr : r ∈ S) (htype : r.memoryType = .reflection) :
    ∃ j, j < 5 ∧ lv r.id = j + 1 := by
  have hpos := h.ranked.positive hr htype
  have hbound := h.ranked.bounded r hr
  exact ⟨lv r.id - 1, by omega, by omega⟩

theorem Tower.once_at (h : Tower S lv) (hbound : l < 5) :
    ((tier S lv (l + 1)).flatMap MemoryEntry.sourceIds).Nodup := by
  rcases Nat.eq_zero_or_pos l with rfl | hl
  · exact h.once
  · have hchunks : ((tier S lv (l + 1)).flatMap MemoryEntry.sourceIds) =
        (chunksExact (tier S lv l)).flatten.map MemoryEntry.id := by
      rw [List.flatMap_def, h.sources_above hl hbound, List.map_flatten]
    rw [hchunks]
    exact h.tier_ids.sublist ((chunksExact_sublist _).map _)

theorem Tower.three (h : Tower S lv) (hr : r ∈ S) (htype : r.memoryType = .reflection) :
    r.sourceIds.length = 3 := by
  obtain ⟨j, hj, hlevel⟩ := h.level_bounds hr htype
  have htier : r ∈ tier S lv (j + 1) := mem_tier.mpr ⟨hr, htype, hlevel⟩
  rcases Nat.eq_zero_or_pos j with rfl | hpos
  · exact h.first r htier
  · have hmem : r.sourceIds ∈ (tier S lv (j + 1)).map MemoryEntry.sourceIds :=
      List.mem_map_of_mem htier
    rw [h.sources_above hpos hj] at hmem
    obtain ⟨chunk, hchunk, hids⟩ := List.mem_map.mp hmem
    rw [← hids, List.length_map]
    exact chunksExact_length hchunk

theorem Tower.shared (h : Tower S lv) (hr : r ∈ S) (htype : r.memoryType = .reflection)
    (hr' : r' ∈ S) (htype' : r'.memoryType = .reflection) {s : String} (hs : s ∈ r.sourceIds)
    (hs' : s ∈ r'.sourceIds) : r = r' := by
  obtain ⟨j, hj, hlevel⟩ := h.level_bounds hr htype
  have hsame : lv r'.id = j + 1 := by
    have h₁ := ((h.ranked.node r hr htype).2 s hs).1
    have h₂ := ((h.ranked.node r' hr' htype').2 s hs').1
    omega
  exact eq_of_shared (h.once_at hj) (mem_tier.mpr ⟨hr, htype, hlevel⟩)
    (mem_tier.mpr ⟨hr', htype', hsame⟩) hs hs'

theorem Tower.distinct (h : Tower S lv) (hr : r ∈ S) (htype : r.memoryType = .reflection) :
    r.sourceIds.Nodup := by
  obtain ⟨j, hj, hlevel⟩ := h.level_bounds hr htype
  exact (List.nodup_flatMap.mp (h.once_at hj)).1 r (mem_tier.mpr ⟨hr, htype, hlevel⟩)

-- the rows of full chunks are sources of the next level
theorem Tower.promoted (h : Tower S lv) (hl : 0 < l) (hbound : l < 5) :
    (S.filter fun m => decide (m.memoryType = .reflection ∧ lv m.id = l ∧ ¬isSource S m)).length <
      3 := by
  have hsplit : (S.filter fun m => decide (m.memoryType = .reflection ∧ lv m.id = l ∧
      ¬isSource S m)) = (tier S lv l).filter fun m => decide (¬isSource S m) := by
    rw [tier, List.filter_filter]
    refine List.filter_congr fun m _ => ?_
    rw [Bool.eq_iff_iff]
    simp only [Bool.and_eq_true, decide_eq_true_eq]
    tauto
  obtain ⟨rest, hrest, hshort⟩ := chunksExact_flatten (tier S lv l)
  rw [hsplit, hrest, List.filter_append, List.filter_eq_nil_iff.mpr, List.nil_append]
  · exact (List.length_filter_le _ _).trans_lt hshort
  · intro m hm
    obtain ⟨chunk, hchunk, hin⟩ := List.mem_flatten.mp hm
    have hmem : chunk.map MemoryEntry.id ∈ (tier S lv (l + 1)).map MemoryEntry.sourceIds := by
      rw [h.sources_above hl hbound]
      exact List.mem_map_of_mem hchunk
    obtain ⟨parent, hparent, hids⟩ := List.mem_map.mp hmem
    obtain ⟨hS, htype, -⟩ := mem_tier.mp hparent
    have hsource : isSource S m :=
      ⟨parent, hS, htype, hids ▸ List.mem_map_of_mem hin⟩
    simpa using hsource

theorem Tower.tree (h : Tower S lv) : Tree S lv := by
  refine ⟨h.ranked.leaf, fun r hr htype => ⟨h.three hr htype, h.distinct hr htype, fun s hs => ?_⟩,
    fun r hr htype r' hr' htype' s hs hs' => h.shared hr htype hr' htype' hs hs',
    fun l => h.promoted⟩
  obtain ⟨hlevel, hsource⟩ := (h.ranked.node r hr htype).2 s hs
  exact ⟨hlevel.symm, hsource⟩

end Tree

section Effects

variable {app : Appraisal} {summary : Summary} {newId : Nat → String} {db db' : Database}
  {ids : AnswerIds} {newest : List MemoryEntry} {now createdAt : Nat} {request : AnswerRequest}
  {userId memoryId : String}

-- the rows of the transaction once an accepted answer is inserted
def insertedRows (app : Appraisal) (db : Database) (ids : AnswerIds) (createdAt : Nat)
    (request : AnswerRequest) : Option (List MemoryEntry) := do
  let interview ← (checkAnswer request).toOption
  let (call, _) ← (admission app db request).toOption
  guard (answerIssues app db request call = [])
  return db.memoryEntries.rows ++ [answerEntry ids createdAt request call interview []]

theorem accept_memories {call : StoredCall} {payout : Option OnchainPayout}
    {interview : List InterviewResponse} {reflections : List Reflection}
    (h : acceptAnswer app db ids reflections createdAt request call payout interview = .ok db') :
    db'.memoryEntries.rows = db.memoryEntries.rows ++
      [answerEntry ids createdAt request call interview []] ++
        reflections.map (Reflection.entry request.user) := by
  simp only [acceptAnswer, bind_eq_ok, asI64_eq_ok, reject_eq_ok, exists_const, insertMemory_eq_ok,
    pure_eq_ok] at h
  obtain ⟨_, -, time, ⟨-, htime⟩, -, drawn, hdraw, _, ⟨entries, hm, rfl⟩, mid, hreflections, paid,
    hpay, rfl⟩ := h
  obtain rfl := htime.symm
  obtain ⟨row, remaining, hdrawn⟩ := drawEscrow_drawn hdraw
  obtain ⟨entries', hmid, hrows⟩ := insertReflections_effect hreflections
  obtain ⟨e, hframe, -⟩ := payAnswer_frame hpay
  obtain ⟨documents, hkept⟩ := @insertDocument_frame db (answerDocument app ids createdAt request call)
  have hclosed : (closeIfFilled paid call).memoryEntries = paid.memoryEntries := by
    unfold closeIfFilled
    split <;> rfl
  rw [hclosed, ← hframe.frame, ← hmid]
  change entries'.rows = _
  rw [hrows, (Table.insert?_eq_some.mp hm).2, ← hdrawn.calls, ← hkept]

theorem answer_memories
    (h : answerOpenCall app summary newId db ids newest now createdAt request = .ok db') :
    (∃ m, m.userId = request.user ∧ m.status = .voided ∧ m.memoryType = .observation ∧
      db'.memoryEntries.rows = db.memoryEntries.rows ++ [m]) ∨
    ∃ rows reflections, insertedRows app db ids createdAt request = some rows ∧
      maybeCreateReflection summary newId rows request.user newest createdAt = .ok reflections ∧
      db'.memoryEntries.rows = withReflections rows request.user reflections := by
  simp only [answerOpenCall, answerReflections, submitAnswerWithInterview, submitTo, bind_eq_ok,
    asI64_eq_ok, reject_eq_ok, exists_const, pure_eq_ok] at h
  obtain ⟨reflections, ⟨turns, hturns, ⟨call, payout⟩, hadmission, hreflections⟩, turns', hturns',
    pair, hadmission', time, ⟨-, htime⟩, -, mid, hrecord, rfl⟩ := h
  obtain rfl := Except.ok.inj (hturns.symm.trans hturns')
  obtain rfl := Except.ok.inj (hadmission.symm.trans hadmission')
  unfold recordAnswer at hrecord
  split at hrecord
  · next hissues =>
    right
    have hissues' : answerIssues app db request call = [] := hissues
    rw [if_pos hissues'] at hreflections
    have hrows := accept_memories hrecord
    have hsame : (deleteExpired db time).memoryEntries = db.memoryEntries := rfl
    rw [hsame] at hrows
    refine ⟨_, reflections, ?_, hreflections, hrows⟩
    simp [insertedRows, hturns, hadmission, hissues', Except.toOption, guard]
  · next hissues =>
    left
    simp only [voidAnswer, bind_eq_ok, asI64_eq_ok, insertMemory_eq_ok] at hrecord
    obtain ⟨_, -, entries, hentries, rfl⟩ := hrecord
    have hrows := (Table.insert?_eq_some.mp hentries).2
    have hsame : (deleteExpired db time).memoryEntries = db.memoryEntries := rfl
    rw [hsame] at hrows
    exact ⟨_, rfl, if_neg hissues, rfl, hrows⟩

def restored (m : MemoryEntry) (documentId : String) (krw : Nat) : MemoryEntry :=
  { m with
    status := .settled
    documentId := some documentId
    earnedKrw := krw }

theorem review_memories {reviewerId : String} {review : ReviewDisputeRequest}
    (h : reviewDispute app db ids now reviewerId memoryId review = .ok db') :
    db'.memoryEntries.rows = db.memoryEntries.rows ∨
      ∃ m krw A B, m.status = .voided ∧ db.memoryEntries.rows = A ++ m :: B ∧
        db'.memoryEntries.rows = A ++ restored m ids.document krw :: B := by
  simp only [reviewDispute, bind_eq_ok, reject_eq_ok, orReject_eq_ok, exists_const, requireAdmin,
    pure_eq_ok] at h
  obtain ⟨-, _, -, dispute, -, -, mid, hdecide, _, -, rfl⟩ := h
  change mid.memoryEntries.rows = _ ∨ _
  unfold decideDispute at hdecide
  split at hdecide
  · right
    simp only [approveDispute, restoreAnswer, bind_eq_ok, reject_eq_ok, orReject_eq_ok, exists_const,
      loadCall_eq_ok, asI64_eq_ok, disputedMemory, Option.bind_eq_some_iff,
      Option.filter_eq_some_iff, Option.map_eq_some_iff, not_or, not_not] at hdecide
    obtain ⟨_, ⟨m, ⟨hm, -⟩, callId, -, rfl⟩, call, -, ⟨hvoided, -⟩, -, profile, -, payout, -, krw, -,
      drawn, hdraw, hpay⟩ := hdecide
    obtain ⟨row, remaining, hdrawn⟩ := drawEscrow_drawn hdraw
    obtain ⟨e, hframe, -⟩ := payAnswer_frame hpay
    obtain ⟨documents, hkept⟩ := @insertDocument_frame db (restoredDocument app ids m call)
    have hmemories : mid.memoryEntries = (restoreMemory db ids memoryId krw).memoryEntries := by
      rw [← hframe.frame, ← hdrawn.calls, ← hkept]
      rfl
    obtain ⟨A, B, hsplit⟩ := List.append_of_mem (Table.get?_mem hm)
    have hkey : m.id = memoryId := Table.get?_key hm
    have hnodup : ((A ++ m :: B).map MemoryEntry.id).Nodup := hsplit ▸ db.memoryEntries.nodup
    have hothers : ∀ n, n ∈ A ∨ n ∈ B → n.id ≠ memoryId := by
      intro n hn heq
      rw [List.map_append, List.map_cons, List.nodup_append] at hnodup
      rcases hn with hn | hn
      · exact hnodup.2.2 n.id (List.mem_map_of_mem hn) m.id List.mem_cons_self (heq.trans hkey.symm)
      · have hout := (List.nodup_cons.mp hnodup.2.1).1
        exact hout (hkey ▸ heq ▸ List.mem_map_of_mem hn)
    refine ⟨m, krw, A, B, hvoided, hsplit, ?_⟩
    change mid.memoryEntries.rows = _
    rw [hmemories]
    change (db.memoryEntries.rows.map fun n => if decide (n.id = memoryId) = true then
      restored n ids.document krw else n) = _
    rw [hsplit, List.map_append, List.map_cons]
    have hkeep : ∀ xs : List MemoryEntry, (∀ n ∈ xs, n ∈ A ∨ n ∈ B) → (xs.map fun n =>
        if decide (n.id = memoryId) = true then restored n ids.document krw else n) = xs := by
      intro xs hxs
      rw [List.map_congr_left (g := id), List.map_id]
      intro n hn
      rw [decide_eq_false (hothers n (hxs n hn))]
      rfl
    rw [hkeep A fun n hn => .inl hn, hkeep B fun n hn => .inr hn, decide_eq_true hkey]
    rfl
  · left
    cases hdecide
    rfl

end Effects

namespace Reflections

inductive Op
  | answer (ids : AnswerIds) (newId : Nat → String) (newest : List MemoryEntry)
    (request : AnswerRequest)
  | dispute (memoryId userId reason : String)
  | review (ids : AnswerIds) (reviewerId memoryId : String) (request : ReviewDisputeRequest)

structure Event where
  now : Nat
  createdAt : Nat
  op : Op

variable {app : Appraisal} {summary : Summary} {db db₀ db' : Database} {e : Event}
  {events : List Event} {userId : String}

section Runs

def execute (app : Appraisal) (summary : Summary) (db : Database) (e : Event) :
    Except StoreError Database :=
  match e.op with
  | .answer ids newId newest request =>
    answerOpenCall app summary newId db ids newest e.now e.createdAt request
  | .dispute memoryId userId reason => submitDispute db e.now memoryId userId reason
  | .review ids reviewerId memoryId request =>
    reviewDispute app db ids e.now reviewerId memoryId request

-- the newest rows are those of the transaction
def Scanned (app : Appraisal) (db : Database) (e : Event) : Prop :=
  match e.op with
  | .answer ids _ newest request =>
    ∀ rows, insertedRows app db ids e.createdAt request = some rows →
      NewestFirst rows request.user newest
  | _ => True

inductive Step (app : Appraisal) (summary : Summary) : Database → Event → Database → Prop
  | ok {db db' : Database} {e : Event} : Scanned app db e → execute app summary db e = .ok db' →
      Step app summary db e db'
  | failed {db : Database} {e : Event} {error : StoreError} :
      execute app summary db e = .error error → Step app summary db e db

-- an accepted answer of the contributor that makes a reflection due comes in time
def OnTime (app : Appraisal) (userId : String) (db : Database) (e : Event) : Prop :=
  match e.op with
  | .answer ids _ _ request => request.user = userId →
    ∀ rows, insertedRows app db ids e.createdAt request = some rows →
      Due rows userId → Timely rows userId e.createdAt
  | _ => True

structure Standing (db : Database) (userId : String) : Prop where
  tower : ∃ lv, Tower (settledOf db.memoryEntries.rows userId) lv
  voided : ∀ m ∈ db.memoryEntries.rows, m.userId = userId → m.status = .voided →
    m.memoryType ≠ .reflection

theorem tower_empty : Tower [] fun _ => 0 := by
  refine ⟨⟨nofun, nofun, nofun⟩, List.nodup_nil, nofun, List.nodup_nil, List.Pairwise.nil, nofun,
    fun l _ => ?_, fun l _ _ => rfl⟩
  exact List.prefix_refl _

theorem standing_start (h : ∀ m ∈ db.memoryEntries.rows, m.userId ≠ userId) :
    Standing db userId := by
  refine ⟨⟨fun _ => 0, ?_⟩, fun m hm huser => absurd huser (h m hm)⟩
  have hnone : settledOf db.memoryEntries.rows userId = [] := by
    unfold settledOf
    rw [List.filter_eq_nil_iff]
    intro m hm
    simp [h m hm]
  rw [hnone]
  exact tower_empty

theorem settled_cons (A B : List MemoryEntry) (m : MemoryEntry) :
    settledOf (A ++ m :: B) userId = settledOf A userId ++
      (if m.userId = userId ∧ m.status = .settled then [m] else []) ++ settledOf B userId := by
  rw [List.append_cons]
  have hsplit : settledOf (A ++ [m] ++ B) userId =
      settledOf (A ++ [m]) userId ++ settledOf B userId := List.filter_append _ _
  rw [hsplit, settledOf_append]

theorem settled_other {rows : List MemoryEntry} {user : String} {created : List Reflection}
    (h : user ≠ userId) :
    settledOf (withReflections rows user created) userId = settledOf rows userId := by
  have hnone : settledOf (created.map (Reflection.entry user)) userId = [] := by
    rw [settledOf, List.filter_eq_nil_iff]
    intro n hn
    obtain ⟨r, -, rfl⟩ := List.mem_map.mp hn
    have huser : (r.entry user).userId ≠ userId := h
    simp [huser]
  have hsplit : settledOf (withReflections rows user created) userId =
      settledOf rows userId ++ settledOf (created.map (Reflection.entry user)) userId :=
    List.filter_append _ _
  rw [hsplit, hnone, List.append_nil]

theorem review_standing {ids : AnswerIds} {now : Nat} {reviewerId memoryId : String}
    {review : ReviewDisputeRequest} (h : Standing db userId)
    (hreview : reviewDispute app db ids now reviewerId memoryId review = .ok db') :
    Standing db' userId := by
  obtain ⟨⟨lv, htower⟩, hvoided⟩ := h
  rcases review_memories hreview with hsame | ⟨m, krw, A, B, hstatus, hrows, hrows'⟩
  · rw [← hsame] at hvoided htower
    exact ⟨⟨lv, htower⟩, hvoided⟩
  · rw [hrows] at hvoided htower
    have hids : ((A ++ m :: B).map MemoryEntry.id).Nodup := hrows ▸ db.memoryEntries.nodup
    have hmem : m ∈ A ++ m :: B := List.mem_append_right _ List.mem_cons_self
    refine ⟨?_, ?_⟩
    · rw [settled_cons, if_neg (by simp [hstatus]), List.append_nil] at htower
      rw [hrows', settled_cons]
      by_cases huser : m.userId = userId
      · rw [if_pos ⟨huser, rfl⟩, List.append_assoc, List.singleton_append]
        refine ⟨_, htower.ground (hvoided m hmem huser hstatus) fun hold => ?_⟩
        have hold' : m.id ∈ (A ++ B).map MemoryEntry.id := by
          have hsub : (settledOf A userId ++ settledOf B userId).Sublist (A ++ B) :=
            List.filter_sublist.append List.filter_sublist
          exact (hsub.map MemoryEntry.id).subset hold
        have hperm : ((A ++ m :: B).map MemoryEntry.id).Perm (m.id :: (A ++ B).map MemoryEntry.id) := by
          rw [← List.map_cons]
          exact List.perm_middle.map _
        exact (List.nodup_cons.mp (hperm.nodup_iff.mp hids)).1 hold'
      · rw [if_neg fun hboth => huser hboth.1, List.append_nil]
        exact ⟨lv, htower⟩
    · intro n hn huser hnvoided
      rw [hrows'] at hn
      rcases List.mem_append.mp hn with hn | hn
      · exact hvoided n (List.mem_append_left _ hn) huser hnvoided
      · rcases List.mem_cons.mp hn with rfl | hn
        · cases hnvoided
        · exact hvoided n (List.mem_append_right _ (List.mem_cons_of_mem _ hn)) huser hnvoided

theorem insertedRows_eq_some {ids : AnswerIds} {createdAt : Nat} {request : AnswerRequest}
    {rows : List MemoryEntry} (h : insertedRows app db ids createdAt request = some rows) :
    ∃ m, m.userId = request.user ∧ m.status = .settled ∧ m.memoryType = .observation ∧
      rows = db.memoryEntries.rows ++ [m] := by
  simp only [insertedRows, Option.bind_eq_bind, Option.bind_eq_some_iff, Option.guard_eq_some',
    Option.pure_def, Option.some.injEq, exists_const] at h
  obtain ⟨interview, -, ⟨call, payout⟩, -, -, rfl⟩ := h
  exact ⟨_, rfl, rfl, rfl, rfl⟩

theorem answer_standing {ids : AnswerIds} {newId : Nat → String} {newest : List MemoryEntry}
    {now createdAt : Nat} {request : AnswerRequest} (h : Standing db userId)
    (hanswer : answerOpenCall app summary newId db ids newest now createdAt request = .ok db')
    (hscanned : Scanned app db ⟨now, createdAt, .answer ids newId newest request⟩)
    (hontime : OnTime app userId db ⟨now, createdAt, .answer ids newId newest request⟩) :
    Standing db' userId := by
  obtain ⟨⟨lv, htower⟩, hvoided⟩ := h
  rcases answer_memories hanswer with ⟨m, -, hstatus, htype, hrows⟩ |
    ⟨rows, created, hinserted, hcreated, hrows⟩
  · refine ⟨⟨lv, ?_⟩, fun n hn huser hnvoided => ?_⟩
    · rw [hrows, settledOf_append, if_neg (by simp [hstatus]), List.append_nil]
      exact htower
    · rw [hrows] at hn
      rcases List.mem_append.mp hn with hn | hn
      · exact hvoided n hn huser hnvoided
      · rw [List.mem_singleton.mp hn, htype]
        decide
  · obtain ⟨m, huser, hstatus, htype, hsplit⟩ := insertedRows_eq_some hinserted
    have hids : ((db.memoryEntries.rows ++ [m]).map MemoryEntry.id).Nodup := by
      have hall : (db'.memoryEntries.rows.map MemoryEntry.id).Nodup := db'.memoryEntries.nodup
      rw [hrows, withReflections, hsplit, List.map_append] at hall
      exact (List.nodup_append.mp hall).1
    refine ⟨?_, fun n hn hnuser hnvoided => ?_⟩
    · rw [hrows]
      by_cases hown : request.user = userId
      · subst hown
        have hfresh : m.id ∉ (settledOf db.memoryEntries.rows request.user).map MemoryEntry.id := by
          refine settled_ids fun hold => ?_
          rw [List.map_append, List.nodup_append] at hids
          exact hids.2.2 m.id hold m.id (List.mem_singleton_self _) rfl
        have hnew : settledOf rows request.user =
            settledOf db.memoryEntries.rows request.user ++ m :: [] := by
          rw [hsplit, settledOf_append, if_pos ⟨huser, hstatus⟩]
        have hleaf : m.memoryType ≠ .reflection := by
          rw [htype]
          decide
        have hstart : Tower (settledOf db.memoryEntries.rows request.user ++ []) lv := by
          rwa [List.append_nil]
        have hgrown := hstart.ground hleaf (by rwa [List.append_nil])
        rw [← hnew] at hgrown
        exact maybe_tower hgrown (hscanned rows hinserted) (hontime rfl rows hinserted) hcreated
      · rw [settled_other hown, hsplit, settledOf_append, if_neg fun hboth => hown (huser ▸ hboth.1),
          List.append_nil]
        exact ⟨lv, htower⟩
    · rw [hrows, withReflections, hsplit, List.append_assoc] at hn
      rcases List.mem_append.mp hn with hn | hn
      · exact hvoided n hn hnuser hnvoided
      · rcases List.mem_append.mp hn with hn | hn
        · rw [List.mem_singleton.mp hn, htype]
          decide
        · obtain ⟨r, -, rfl⟩ := List.mem_map.mp hn
          cases hnvoided

theorem dispute_standing {now : Nat} {memoryId user reason : String} (h : Standing db userId)
    (hdispute : submitDispute db now memoryId user reason = .ok db') : Standing db' userId := by
  simp only [submitDispute, bind_eq_ok, reject_eq_ok, orReject_eq_ok, exists_const,
    pure_eq_ok] at hdispute
  obtain ⟨-, -, _, -, -, _, -, disputes, -, rfl⟩ := hdispute
  exact ⟨h.tower, h.voided⟩

theorem step_standing (h : Standing db userId) (hstep : Step app summary db e db')
    (hontime : OnTime app userId db e) : Standing db' userId := by
  cases hstep with
  | ok hscanned hexecute =>
    obtain ⟨now, createdAt, op⟩ := e
    cases op with
    | answer ids newId newest request => exact answer_standing h hexecute hscanned hontime
    | dispute memoryId user reason => exact dispute_standing h hexecute
    | review ids reviewerId memoryId request => exact review_standing h hexecute
  | failed _ => exact h

theorem reflections_form_tree (hstart : ∀ m ∈ db₀.memoryEntries.rows, m.userId ≠ userId)
    (hrun : Trace (fun db e db' => Step app summary db e db' ∧ OnTime app userId db e) db₀ events db) :
    ∃ lv, Tree (settledOf db.memoryEntries.rows userId) lv := by
  have hstanding : Standing db userId :=
    hrun.invariant (P := fun db => Standing db userId) (standing_start hstart)
      fun _ _ _ h hstep => step_standing h hstep.1 hstep.2
  obtain ⟨lv, htower⟩ := hstanding.tower
  exact ⟨lv, htower.tree⟩

end Runs

section Scripts

theorem onTime_iff {ids : AnswerIds} {newId : Nat → String} {newest : List MemoryEntry}
    {now createdAt : Nat} {request : AnswerRequest} :
    OnTime app userId db ⟨now, createdAt, .answer ids newId newest request⟩ ↔
      (request.user = userId → ∀ rows ∈ insertedRows app db ids createdAt request,
        Due rows userId → Timely rows userId createdAt) :=
  Iff.rfl

instance (rows : List MemoryEntry) (userId : String) : Decidable (Due rows userId) :=
  inferInstanceAs (Decidable (_ ∧ _))

instance (rows : List MemoryEntry) (userId : String) (createdAt : Nat) :
    Decidable (Timely rows userId createdAt) :=
  decidable_of_iff (_ ∧ _) ⟨fun h => ⟨h.1, h.2⟩, fun h => ⟨h.ungrouped, h.last⟩⟩

instance : Decidable (OnTime app userId db e) :=
  match e with
  | ⟨_, _, .answer _ _ _ _⟩ => decidable_of_iff _ onTime_iff.symm
  | ⟨_, _, .dispute _ _ _⟩ => .isTrue trivial
  | ⟨_, _, .review _ _ _ _⟩ => .isTrue trivial

def newestOf (rows : List MemoryEntry) (userId : String) : List MemoryEntry :=
  (observationsOf rows userId).insertionSort fun a b => b.createdAt ≤ a.createdAt

theorem newestOf_newestFirst (rows : List MemoryEntry) (userId : String) :
    NewestFirst rows userId (newestOf rows userId) := by
  have htotal : Std.Total fun a b : MemoryEntry => b.createdAt ≤ a.createdAt :=
    ⟨fun a b => Nat.le_total b.createdAt a.createdAt⟩
  have htrans : IsTrans MemoryEntry fun a b => b.createdAt ≤ a.createdAt :=
    ⟨fun a b c hab hbc => Nat.le_trans hbc hab⟩
  exact ⟨List.perm_insertionSort _ _, List.pairwise_insertionSort _ _⟩

-- an answer whose newest rows are those of the transaction
def answered (app : Appraisal) (ids : AnswerIds) (newId : Nat → String) (now : Nat)
    (request : AnswerRequest) (db : Database) : Event :=
  ⟨now, now, .answer ids newId
    (((insertedRows app db ids now request).map fun rows => newestOf rows request.user).getD [])
    request⟩

theorem answered_scanned {ids : AnswerIds} {newId : Nat → String} {now : Nat}
    {request : AnswerRequest} : Scanned app db (answered app ids newId now request db) := by
  intro rows hrows
  change insertedRows app db ids now request = some rows at hrows
  rw [hrows]
  exact newestOf_newestFirst rows request.user

def drive (app : Appraisal) (summary : Summary) (fits : Database → Event → Bool) (db : Database) :
    List (Database → Event) → Option Database
  | [] => some db
  | f :: script => do
    guard (fits db (f db) = true)
    let db ← (execute app summary db (f db)).toOption
    drive app summary fits db script

theorem drive_trace {fits : Database → Event → Bool} {script : List (Database → Event)}
    (hscript : ∀ f ∈ script, ∀ db, Scanned app db (f db))
    (h : drive app summary fits db script = some db') :
    ∃ events, Trace (fun db e db' => Step app summary db e db' ∧ fits db e = true) db events db' := by
  induction script generalizing db with
  | nil =>
    cases h
    exact ⟨[], .nil⟩
  | cons f script ih =>
    simp only [drive, Option.bind_eq_bind, Option.bind_eq_some_iff, Option.guard_eq_some',
      exists_const] at h
    obtain ⟨hfits, mid, hmid, hrest⟩ := h
    obtain ⟨events, hevents⟩ := ih (fun g hg => hscript g (List.mem_cons_of_mem _ hg)) hrest
    have hstep := Step.ok (hscript f List.mem_cons_self db) (toOption_eq_some.mp hmid)
    exact ⟨f db :: events, Trace.cons_iff.mpr ⟨mid, ⟨hstep, hfits⟩, hevents⟩⟩

end Scripts

section Samples

def townCall (id : String) : StoredCall :=
  { sampleCall with id := id }

def townDatabase : Database :=
  { sampleDatabase with
    openCalls := ⟨["c0", "c1", "c2", "c3", "c4", "c5"].map townCall, by decide⟩
    memoryEntries := .empty
    disputes := .empty }

def pattern : Summary := fun _ _ _ => "three lunches"

def bobSays (callId memoryId answer : String) (now : Nat) : Database → Event :=
  answered strictAppraisal
    ⟨memoryId, "md_" ++ memoryId, "earning_" ++ memoryId, "payout_" ++ memoryId⟩
    (fun k => "reflection_" ++ memoryId ++ toString k) now ⟨callId, "bob", answer, []⟩

def threeLunches : List (Database → Event) :=
  [bobSays "c1" "m1" sampleAnswer 2000, bobSays "c2" "m2" sampleAnswer 3000,
    bobSays "c3" "m3" sampleAnswer 4000]

-- the first answer is voided, and restored once three others are grouped
def lateLunch : List (Database → Event) :=
  bobSays "c0" "m0" "somewhere nice" 1000 :: threeLunches ++
    [fun _ => ⟨5000, 5000, .dispute "m0" "bob" "the place is named in the question"⟩,
      fun _ => ⟨6000, 6000, .review ⟨"", "md_m0", "earning_m0", "payout_m0"⟩ "admin" "m0"
        ⟨"approved", "the answer is specific"⟩⟩,
      bobSays "c4" "m4" sampleAnswer 7000, bobSays "c5" "m5" sampleAnswer 8000]

theorem lateLunch_scanned : ∀ f ∈ lateLunch, ∀ db, Scanned strictAppraisal db (f db) := by
  intro f hf db
  simp only [lateLunch, threeLunches, List.cons_append, List.nil_append, List.mem_cons,
    List.not_mem_nil, or_false] at hf
  rcases hf with rfl | rfl | rfl | rfl | rfl | rfl | rfl | rfl
  all_goals first | exact answered_scanned | trivial

theorem townDatabase_start : ∀ m ∈ townDatabase.memoryEntries.rows, m.userId ≠ "bob" := nofun

def sixLunches : List (Database → Event) :=
  bobSays "c0" "m0" sampleAnswer 1000 :: threeLunches ++
    [bobSays "c4" "m4" sampleAnswer 7000, bobSays "c5" "m5" sampleAnswer 8000]

theorem reflections_form_tree_sample :
    ∃ events db, Trace (fun db e db' => Step strictAppraisal pattern db e db' ∧
        OnTime strictAppraisal "bob" db e) townDatabase events db ∧
      (reflectionsOf db.memoryEntries.rows "bob").map MemoryEntry.sourceIds =
        [["m2", "m1", "m0"], ["m5", "m4", "m3"]] ∧
      ∃ lv, Tree (settledOf db.memoryEntries.rows "bob") lv := by
  have hrun : (drive strictAppraisal pattern
      (fun db e => decide (OnTime strictAppraisal "bob" db e)) townDatabase sixLunches).any
        (fun db => decide ((reflectionsOf db.memoryEntries.rows "bob").map MemoryEntry.sourceIds =
          [["m2", "m1", "m0"], ["m5", "m4", "m3"]])) = true := by
    decide +kernel
  obtain ⟨db, hdb, hsources⟩ := (Option.any_eq_true _ _).mp hrun
  have hscanned : ∀ f ∈ sixLunches, ∀ db, Scanned strictAppraisal db (f db) := by
    intro f hf db
    simp only [sixLunches, threeLunches, List.cons_append, List.nil_append, List.mem_cons,
      List.not_mem_nil, or_false] at hf
    rcases hf with rfl | rfl | rfl | rfl | rfl | rfl
    all_goals exact answered_scanned
  obtain ⟨events, hevents⟩ := drive_trace hscanned hdb
  simp only [decide_eq_true_eq] at hevents
  exact ⟨events, db, hevents, of_decide_eq_true hsources,
    reflections_form_tree townDatabase_start hevents⟩

theorem observation_reused :
    (∀ m ∈ townDatabase.memoryEntries.rows, m.userId ≠ "bob") ∧
      ∃ events db, Trace (Step strictAppraisal pattern) townDatabase events db ∧
        (reflectionsOf db.memoryEntries.rows "bob").map MemoryEntry.sourceIds =
          [["m3", "m2", "m1"], ["m5", "m4", "m3"]] ∧
        ¬∃ lv, Tree (settledOf db.memoryEntries.rows "bob") lv := by
  refine ⟨townDatabase_start, ?_⟩
  have hrun : (drive strictAppraisal pattern (fun _ _ => true) townDatabase lateLunch).any
      (fun db => decide ((reflectionsOf db.memoryEntries.rows "bob").map MemoryEntry.sourceIds =
        [["m3", "m2", "m1"], ["m5", "m4", "m3"]])) = true := by
    decide +kernel
  obtain ⟨db, hdb, hshared⟩ := (Option.any_eq_true _ _).mp hrun
  have hsources := of_decide_eq_true hshared
  obtain ⟨events, hevents⟩ := drive_trace lateLunch_scanned hdb
  refine ⟨events, db, hevents.mono fun _ _ _ h => h.1, hsources, ?_⟩
  rintro ⟨lv, htree⟩
  have hreflection : ∀ ids ∈ [["m3", "m2", "m1"], ["m5", "m4", "m3"]],
      ∃ r ∈ settledOf db.memoryEntries.rows "bob", r.memoryType = .reflection ∧ r.sourceIds = ids := by
    intro ids hids
    rw [← hsources] at hids
    obtain ⟨r, hr, rfl⟩ := List.mem_map.mp hids
    obtain ⟨hin, htype⟩ := List.mem_filter.mp hr
    exact ⟨r, hin, of_decide_eq_true htype, rfl⟩
  obtain ⟨r, hr, htype, hids⟩ := hreflection ["m3", "m2", "m1"] (by simp)
  obtain ⟨r', hr', htype', hids'⟩ := hreflection ["m5", "m4", "m3"] (by simp)
  have hsame := htree.once r hr htype r' hr' htype' "m3" (by simp [hids]) (by simp [hids'])
  rw [hsame, hids'] at hids
  simp at hids

end Samples

end Reflections

end Obulus.Calls
