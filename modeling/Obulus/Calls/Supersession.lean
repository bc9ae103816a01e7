import Obulus.Calls.Lineage
import Obulus.Calls.Slots

namespace Obulus.Calls.Lineage

open Foundation Store Funds Relation

variable {app : Appraisal} {db db₀ db' : Database} {e : Event} {events : List Event}
  {ids : AnswerIds} {reflections : List Reflection} {request : AnswerRequest} {call : StoredCall}
  {payout : Option OnchainPayout} {interview : List InterviewResponse} {now later createdAt : Nat}
  {m : MemoryEntry} {d : Document} {userId memoryId answer : String} {locked : Bool} {s s' : Shelf}

section Shelving

theorem shelf_stored {entries : Table fun m : MemoryEntry => m.id}
    {documents : Table fun d : Document => d.id} (hm : db.memoryEntries.insert? m = some entries)
    (hd : db.documents.insert? d = some documents) :
    (⟨entries.get?, documents.get?⟩ : Shelf) = (shelf db).add m (some d) := by
  simp only [Shelf.add, shelf, Shelf.mk.injEq]
  refine ⟨?_, ?_⟩
  · funext x
    rw [Table.get?_insert? hm]
  · funext i
    rw [Table.get?_insert? hd]
    simp only [Option.map_some, Option.some.injEq]

theorem shelf_insertMemory (h : insertMemory db m = .ok db') (hdocument : m.documentId = none) :
    shelf db' = (shelf db).add m none ∧ New (shelf db) m none := by
  obtain ⟨entries, hm, rfl⟩ := insertMemory_eq_ok.mp h
  have hnew := (Table.insert?_eq_some.mp hm).1
  refine ⟨?_, hnew, hdocument, fun _ h => nomatch h⟩
  simp only [Shelf.add, shelf, Shelf.mk.injEq]
  refine ⟨?_, ?_⟩
  · funext x
    rw [Table.get?_insert? hm]
  · funext i
    simp

theorem lockMemory_get? {x : String} : (lockMemory db memoryId locked).memoryEntries.get? x =
    (db.memoryEntries.get? x).map fun n => if x = memoryId then { n with locked := locked } else n := by
  rw [lockMemory, Table.get?_update]
  cases hx : db.memoryEntries.get? x with
  | none => rfl
  | some n =>
    rw [← Table.get?_key hx]
    simp

theorem lockDocument_get? {documentId i : String} :
    (lockDocument db locked documentId).documents.get? i =
      (db.documents.get? i).map fun d => if i = documentId then { d with locked := locked } else d := by
  rw [lockDocument, Table.get?_update]
  cases hi : db.documents.get? i with
  | none => rfl
  | some d =>
    rw [← Table.get?_key hi]
    simp

theorem setVersion_get? {documentId i : String} {version : Nat} :
    (setVersion db documentId version).documents.get? i =
      (db.documents.get? i).map fun d => if i = documentId then { d with version := version } else d := by
  rw [setVersion, Table.get?_update]
  cases hi : db.documents.get? i with
  | none => rfl
  | some d =>
    rw [← Table.get?_key hi]
    simp

theorem shelf_lockPassage :
    shelf (lockPassage db locked m) = (shelf db).setLocked m.id m.documentId locked := by
  cases hdocument : m.documentId with
  | none =>
    simp only [lockPassage, hdocument, Shelf.setLocked, shelf, Shelf.mk.injEq]
    refine ⟨?_, ?_⟩
    · funext x
      rw [lockMemory_get?]
    · funext i
      simp [lockMemory]
  | some documentId =>
    simp only [lockPassage, hdocument, Shelf.setLocked, shelf, Shelf.mk.injEq, Option.some.injEq]
    refine ⟨?_, ?_⟩
    · funext x
      exact lockMemory_get?
    · funext i
      exact lockDocument_get?

-- the passage put in the place of the old one
def successor (app : Appraisal) (ids : AnswerIds) (createdAt : Nat) (answer : String) (m : MemoryEntry)
    (d : Document) : Document :=
  { correctedDocument app ids createdAt answer m d with version := nextVersion m.version }

theorem replaced_get? {i : String} (hnew : NewDocument db (correctedDocument app ids createdAt answer m d))
    (hold : db.documents.get? d.id = some d) :
    (replacePassage app db ids createdAt answer m d).documents.get? i =
      if ids.document = i then some (successor app ids createdAt answer m d)
      else (db.documents.get? i).map fun d' =>
        if i = d.id then { d' with locked := true } else d' := by
  obtain ⟨documents, hinsert, hdocuments⟩ := insertDocument_new hnew
  have hinserted : (insertDocument db (correctedDocument app ids createdAt answer m d)).documents.get? i =
      if ids.document = i then some (correctedDocument app ids createdAt answer m d)
      else db.documents.get? i := by
    rw [← hdocuments]
    exact Table.get?_insert? hinsert
  have hget : (replacePassage app db ids createdAt answer m d).documents.get? i =
      (lockDocument (setVersion (insertDocument db (correctedDocument app ids createdAt answer m d))
        ids.document (nextVersion m.version)) true d.id).documents.get? i := rfl
  have hother : ids.document ≠ d.id := by
    intro hsame
    have hnone : db.documents.get? ids.document = none := hnew.1
    rw [hsame, hold] at hnone
    cases hnone
  rw [hget, lockDocument_get?, setVersion_get?, hinserted]
  by_cases hi : ids.document = i
  · subst hi
    simp [hother, successor]
  · simp [hi, Ne.symm hi]

theorem shelf_correct (hnew : NewDocument db (correctedDocument app ids createdAt answer m d))
    (hold : db.documents.get? d.id = some d) (hdocument : m.documentId = some d.id)
    (h : insertMemory (replacePassage app db ids createdAt answer m d)
      (correctionEntry ids createdAt userId answer m) = .ok db') :
    shelf db' = ((shelf db).setLocked m.id m.documentId true).add
      (correctionEntry ids createdAt userId answer m) (some (successor app ids createdAt answer m d)) := by
  obtain ⟨entries, hm, rfl⟩ := insertMemory_eq_ok.mp h
  obtain ⟨documents, hinsert, hdocuments⟩ := insertDocument_new hnew
  simp only [Shelf.add, Shelf.setLocked, shelf, hdocument, Shelf.mk.injEq]
  refine ⟨?_, ?_⟩
  · funext x
    have hlocked := @lockMemory_get? db m.id true x
    have hsame : (replacePassage app db ids createdAt answer m d).memoryEntries =
        (lockMemory db m.id true).memoryEntries := by
      rw [replacePassage, ← hdocuments]
      rfl
    rw [Table.get?_insert? hm, hsame, hlocked]
  · funext i
    rw [replaced_get? hnew hold]
    simp [successor, correctedDocument]

end Shelving

section Answers

-- memories that correct nothing are added
inductive Grown (s : Shelf) : Shelf → Prop
  | refl : Grown s s
  | add {s' : Shelf} {m : MemoryEntry} {d : Option Document} :
      Grown s s' → New s' m d → m.memoryType ≠ .correction → Grown s (s'.add m d)

theorem Grown.trans {t : Shelf} (h : Grown s s') (h' : Grown s' t) : Grown s t := by
  induction h' with
  | refl => exact h
  | add _ hnew htype ih => exact .add ih hnew htype

theorem Grown.sound (h : Grown s s') (hsound : Sound s) : Sound s' := by
  induction h with
  | refl => exact hsound
  | add _ hnew htype ih => exact ih.add hnew htype

theorem grown_insertMemory (h : insertMemory db m = .ok db') (hdocument : m.documentId = none)
    (htype : m.memoryType ≠ .correction) : Grown (shelf db) (shelf db') := by
  obtain ⟨hshelf, hnew⟩ := shelf_insertMemory h hdocument
  rw [hshelf]
  exact .add .refl hnew htype

theorem grown_reflections (h : insertReflections db userId reflections = .ok db') :
    Grown (shelf db) (shelf db') := by
  induction reflections generalizing db with
  | nil =>
    cases h
    exact .refl
  | cons r rest ih =>
    simp only [insertReflections, bind_eq_ok] at h
    obtain ⟨mid, hmemory, h⟩ := h
    have hfirst : Grown (shelf db) (shelf mid) := by
      apply grown_insertMemory hmemory
      · rfl
      · simp [Reflection.entry]
    exact hfirst.trans (ih h)

theorem grown_accept
    (h : acceptAnswer app db ids reflections createdAt request call payout interview = .ok db')
    (hfresh : NewDocument db (answerDocument app ids createdAt request call)) :
    Grown (shelf db) (shelf db') := by
  simp only [acceptAnswer, bind_eq_ok, asI64_eq_ok, reject_eq_ok, exists_const, insertMemory_eq_ok,
    pure_eq_ok] at h
  obtain ⟨_, -, time, ⟨-, htime⟩, -, drawn, hdraw, _, ⟨entries, hm, rfl⟩, mid, hreflections, paid, hpay,
    rfl⟩ := h
  rw [htime] at hdraw hm
  obtain ⟨row, remaining, hdrawn⟩ := drawEscrow_drawn hdraw
  have hcalls := hdrawn.calls
  obtain ⟨e, hframe, -⟩ := payAnswer_frame hpay
  obtain ⟨documents, hinsert, hdocuments⟩ := insertDocument_new hfresh
  have hpaid : shelf (closeIfFilled paid call) = shelf mid := by
    have hclosed : shelf (closeIfFilled paid call) = shelf paid := by
      unfold closeIfFilled
      split <;> rfl
    rw [hclosed, ← hframe.frame]
    rfl
  rw [hpaid]
  apply Grown.trans _ (grown_reflections hreflections)
  rw [← hdocuments] at hcalls
  subst hcalls
  have hadded : (⟨entries.get?, documents.get?⟩ : Shelf) = (shelf db).add _ _ := shelf_stored hm hinsert
  have hnew : New (shelf db) (answerEntry ids createdAt request call interview [])
      (some (answerDocument app ids createdAt request call)) := by
    refine ⟨(Table.insert?_eq_some.mp hm).1, rfl, ?_⟩
    intro d' hd'
    cases hd'
    exact ⟨hfresh.1, rfl⟩
  have hgrown : Grown (shelf db) _ := .add .refl hnew (by simp [answerEntry])
  rw [← hadded] at hgrown
  exact hgrown

theorem grown_answer
    (h : submitAnswerWithInterview app db ids reflections now createdAt request = .ok db')
    (hid : db.documents.get? ids.document = none)
    (hhandle : ∀ d ∈ db.documents.rows, d.handle ≠ app.handleFromId ids.document) :
    Grown (shelf db) (shelf db') := by
  simp only [submitAnswerWithInterview, submitTo, bind_eq_ok, asI64_eq_ok, reject_eq_ok, exists_const,
    pure_eq_ok] at h
  obtain ⟨_, -, pair, -, time, -, -, mid, hrecord, rfl⟩ := h
  have hmid : Grown (shelf (deleteExpired db time)) (shelf mid) := by
    unfold recordAnswer at hrecord
    split at hrecord
    · exact grown_accept hrecord ⟨hid, hhandle⟩
    · next hissues =>
      simp only [voidAnswer, bind_eq_ok, asI64_eq_ok] at hrecord
      obtain ⟨_, -, hmemory⟩ := hrecord
      apply grown_insertMemory hmemory
      · exact if_neg hissues
      · simp [answerEntry]
  exact hmid

end Answers

section Runs

-- no passage is corrected twice, and none is put up for sale next to another of its lineage
def Orderly (db : Database) (e : Event) : Prop :=
  match e.operation with
  | .answer _ _ _ => True
  | .correct _ _ memoryId _ => ∀ m, db.memoryEntries.get? (trim memoryId) = some m →
      (∀ y, ¬Corrects (shelf db) m.id y) ∧ m.version < u32Max ∧ Sole (shelf db) m.id m.documentId
  | .setLocked _ memoryId locked => ∀ m, db.memoryEntries.get? (trim memoryId) = some m →
      locked = false → Sole (shelf db) m.id m.documentId

theorem sound_correct (h : Sound (shelf db))
    (hcorrect : correctMemory app db ids now userId memoryId answer = .ok db')
    (hid : db.documents.get? ids.document = none)
    (hhandle : ∀ d ∈ db.documents.rows, d.handle ≠ app.handleFromId ids.document)
    (horderly : ∀ m, db.memoryEntries.get? (trim memoryId) = some m →
      (∀ y, ¬Corrects (shelf db) m.id y) ∧ m.version < u32Max ∧
        Sole (shelf db) m.id m.documentId) : Sound (shelf db') := by
  simp only [correctMemory, correctable, bind_eq_ok, reject_eq_ok, orReject_eq_ok, asI64_eq_ok,
    exists_const, Option.filter_eq_some_iff, pure_eq_ok] at hcorrect
  obtain ⟨_, -, _, ⟨m, ⟨hget, -⟩, -, -, rfl⟩, documentId, hdocument, d, hd, time, ⟨-, htime⟩, hmemory⟩ :=
    hcorrect
  rw [htime] at hmemory
  obtain rfl := Table.get?_key hd
  obtain ⟨hlast, hversion, hsole⟩ := horderly m hget
  have hm : (shelf db).memory m.id = some m := Table.get?_of_mem (Table.get?_mem hget)
  have hfresh : NewDocument db (correctedDocument app ids now answer m d) := ⟨hid, hhandle⟩
  have hlocked : Sound ((shelf db).setLocked m.id (some d.id) true) :=
    h.setLocked hm hdocument (by intro hfalse; cases hfalse)
  have hkept : ∃ m', ((shelf db).setLocked m.id (some d.id) true).memory m.id = some m' ∧ SameBut m m' :=
    locked_memory hm
  obtain ⟨old, hold, hsame⟩ := hkept
  obtain ⟨documents, -, hdocuments⟩ := insertDocument_new hfresh
  have hnew : New ((shelf db).setLocked m.id (some d.id) true)
      (correctionEntry ids now userId answer m) (some (successor app ids now answer m d)) := by
    refine ⟨?_, rfl, ?_⟩
    · obtain ⟨entries, hinsert, -⟩ := insertMemory_eq_ok.mp hmemory
      have hnone := (Table.insert?_eq_some.mp hinsert).1
      rw [replacePassage, lockMemory_get?, Option.map_eq_none_iff, ← hdocuments] at hnone
      simp only [Shelf.setLocked, Option.map_eq_none_iff]
      exact hnone
    · intro d' hd'
      cases hd'
      refine ⟨?_, rfl⟩
      simp only [Shelf.setLocked, Option.map_eq_none_iff]
      exact hid
  rw [shelf_correct hfresh hd hdocument hmemory, hdocument]
  apply hlocked.correct hnew
  · rfl
  · exact ⟨rfl, hold, by rw [hsame.version]; rfl⟩
  · rw [hsame.version]
    exact hversion
  · rw [corrects_setLocked]
    exact hlast
  · intro x i hkin hoffers
    rw [corrects_setLocked] at hkin
    rcases offers_setLocked h.linked hm hdocument hoffers with ⟨-, -, hopen⟩ | ⟨hother, hoffers⟩
    · cases hopen
    · exact hother (hdocument ▸ hsole x i hkin hoffers)

theorem sound_setLocked (h : Sound (shelf db))
    (hset : setMemoryLocked db userId memoryId locked = .ok db')
    (horderly : ∀ m, db.memoryEntries.get? (trim memoryId) = some m → locked = false →
      Sole (shelf db) m.id m.documentId) : Sound (shelf db') := by
  simp only [setMemoryLocked, bind_eq_ok, orReject_eq_ok, reject_eq_ok, exists_const,
    Option.filter_eq_some_iff, pure_eq_ok] at hset
  obtain ⟨m, ⟨hget, -⟩, -, rfl⟩ := hset
  have hm : (shelf db).memory m.id = some m := Table.get?_of_mem (Table.get?_mem hget)
  rw [shelf_lockPassage]
  exact h.setLocked hm rfl (horderly m hget)

theorem step_sound (h : Sound (shelf db)) (hstep : Step app db e db')
    (horderly : (execute app db e).isOk = true → Orderly db e) : Sound (shelf db') := by
  cases hstep with
  | error _ => exact h
  | ok hfresh hexecute =>
    have horder := horderly (by rw [hexecute]; rfl)
    unfold execute at hexecute
    unfold Event.Fresh at hfresh
    unfold Orderly at horder
    split at hexecute
    · next hop =>
      rw [hop] at hfresh
      exact (grown_answer hexecute hfresh.1 hfresh.2).sound h
    · next hop =>
      rw [hop] at hfresh horder
      exact sound_correct h hexecute hfresh.1 hfresh.2 horder
    · next hop =>
      rw [hop] at horder
      exact sound_setLocked h hexecute horder

theorem sound_empty (h : db.memoryEntries.rows = []) : Sound (shelf db) := by
  have hnone : ∀ x, (shelf db).memory x = none := by
    intro x
    rw [shelf, Table.get?_eq_none, h]
    simp
  have hedge : ∀ x y, ¬Corrects (shelf db) x y := by
    rintro x y ⟨m, hm, -⟩
    rw [hnone] at hm
    cases hm
  refine ⟨⟨?_, ?_, ?_, ?_, ?_⟩, ?_, ?_, ?_⟩
  · exact fun x y hxy => absurd hxy (hedge x y)
  · exact fun x y _ _ hxy => absurd hxy (hedge x y)
  · intro x y i m n hm
    rw [hnone] at hm
    cases hm
  · intro x i m hm
    rw [hnone] at hm
    cases hm
  · intro x i m d hm
    rw [hnone] at hm
    cases hm
  · exact fun x y _ hxy => absurd hxy (hedge x y)
  · exact fun x y _ _ hxy => absurd hxy (hedge x y)
  · rintro x y i j - ⟨m, -, hm, -⟩
    rw [hnone] at hm
    cases hm

theorem lineages_ok (hempty : db₀.memoryEntries.rows = [])
    (htrace : Trace (fun db e db' => Step app db e db' ∧
      ((execute app db e).isOk = true → Orderly db e)) db₀ events db) : LineageOk (shelf db) := by
  have hsound : Sound (shelf db) := by
    refine htrace.invariant (P := fun db => Sound (shelf db)) (sound_empty hempty) ?_
    rintro db e db' h ⟨hstep, horderly⟩
    exact step_sound h hstep horderly
  exact hsound.lineageOk

end Runs

section Samples

instance (app : Appraisal) (db : Database) (e : Event) : Decidable (e.Fresh app db) :=
  match e with
  | ⟨_, _, .answer _ _ _⟩ => inferInstanceAs (Decidable (_ ∧ _))
  | ⟨_, _, .correct _ _ _ _⟩ => inferInstanceAs (Decidable (_ ∧ _))
  | ⟨_, _, .setLocked _ _ _⟩ => inferInstanceAs (Decidable True)

def accept (app : Appraisal) (db : Database) (e : Event) : Option Database :=
  if e.Fresh app db then (execute app db e).toOption else none

theorem accept_step (h : accept app db e = some db') : Step app db e db' := by
  unfold accept at h
  split at h
  · next hfresh => exact .ok hfresh (toOption_eq_some.mp h)
  · cases h

theorem sole_alone (hin : ∀ x, ¬Corrects s x memoryId) (hout : ∀ y, ¬Corrects s memoryId y)
    (hm : s.memory memoryId = some m) : Sole s memoryId m.documentId := by
  rintro x i hkin ⟨n, -, hn, hi, -, -⟩
  obtain rfl := kin_alone hin hout hkin.symm
  rw [hm, Option.some.injEq] at hn
  subst hn
  exact hi

theorem orderly_first (hplain : ∀ n ∈ db.memoryEntries.rows, n.memoryType ≠ .correction)
    (hversion : ∀ n ∈ db.memoryEntries.rows, n.version < u32Max) : Orderly db e := by
  have hedge : ∀ x y, ¬Corrects (shelf db) x y := by
    rintro x y ⟨n, hn, htype, -⟩
    exact hplain n (Table.get?_mem hn) htype
  have hsole : ∀ m ∈ db.memoryEntries.rows, Sole (shelf db) m.id m.documentId := fun m hm =>
    sole_alone (fun x => hedge x m.id) (hedge m.id) (Table.get?_of_mem hm)
  unfold Orderly
  split
  · trivial
  · intro m hm
    exact ⟨hedge m.id, hversion m (Table.get?_mem hm), hsole m (Table.get?_mem hm)⟩
  · intro m hm _
    exact hsole m (Table.get?_mem hm)

def lunchDesk : Database :=
  { sampleDatabase with memoryEntries := .empty, disputes := .empty }

def bobTells : Event := ⟨2000, 2000, .answer sampleIds [] bobRequest⟩

def correction : String := "Noodles by Exit 3, 9,500 won, 30 minutes"

def bobCorrects (ids : AnswerIds) : Event := ⟨3000, 3000, .correct ids "bob" "memory_b" correction⟩

def firstIds : AnswerIds := ⟨"memory_c", "md_c", "", ""⟩

def secondIds : AnswerIds := ⟨"memory_d", "md_d", "", ""⟩

theorem lineages_ok_sample :
    ∃ db, Trace (fun db e db' => Step sampleAppraisal db e db' ∧
        ((execute sampleAppraisal db e).isOk = true → Orderly db e)) lunchDesk
        [bobTells, bobCorrects firstIds] db ∧
      (db.documents.rows.countP fun d => !d.locked) = 1 ∧ LineageOk (shelf db) := by
  have hrun : (accept sampleAppraisal lunchDesk bobTells).any (fun told =>
      told.memoryEntries.rows.all (fun n => decide (n.memoryType ≠ .correction ∧ n.version < u32Max)) &&
        (accept sampleAppraisal told (bobCorrects firstIds)).any fun db =>
          decide ((db.documents.rows.countP fun d => !d.locked) = 1)) = true := by
    decide +kernel
  obtain ⟨told, htold, hplain⟩ := (Option.any_eq_true _ _).mp hrun
  rw [Bool.and_eq_true, List.all_eq_true] at hplain
  obtain ⟨hplain, hcorrects⟩ := hplain
  simp only [decide_eq_true_eq] at hplain
  obtain ⟨db, hdb, hone⟩ := (Option.any_eq_true _ _).mp hcorrects
  have hstart : Trace (fun db e db' => Step sampleAppraisal db e db' ∧
      ((execute sampleAppraisal db e).isOk = true → Orderly db e)) lunchDesk [] lunchDesk := .nil
  have htrace := (hstart.snoc ⟨accept_step htold, fun _ => trivial⟩).snoc
    ⟨accept_step hdb, fun _ => orderly_first (fun n hn => (hplain n hn).1) fun n hn => (hplain n hn).2⟩
  exact ⟨db, htrace, of_decide_eq_true hone, lineages_ok rfl htrace⟩

-- an answer corrected twice is for sale in both corrections
theorem lineage_forked :
    ∃ db, Trace (Step sampleAppraisal) lunchDesk
        [bobTells, bobCorrects firstIds, bobCorrects secondIds] db ∧ ¬LineageOk (shelf db) := by
  have hrun : (runWith (accept sampleAppraisal) lunchDesk
      [bobTells, bobCorrects firstIds, bobCorrects secondIds]).any (fun db =>
        (db.memoryEntries.get? "memory_c").any (fun m => decide (m.memoryType = .correction ∧
          m.sourceIds = ["memory_b"] ∧ m.documentId = some "md_c")) &&
        (db.memoryEntries.get? "memory_d").any (fun m => decide (m.memoryType = .correction ∧
          m.sourceIds = ["memory_b"] ∧ m.documentId = some "md_d")) &&
        (db.documents.get? "md_c").any (fun d => !d.locked) &&
        (db.documents.get? "md_d").any fun d => !d.locked) = true := by
    decide +kernel
  obtain ⟨db, hdb, hbad⟩ := (Option.any_eq_true _ _).mp hrun
  simp only [Bool.and_eq_true, decide_eq_true_eq, Option.any_eq_true, Bool.not_eq_true'] at hbad
  obtain ⟨⟨⟨⟨m, hm, htype, hsource, hmi⟩, n, hn, hntype, hnsource, hni⟩, d, hd, hopen⟩, d', hd', hopen'⟩ :=
    hbad
  refine ⟨db, runWith_trace (fun _ _ _ => accept_step) hdb, fun hok => ?_⟩
  have hfirst : Corrects (shelf db) "memory_b" "memory_c" := ⟨m, hm, htype, by simp [hsource]⟩
  have hsecond : Corrects (shelf db) "memory_b" "memory_d" := ⟨n, hn, hntype, by simp [hnsource]⟩
  have hkin : Kin (Corrects (shelf db)) "memory_c" "memory_d" :=
    ⟨"memory_b", .single hfirst, .single hsecond⟩
  have hsame := hok.single _ _ _ _ hkin ⟨m, d, hm, hmi, hd, hopen⟩ ⟨n, d', hn, hni, hd', hopen'⟩
  simp at hsame

end Samples

end Obulus.Calls.Lineage
