import Obulus.Generation.Ready

namespace Obulus.Generation

open Foundation Store

variable {db db' : Database} {m : Moment} {moments : List Moment} {a : Attempt} {w w' v : World} {op : Op} {P : Attempt → Prop} {clock now now' window limit : Nat}
  {artifactKind scopeId inputHash response userId : String} {documentHandles : List String}
  {documents : List (String × String)} {result : AiGenerationClaim} {input : String × String × String}
  {cleanup : List Identity} {held : List Claimed}

section Forgetting

def releases (input : String × String × String) (m : Moment) : Prop :=
  match m.change with
  | .fence (.release artifactKind scopeId inputHash _) =>
    (artifactKind, trim scopeId, trim inputHash) = input
  | _ => False

-- the account of an author that was read, or of the user the starters are for
def erases (input : String × String × String) (db : Database) (m : Moment) : Prop :=
  match m.change with
  | .deleteAccount userId _ _ =>
    (input.1 = "shelf_starters" ∧ input.2.1 = userId) ∨
      ∃ d ∈ db.generationDocuments.rows, d.attemptKey = input ∧ d.authorId = userId
  | _ => False

-- at whatever time it happens
def Remembers (input : String × String × String) (w : World) (m : Moment) (w' : World) : Prop :=
  Happens w m w' ∧ ¬erases input w.db m

def Fenced (input : String × String × String) (w : World) (m : Moment) (w' : World) : Prop :=
  Remembers input w m w' ∧ ¬releases input m

end Forgetting

section Keeping

def Has (P : Attempt → Prop) (input : String × String × String) (db : Database) : Prop :=
  ∃ a, db.attempts.get? input = some a ∧ P a

theorem finish_get {status : AttemptStatus} {answer : Option String → Option String} :
    (finishAttempts db artifactKind scopeId inputHash window status answer now).attempts.get? input =
      (db.attempts.get? input).map fun a =>
        if a.activeAt artifactKind scopeId inputHash window then
          { a with status := status, responseJson := answer a.responseJson, completedAt := some now }
        else a := by
  have hkey : ∀ a : Attempt, Attempt.key { a with
      status := status, responseJson := answer a.responseJson, completedAt := some now } = a.key :=
    fun _ => rfl
  exact @Table.get?_update _ _ Attempt.key db.attempts input _ _ hkey _

theorem Has.finished {status : AttemptStatus} {answer : Option String → Option String}
    (h : Has P input db)
    (hP : ∀ a, a.status = .started → P a →
      P { a with status := status, responseJson := answer a.responseJson, completedAt := some now }) :
    Has P input (finishAttempts db artifactKind scopeId inputHash window status answer now) := by
  obtain ⟨a, hget, ha⟩ := h
  rw [Has, finish_get, hget]
  refine ⟨_, rfl, ?_⟩
  dsimp only
  split
  · next hactive => exact hP a (of_decide_eq_true hactive).2.2 ha
  · exact ha

theorem Has.claimed (h : Has P input db)
    (hclaim : claimAiGeneration db now artifactKind scopeId inputHash documentHandles =
      .ok (result, db')) : Has P input db' := by
  obtain ⟨a, hget, ha⟩ := h
  obtain ⟨hmem, hkey⟩ := Table.get?_eq_some.mp hget
  rcases claim_effect hclaim with rfl | ⟨documents, hgranted⟩
  · exact ⟨a, hget, ha⟩
  · refine ⟨a, Table.get?_eq_some.mpr ⟨?_, hkey⟩, ha⟩
    rw [hgranted.attempts]
    exact List.mem_append_left _ hmem

theorem Has.deleted {p : Attempt → Bool} (h : Has P input db)
    (hattempts : db'.attempts = db.attempts.delete p)
    (hp : ∀ a, a.key = input → P a → p a = false) : Has P input db' := by
  obtain ⟨a, hget, ha⟩ := h
  refine ⟨a, ?_, ha⟩
  rw [hattempts, Table.get?_delete, hget]
  simp [hp a (Table.get?_key hget) ha]

theorem Has.released (h : Has P input db)
    (hrelease : releaseAiGenerationBeforeProvider db artifactKind scopeId inputHash window = .ok db')
    (hP : (artifactKind, trim scopeId, trim inputHash) = input → ∀ a, P a → a.status ≠ .started) :
    Has P input db' := by
  simp only [releaseAiGenerationBeforeProvider, bind_eq_ok, reject_eq_ok, exists_const,
    pure_eq_ok] at hrelease
  obtain ⟨_, -, -, _, -, -, -, rfl⟩ := hrelease
  refine h.deleted rfl ?_
  intro a hkey ha
  refine decide_eq_false ?_
  rintro ⟨hmine, -, hstarted⟩
  exact hP (hmine.symm.trans hkey) a ha hstarted

theorem Has.cleaned (h : Has P input db) (hcleanup : ∀ i ∈ cleanup, i.input ≠ input) :
    Has P input (cleanup.foldl cleanGeneration db) := by
  induction cleanup generalizing db with
  | nil => exact h
  | cons i cleanup ih =>
    refine ih (h.deleted rfl ?_) fun j hj => hcleanup j (List.mem_cons_of_mem _ hj)
    intro a hkey _
    refine decide_eq_false ?_
    intro hsame
    refine hcleanup i List.mem_cons_self ?_
    rw [← hkey]
    change i.input = a.identity.input
    rw [hsame]

theorem Has.erased {others : Except StoreError Unit} (h : Has P input db)
    (hcleanup : cleanup.Perm (aiGenerationCleanup db userId))
    (hdelete : deleteAccount db now userId cleanup others = .ok db')
    (hstarters : ¬(input.1 = "shelf_starters" ∧ input.2.1 = userId))
    (hauthors : ¬∃ d ∈ db.generationDocuments.rows, d.attemptKey = input ∧ d.authorId = userId) :
    Has P input db' := by
  simp only [deleteAccount, bind_eq_ok, pure_eq_ok] at hdelete
  obtain ⟨_, -, _, -, _, -, rfl⟩ := hdelete
  have hother : ∀ i ∈ cleanup, i.input ≠ input := by
    intro i hi hinput
    obtain ⟨a, ha, rfl⟩ := List.mem_map.mp (hcleanup.mem_iff.mp hi)
    obtain ⟨-, hauthored⟩ := List.mem_filter.mp ha
    obtain ⟨d, hd, hmine⟩ := List.any_eq_true.mp hauthored
    obtain ⟨hkey, hauthor⟩ := of_decide_eq_true hmine
    exact hauthors ⟨d, hd, hkey.trans hinput, hauthor⟩
  refine (h.cleaned hother).deleted rfl ?_
  intro a hkey _
  refine decide_eq_false ?_
  rintro ⟨hkind, hscope⟩
  refine hstarters ⟨?_, ?_⟩
  · rw [← hkey]
    exact hkind
  · rw [← hkey]
    exact hscope

end Keeping

section Runs

-- how the two kinds of finish leave the fact about an attempt
def Finishes (P : Attempt → Prop) : Prop :=
  ∀ a status answer time, a.status = .started → P a →
    P { a with status := status, responseJson := answer, completedAt := time }

theorem execute_keeps (hfinish : Finishes P) (h : Has P input w.db)
    (hrelease : releases input ⟨now, .fence op⟩ → ∀ a, P a → a.status ≠ .started)
    (hexecute : execute w ⟨now, op⟩ = .ok w') : Has P input w'.db := by
  cases op with
  | claim artifactKind scopeId inputHash documentHandles =>
    simp only [execute, bind_eq_ok, pure_eq_ok] at hexecute
    obtain ⟨⟨result, db⟩, hclaim, rfl⟩ := hexecute
    exact h.claimed hclaim
  | complete artifactKind scopeId inputHash window response =>
    simp only [execute, completeAiGeneration, bind_eq_ok, pure_eq_ok] at hexecute
    obtain ⟨_, ⟨_, -, _, -, _, -, _, -, _, -, _, -, _, -, rfl⟩, rfl⟩ := hexecute
    exact h.finished fun a hstarted ha => hfinish a _ _ _ hstarted ha
  | fail artifactKind scopeId inputHash window =>
    simp only [execute, failAiGeneration, bind_eq_ok, pure_eq_ok] at hexecute
    obtain ⟨_, ⟨_, -, _, -, _, -, rfl⟩, rfl⟩ := hexecute
    exact h.finished fun a hstarted ha => hfinish a _ _ _ hstarted ha
  | release artifactKind scopeId inputHash window =>
    simp only [execute, bind_eq_ok, pure_eq_ok] at hexecute
    obtain ⟨db, hreleased, rfl⟩ := hexecute
    exact h.released hreleased hrelease
  | elsewhere documents recoveryHolds =>
    cases hexecute
    exact h

theorem happens_keeps (hfinish : Finishes P) (h : Has P input w.db) (hhappens : Remembers input w m w')
    (hrelease : releases input m → ∀ a, P a → a.status ≠ .started) : Has P input w'.db := by
  obtain ⟨hhappens, hkept⟩ := hhappens
  cases hhappens with
  | fence hstep =>
    cases hstep with
    | ok hexecute => exact execute_keeps hfinish h hrelease hexecute
    | failed _ => exact h
  | deleted hcleanup hdelete =>
    obtain ⟨hstarters, hauthors⟩ := not_or.mp hkept
    exact h.erased hcleanup hdelete hstarters hauthors
  | refused _ => exact h

theorem existing_of_has (h : Has P (artifactKind, trim scopeId, trim inputHash) db)
    (hclaim : claimAiGeneration db now artifactKind scopeId inputHash documentHandles =
      .ok (result, db')) :
    db' = db ∧ existingClaim db artifactKind (trim scopeId) (trim inputHash) = some result := by
  obtain ⟨a, hget, -⟩ := h
  have hsome : (existingClaim db artifactKind (trim scopeId) (trim inputHash)).isSome = true := by
    rw [existingClaim, hget]
    rfl
  simp only [claimAiGeneration, supportedLimit, bind_eq_ok, orReject_eq_ok] at hclaim
  obtain ⟨_, -, _, -, _, -, hclaim⟩ := hclaim
  split at hclaim
  · next hexisting =>
    cases hclaim
    exact ⟨rfl, hexisting⟩
  · next hnone =>
    rw [hnone] at hsome
    cases hsome

theorem existing_suppresses (h : existingClaim db artifactKind scopeId inputHash = some result) :
    result ≠ .acquired window := by
  obtain ⟨a, -, rfl⟩ := Option.map_eq_some_iff.mp h
  intro heq
  split at heq
  · cases heq
  · cases heq

-- an acquired input is not acquired again, unless it is released or erased in between
theorem provider_called_once
    (hfirst : claimAiGeneration db now artifactKind scopeId inputHash documentHandles =
      .ok (.acquired window, db'))
    (hrun : Trace (Fenced (artifactKind, trim scopeId, trim inputHash)) ⟨db', held⟩ moments v)
    {scopeId' inputHash' : String} {handles : List String} {next : Database}
    (hscope : trim scopeId' = trim scopeId) (hhash : trim inputHash' = trim inputHash)
    (hagain : claimAiGeneration v.db now' artifactKind scopeId' inputHash' handles =
      .ok (result, next)) :
    next = v.db ∧ ∀ window, result ≠ .acquired window := by
  have hstart : Has (fun _ => True) (artifactKind, trim scopeId, trim inputHash) db' := by
    rcases claim_cases hfirst with ⟨-, hnot⟩ | ⟨-, -, -, hrows⟩
    · exact absurd rfl (hnot window)
    · refine ⟨newAttempt now artifactKind (trim scopeId) (trim inputHash),
        Table.get?_eq_some.mpr ⟨?_, rfl⟩, trivial⟩
      rw [hrows]
      exact List.mem_append_right _ (List.mem_singleton_self _)
  have hhas := hrun.invariant
    (P := fun w => Has (fun _ => True) (artifactKind, trim scopeId, trim inputHash) w.db) hstart
    fun _ _ _ h hstep =>
      happens_keeps (fun _ _ _ _ _ _ => trivial) h hstep.1 fun hreleases => absurd hreleases hstep.2
  rw [← hscope, ← hhash] at hhas
  obtain ⟨hsame, hexisting⟩ := existing_of_has hhas hagain
  exact ⟨hsame, fun window => existing_suppresses hexisting⟩

theorem execute_fail (h : failAiGeneration w.db now artifactKind scopeId inputHash window = .ok db) :
    execute w ⟨now, .fail artifactKind scopeId inputHash window⟩ = .ok ⟨db, w.held⟩ := by
  simp only [execute, h]
  rfl

theorem provider_called_once_sample :
    ∃ db v next, claimAiGeneration emptyDatabase 86400500 "shelf_starters" "alice" foodInput [] =
        .ok (.acquired 86400000, db) ∧
      Trace (Fenced ("shelf_starters", trim "alice", trim foodInput)) ⟨db, []⟩
        [⟨86400900, .fence (.fail "shelf_starters" "alice" foodInput 86400000)⟩] v ∧
      claimAiGeneration v.db 86401000 "shelf_starters" " alice" foodInput [] =
        .ok (.suppressed, next) ∧ next = v.db := by
  have hrun : (claimAiGeneration emptyDatabase 86400500 "shelf_starters" "alice" foodInput
      []).toOption.any (fun r => decide (r.1 = .acquired 86400000 ∧ trim " alice" = trim "alice") &&
        (failAiGeneration r.2 86400900 "shelf_starters" "alice" foodInput 86400000).toOption.any
          fun failed => (claimAiGeneration failed 86401000 "shelf_starters" " alice" foodInput
            []).toOption.any fun r => decide (r.1 = .suppressed)) = true := by
    decide +kernel
  obtain ⟨⟨_, db⟩, hfirst, hrest⟩ := (Option.any_eq_true _ _).mp hrun
  rw [Bool.and_eq_true, decide_eq_true_eq] at hrest
  obtain ⟨⟨rfl, hscope⟩, hrest⟩ := hrest
  obtain ⟨failed, hfail, hrest⟩ := (Option.any_eq_true _ _).mp hrest
  obtain ⟨⟨_, next⟩, hagain, hresult⟩ := (Option.any_eq_true _ _).mp hrest
  obtain rfl := of_decide_eq_true hresult
  have hstep : Fenced ("shelf_starters", trim "alice", trim foodInput) ⟨db, []⟩
      ⟨86400900, .fence (.fail "shelf_starters" "alice" foodInput 86400000)⟩
      ⟨failed, []⟩ :=
    ⟨⟨.fence (.ok (execute_fail (toOption_eq_some.mp hfail))), id⟩, id⟩
  have hrun := Trace.single_iff.mpr hstep
  have hsame := provider_called_once (toOption_eq_some.mp hfirst) hrun hscope rfl
    (toOption_eq_some.mp hagain)
  exact ⟨db, _, next, toOption_eq_some.mp hfirst, hrun, toOption_eq_some.mp hagain, hsame.1⟩

-- an answer that was stored is given to every later claim, until it is erased
theorem synthesis_kept
    (hcomplete : completeAiGeneration db now artifactKind scopeId inputHash window (some response) =
      .ok db')
    (hrun : Trace (Remembers (artifactKind, trim scopeId, trim inputHash)) ⟨db', held⟩ moments v)
    {scopeId' inputHash' : String} {handles : List String} {next : Database}
    (hscope : trim scopeId' = trim scopeId) (hhash : trim inputHash' = trim inputHash)
    (hagain : claimAiGeneration v.db now' artifactKind scopeId' inputHash' handles =
      .ok (result, next)) :
    result = .cached response ∧ next = v.db := by
  have hstart : Has (fun a => a.status = .completed ∧ a.responseJson = some response)
      (artifactKind, trim scopeId, trim inputHash) db' := by
    simp only [completeAiGeneration, bind_eq_ok, reject_eq_ok, exists_const, asI64_eq_ok,
      pure_eq_ok, Bool.not_eq_false] at hcomplete
    obtain ⟨_, -, -, -, -, _, -, _, -, hactive, rfl⟩ := hcomplete
    obtain ⟨a, ha, hfound⟩ := List.any_eq_true.mp hactive
    have hget : db.attempts.get? (artifactKind, trim scopeId, trim inputHash) = some a :=
      Table.get?_eq_some.mpr ⟨ha, (of_decide_eq_true hfound).1⟩
    rw [Has, finish_get, hget, Option.map_some, if_pos hfound]
    exact ⟨_, rfl, rfl, rfl⟩
  have hhas := hrun.invariant (P := fun w => Has (fun a => a.status = .completed ∧
      a.responseJson = some response) (artifactKind, trim scopeId, trim inputHash) w.db) hstart
    fun _ _ _ h hstep => by
    refine happens_keeps ?_ h hstep ?_
    · rintro a status answer time hstarted ⟨hdone, -⟩
      rw [hstarted] at hdone
      cases hdone
    · rintro - a ⟨hdone, -⟩ hstarted
      rw [hstarted] at hdone
      cases hdone
  rw [← hscope, ← hhash] at hhas
  obtain ⟨hsame, hexisting⟩ := existing_of_has hhas hagain
  obtain ⟨a, hget, hdone, hresponse⟩ := hhas
  rw [existingClaim, hget] at hexisting
  simp only [Option.map_some, hdone, hresponse, Option.some.injEq] at hexisting
  exact ⟨hexisting.symm, hsame⟩

theorem synthesis_kept_sample :
    ∃ db done v next, completeAiGeneration db 90000900 "synthesis" "alice" foodInput 86400000
        (some "answer") = .ok done ∧
      Trace (Remembers ("synthesis", trim "alice", trim foodInput)) ⟨done, []⟩
        [⟨90001000, .fence (.fail "synthesis" "alice" foodInput 86400000)⟩] v ∧
      claimAiGeneration v.db 180000000 "synthesis" "alice" foodInput ["h1"] =
        .ok (.cached "answer", next) ∧ next = v.db := by
  let documents : Table SourceDocument.id := ⟨[⟨"1", "h1", "bob"⟩], by simp⟩
  have hrun : (claimAiGeneration { emptyDatabase with documents := documents } 90000500 "synthesis"
      "alice" foodInput ["h1"]).toOption.any (fun r =>
        (completeAiGeneration r.2 90000900 "synthesis" "alice" foodInput 86400000
          (some "answer")).toOption.any fun done =>
            (failAiGeneration done 90001000 "synthesis" "alice" foodInput 86400000).toOption.any
              fun failed => (claimAiGeneration failed 180000000 "synthesis" "alice" foodInput
                ["h1"]).toOption.isSome) = true := by
    decide +kernel
  obtain ⟨⟨_, db⟩, -, hrest⟩ := (Option.any_eq_true _ _).mp hrun
  obtain ⟨done, hdone, hrest⟩ := (Option.any_eq_true _ _).mp hrest
  obtain ⟨failed, hfail, hrest⟩ := (Option.any_eq_true _ _).mp hrest
  obtain ⟨⟨result, next⟩, hagain⟩ := Option.isSome_iff_exists.mp hrest
  have hstep : Remembers ("synthesis", trim "alice", trim foodInput) ⟨done, []⟩
      ⟨90001000, .fence (.fail "synthesis" "alice" foodInput 86400000)⟩
      ⟨failed, []⟩ :=
    ⟨.fence (.ok (execute_fail (toOption_eq_some.mp hfail))), id⟩
  have hrun := Trace.single_iff.mpr hstep
  obtain ⟨rfl, hsame⟩ := synthesis_kept (toOption_eq_some.mp hdone) hrun rfl rfl
    (toOption_eq_some.mp hagain)
  exact ⟨db, done, _, next, toOption_eq_some.mp hdone, hrun, toOption_eq_some.mp hagain, hsame⟩

end Runs

end Obulus.Generation
