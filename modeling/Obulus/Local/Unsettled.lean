import Obulus.Local.Agent

namespace Obulus.Local

open Foundation

variable {platform : Platform} {config : Config} {world world' : World} {event : Event}
  {update : Update} {intentId : String} {intent intent' : PaymentIntent} {number : Nat} {task : Task}

def SameTerms (a b : PaymentIntent) : Prop :=
  a.kind = b.kind ∧ approvalFingerprint a = approvalFingerprint b

theorem SameTerms.refl (a : PaymentIntent) : SameTerms a a := ⟨rfl, rfl⟩

theorem SameTerms.trans {a b c : PaymentIntent} (hab : SameTerms a b) (hbc : SameTerms b c) :
    SameTerms a c :=
  ⟨hab.1.trans hbc.1, hab.2.trans hbc.2⟩

theorem SameTerms.queryId {a b : PaymentIntent} (h : SameTerms a b) : a.queryId = b.queryId :=
  congrArg ApprovalFingerprint.queryId h.2

theorem SameTerms.quoteId {a b : PaymentIntent} (h : SameTerms a b) : a.quoteId = b.quoteId :=
  congrArg ApprovalFingerprint.quoteId h.2

theorem SameTerms.approvalBinding {a b : PaymentIntent} (h : SameTerms a b) :
    a.approvalBinding = b.approvalBinding :=
  congrArg ApprovalFingerprint.approvalBinding h.2

theorem SameTerms.network {a b : PaymentIntent} (h : SameTerms a b) : a.network = b.network :=
  congrArg ApprovalFingerprint.network h.2

theorem SameTerms.receipt {a b : PaymentIntent} (h : SameTerms a b) (stdout : Option Json) :
    verifiedPaymentResponse a stdout = verifiedPaymentResponse b stdout := by
  simp only [verifiedPaymentResponse, openCallReceipt, documentReceipt, bundleReceipt,
    h.1, h.quoteId, h.approvalBinding, h.network]

theorem SameTerms.recovery {a b : PaymentIntent} (h : SameTerms a b) (jobId : String) (reply : Json) :
    recoveryNames a jobId reply = recoveryNames b jobId reply := by
  simp only [recoveryNames, h.approvalBinding]

inductive StatusMove : IntentStatus → IntentStatus → Prop
  | kept {status : IntentStatus} : StatusMove status status
  | approved : StatusMove .prepared .approved
  | claimed : StatusMove .approved .executing
  | completed : StatusMove .executing .completed
  | doubted : StatusMove .executing .ambiguous
  | recovered {status : IntentStatus} : status.unsettled = true → StatusMove status .completed

-- past its approval
def IntentStatus.begun (status : IntentStatus) : Bool :=
  [IntentStatus.executing, .ambiguous, .completed].contains status

theorem StatusMove.begun {a b : IntentStatus} (h : StatusMove a b) (ha : a.begun = true) :
    b.begun = true := by
  cases h with
  | kept => exact ha
  | approved => cases ha
  | claimed => rfl
  | completed => rfl
  | doubted => rfl
  | recovered => rfl

theorem StatusMove.unsettled {a b : IntentStatus} (h : StatusMove a b) (ha : a.unsettled = true) :
    b.unsettled = true ∨ b = .completed := by
  cases h with
  | kept => exact .inl ha
  | approved => cases ha
  | claimed => cases ha
  | completed => exact .inr rfl
  | doubted => exact .inl rfl
  | recovered => exact .inr rfl

theorem IntentMove.same {before after : PaymentIntent}
    (h : IntentMove intentId update (some before) (some after))
    (hquiet : update.prepares intentId = false) :
    SameTerms after before ∧ StatusMove before.status after.status := by
  cases h with
  | kept => exact ⟨.refl _, .kept⟩
  | prepared hprepares => rw [hquiet] at hprepares; cases hprepares
  | approved hstatus => exact ⟨.refl _, hstatus ▸ .approved⟩
  | claimed hstatus => exact ⟨.refl _, hstatus ▸ .claimed⟩
  | completed hstatus => exact ⟨.refl _, hstatus ▸ .completed⟩
  | doubted hstatus => exact ⟨.refl _, hstatus ▸ .doubted⟩
  | recovered hunsettled => exact ⟨.refl _, .recovered hunsettled⟩

theorem IntentMove.absent {after : Option PaymentIntent} (h : IntentMove intentId update none after)
    (hquiet : update.prepares intentId = false) : after = none := by
  cases h with
  | kept => rfl
  | prepared hprepares => rw [hquiet] at hprepares; cases hprepares
  | dropped => rfl

theorem IntentMove.gone {before : PaymentIntent} (h : IntentMove intentId update (some before) none) :
    before.unsettled = false ∨ update = .deleteAccount := by
  cases h with
  | forgotten hsettled => exact .inl hsettled
  | dropped => exact .inr rfl

def Drawn (world : World) (intentId : String) : Prop :=
  ∃ uuid ∈ world.uuids, intentId = intentIdOf uuid

theorem Stepped.drawn (h : Stepped platform config world event world') (hdrawn : Drawn world intentId) :
    Drawn world' intentId := by
  obtain ⟨uuid, hmem, rfl⟩ := hdrawn
  rcases h.uuids with huuids | ⟨_, -, huuids⟩
  · exact ⟨uuid, huuids ▸ hmem, rfl⟩
  · exact ⟨uuid, huuids ▸ List.mem_cons_of_mem _ hmem, rfl⟩

theorem intentIdOf_injective {a b : String} (h : intentIdOf a = intentIdOf b) : a = b := by
  have hchars := congrArg String.toList h
  rw [intentIdOf, intentIdOf, String.toList_append, String.toList_append] at hchars
  exact String.toList_inj.mp (List.append_cancel_left hchars)

theorem Stepped.quiet (h : Stepped platform config world event world')
    (hperforms : Performs world event update) (hdrawn : Drawn world intentId) :
    update.prepares intentId = false := by
  by_contra hprepares
  rw [Bool.not_eq_false] at hprepares
  obtain ⟨uuid, hnew, hid, -⟩ := h.draws update intentId hperforms hprepares
  obtain ⟨uuid', hmem, hid'⟩ := hdrawn
  exact hnew (intentIdOf_injective (hid.symm.trans hid') ▸ hmem)

-- what a step does to an identity that was drawn before it
theorem Stepped.moves (h : Stepped platform config world event world')
    (hdrawn : Drawn world intentId) :
    world'.intent intentId = world.intent intentId ∨
      ∃ update, Performs world event update ∧ update.prepares intentId = false ∧
        update.apply platform config world.state = .ok world'.state ∧
        IntentMove intentId update (world.intent intentId) (world'.intent intentId) := by
  rcases h.state with hstate | ⟨update, hperforms, happly⟩
  · left
    rw [World.intent, World.intent, hstate]
  · exact .inr ⟨update, hperforms, h.quiet hperforms hdrawn, happly, apply_moves happly⟩

theorem Stepped.same (h : Stepped platform config world event world') (hdrawn : Drawn world intentId)
    (hbefore : world.intent intentId = some intent) (hafter : world'.intent intentId = some intent') :
    SameTerms intent' intent ∧ StatusMove intent.status intent'.status := by
  rcases h.moves hdrawn with hkept | ⟨update, -, hquiet, -, hmove⟩
  · rw [hafter, hbefore] at hkept
    cases hkept
    exact ⟨.refl _, .kept⟩
  · rw [hbefore, hafter] at hmove
    exact hmove.same hquiet

theorem Stepped.absent (h : Stepped platform config world event world')
    (hdrawn : Drawn world intentId) (hbefore : world.intent intentId = none) :
    world'.intent intentId = none := by
  rcases h.moves hdrawn with hkept | ⟨update, -, hquiet, -, hmove⟩
  · rw [hkept, hbefore]
  · rw [hbefore] at hmove
    exact hmove.absent hquiet

def Recalls (world : World) (intentId : String) (remembered : PaymentIntent) : Prop :=
  Drawn world intentId ∧ ∀ intent, world.intent intentId = some intent → SameTerms intent remembered

theorem Recalls.step {remembered : PaymentIntent} (hrecalls : Recalls world intentId remembered)
    (h : Stepped platform config world event world') : Recalls world' intentId remembered := by
  refine ⟨h.drawn hrecalls.1, ?_⟩
  intro intent' hafter
  cases hbefore : world.intent intentId with
  | none =>
    rw [h.absent hrecalls.1 hbefore] at hafter
    cases hafter
  | some intent => exact (h.same hrecalls.1 hbefore hafter).1.trans (hrecalls.2 intent hbefore)

def TaskSound (world : World) : Task → Prop
  | .running intentId claimed => Recalls world intentId claimed
  | .receiving intentId claimed body =>
    Recalls world intentId claimed ∧ (verifiedPaymentResponse claimed (some body)).isOk = true
  | .recovering queryId jobId intentId localIntent =>
    Recalls world intentId localIntent ∧ localIntent.queryId = queryId ∧ localIntent.quoteId = jobId
  | .recovered intentId localIntent reply =>
    Recalls world intentId localIntent ∧ recoveryNames localIntent localIntent.quoteId reply = true
  | _ => True

theorem TaskSound.step (hsound : TaskSound world task)
    (h : Stepped platform config world event world') : TaskSound world' task := by
  cases task with
  | running => exact Recalls.step hsound h
  | receiving => exact ⟨hsound.1.step h, hsound.2⟩
  | recovering => exact ⟨hsound.1.step h, hsound.2⟩
  | recovered => exact ⟨hsound.1.step h, hsound.2⟩
  | preparing => trivial
  | preparingOpenCall => trivial
  | approving => trivial
  | doubting => trivial
  | deleting => trivial

structure Sound (world : World) : Prop where
  named : ∀ intentId intent, world.intent intentId = some intent → Drawn world intentId
  tasks : ∀ number task, world.task number = some task → TaskSound world task

theorem Sound.recalls (hsound : Sound world) (hget : world.intent intentId = some intent) :
    Recalls world intentId intent := by
  refine ⟨hsound.named intentId intent hget, ?_⟩
  intro intent' hget'
  rw [hget] at hget'
  cases hget'
  exact .refl _

theorem Begins.sound (hbegins : Begins world number event task) (hsound : Sound world) :
    TaskSound world task := by
  cases hbegins with
  | preparing => trivial
  | preparingOpenCall => trivial
  | approving => trivial
  | running hget =>
    have hrecalls := hsound.recalls hget
    exact ⟨hrecalls.1, hrecalls.2⟩
  | receiving htask hreceipt => exact ⟨hsound.tasks _ _ htask, hreceipt⟩
  | doubting => trivial
  | recovering hget hquery hquote => exact ⟨hsound.recalls hget, hquery, hquote⟩
  | recovered htask hnames =>
    obtain ⟨hrecalls, -, hquote⟩ := hsound.tasks _ _ htask
    exact ⟨hrecalls, hquote ▸ hnames⟩
  | deleting => trivial

theorem named_step (hsound : Sound world) (h : Stepped platform config world event world')
    (hafter : world'.intent intentId = some intent') : Drawn world' intentId := by
  rcases h.state with hstate | ⟨update, hperforms, happly⟩
  · rw [World.intent, hstate] at hafter
    exact h.drawn (hsound.named intentId intent' hafter)
  · cases hprepares : update.prepares intentId with
    | true =>
      obtain ⟨uuid, -, rfl, huuids⟩ := h.draws update intentId hperforms hprepares
      exact ⟨uuid, huuids ▸ List.mem_cons_self, rfl⟩
    | false =>
      have hmove : IntentMove intentId update (world.intent intentId) (world'.intent intentId) :=
        apply_moves happly
      cases hbefore : world.intent intentId with
      | none =>
        rw [hbefore, hafter] at hmove
        exact absurd (hmove.absent hprepares) (by simp)
      | some intent => exact h.drawn (hsound.named intentId intent hbefore)

theorem step_sound (hsound : Sound world) (h : Stepped platform config world event world') :
    Sound world' := by
  refine ⟨fun intentId intent' hafter => named_step hsound h hafter, ?_⟩
  intro number task htask
  rcases h.tasks number task htask with ⟨hbefore, -⟩ | hbegins
  · exact (hsound.tasks number task hbefore).step h
  · exact (hbegins.sound hsound).step h

theorem sound_start : Sound World.start where
  named _ _ h := by cases h
  tasks _ _ h := by cases h

def capability (state : State) (queryId : String) : Option Query :=
  (state.queries.get queryId).filter fun query => query.paymentAccessToken ≠ ""

def careful (world : World) : Event → Bool
  | .recordDeletion _ => world.state.paymentIntents.rows.all fun entry => !entry.2.unsettled
  | .storePrepared number _ _ _ =>
    match world.task number with
    | some (.preparing queryId _) => (capability world.state queryId).isSome
    | _ => true
  | _ => true

def CarefulStep (platform : Platform) (config : Config) (world : World) (event : Event)
    (world' : World) : Prop :=
  Step platform config world event world' ∧ careful world event = true

def Capable (world : World) : Prop :=
  ∀ intentId intent, world.intent intentId = some intent → intent.kind = none →
    (capability world.state intent.queryId).isSome = true

theorem Performs.keeps (h : Performs world event update) (hcareful : careful world event = true)
    (hget : world.intent intentId = some intent) (hunsettled : intent.unsettled = true) :
    update ≠ .deleteAccount := by
  rintro rfl
  cases h
  have hsettled := List.all_eq_true.mp hcareful _ (Table.get?_mem (Entries.get_eq_some.mp hget))
  rw [hunsettled] at hsettled
  cases hsettled

theorem Performs.unnamed (h : Performs world event update)
    (hsome : (world.state.queries.get intent.queryId).isSome = true) (query : Query) :
    update ≠ .remember intent.queryId query := by
  rintro rfl
  cases h with
  | search hnew =>
    rw [hnew] at hsome
    cases hsome

-- the capability of a stored intent is as before, unless its query was never stored
theorem Stepped.queries (h : Stepped platform config world event world')
    (hafter : world'.intent intentId = some intent)
    (hsome : (world.state.queries.get intent.queryId).isSome = true) :
    world'.state.queries.get intent.queryId = world.state.queries.get intent.queryId := by
  rcases h.state with hstate | ⟨update, hperforms, happly⟩
  · rw [hstate]
  · exact apply_queries happly hafter (hperforms.unnamed hsome)

theorem stored_of_capability {state : State} {queryId : String}
    (h : (capability state queryId).isSome = true) : (state.queries.get queryId).isSome = true := by
  obtain ⟨query, hquery⟩ := Option.isSome_iff_exists.mp h
  rw [capability, Option.filter_eq_some_iff] at hquery
  rw [hquery.1]
  rfl

theorem Stepped.capability (h : Stepped platform config world event world')
    (hafter : world'.intent intentId = some intent)
    (hcapable : (capability world.state intent.queryId).isSome = true) :
    (capability world'.state intent.queryId).isSome = true := by
  rw [Local.capability, h.queries hafter (stored_of_capability hcapable)]
  exact hcapable

theorem capable_step (hsound : Sound world) (hcapable : Capable world)
    (h : Stepped platform config world event world') (hcareful : careful world event = true) :
    Capable world' := by
  intro intentId intent' hafter hkind
  apply h.capability hafter
  cases hbefore : world.intent intentId with
  | some intent =>
    obtain ⟨hterms, -⟩ := h.same (hsound.named intentId intent hbefore) hbefore hafter
    rw [hterms.queryId]
    exact hcapable intentId intent hbefore (hterms.1 ▸ hkind)
  | none =>
    rcases h.state with hstate | ⟨update, hperforms, happly⟩
    · rw [World.intent, hstate] at hafter
      rw [World.intent, hafter] at hbefore
      cases hbefore
    · have hmove : IntentMove intentId update none (some intent') := by
        rw [← hbefore, ← hafter]
        exact apply_moves happly
      cases hmove with
      | prepared _ _ hquery =>
        cases hperforms with
        | prepare htask =>
          have hqueryId : _ = intent'.queryId := Option.some.inj (hquery hkind)
          rw [← hqueryId]
          simpa [careful, htask] using hcareful
        | _ => cases hquery hkind

theorem unsettled_step (hsound : Sound world) (h : Stepped platform config world event world')
    (hcareful : careful world event = true) (hbefore : world.intent intentId = some intent)
    (hunsettled : intent.unsettled = true) :
    ∃ intent', world'.intent intentId = some intent' ∧ SameTerms intent' intent ∧
      (intent'.unsettled = true ∨ intent'.status = .completed) := by
  have hdrawn := hsound.named intentId intent hbefore
  cases hafter : world'.intent intentId with
  | some intent' =>
    obtain ⟨hterms, hstatus⟩ := h.same hdrawn hbefore hafter
    exact ⟨intent', rfl, hterms, hstatus.unsettled hunsettled⟩
  | none =>
    rcases h.moves hdrawn with hkept | ⟨update, hperforms, -, -, hmove⟩
    · rw [hkept, hbefore] at hafter
      cases hafter
    · rw [hbefore, hafter] at hmove
      rcases hmove.gone with hsettled | hdelete
      · rw [hunsettled] at hsettled
        cases hsettled
      · exact absurd hdelete (hperforms.keeps hcareful hbefore hunsettled)

-- `first` was the last event of the operation before `events` ended
def Opened (events : List Event) (number : Nat) (first : Event) : Prop :=
  ∃ before after, events = before ++ first :: after ∧
    ∀ event ∈ after, event.number ≠ some number

def Answered (events : List Event) (number : Nat) (first second : Event) : Prop :=
  ∃ before between after, events = before ++ first :: between ++ second :: after ∧
    ∀ event ∈ between ++ after, event.number ≠ some number

def Told (events : List Event) (number : Nat) : Task → Prop
  | .running intentId _ => ∃ now, Opened events number (.execute number intentId now)
  | .receiving intentId _ body =>
    ∃ now, Answered events number (.execute number intentId now) (.returned number (some body))
  | .recovering queryId jobId _ _ =>
    ∃ now, Opened events number (.beginStatus number queryId jobId now)
  | .recovered _ localIntent reply =>
    ∃ now, Answered events number
      (.beginStatus number localIntent.queryId localIntent.quoteId now) (.statusReply number reply)
  | _ => True

section History

variable {events : List Event} {first second : Event}

theorem opened_new : Opened (events ++ [first]) number first :=
  ⟨events, [], rfl, by simp⟩

theorem Opened.snoc (h : Opened events number first) (hother : event.number ≠ some number) :
    Opened (events ++ [event]) number first := by
  obtain ⟨before, after, rfl, hquiet⟩ := h
  refine ⟨before, after ++ [event], by simp, ?_⟩
  intro event' hmem
  rcases List.mem_append.mp hmem with hmem | hmem
  · exact hquiet event' hmem
  · rwa [List.mem_singleton.mp hmem]

theorem Opened.answered (h : Opened events number first) :
    Answered (events ++ [second]) number first second := by
  obtain ⟨before, after, rfl, hquiet⟩ := h
  exact ⟨before, after, [], by simp, by simpa using hquiet⟩

theorem Answered.snoc (h : Answered events number first second)
    (hother : event.number ≠ some number) : Answered (events ++ [event]) number first second := by
  obtain ⟨before, between, after, rfl, hquiet⟩ := h
  refine ⟨before, between, after ++ [event], by simp, ?_⟩
  intro event' hmem
  rw [← List.append_assoc] at hmem
  rcases List.mem_append.mp hmem with hmem | hmem
  · exact hquiet event' hmem
  · rwa [List.mem_singleton.mp hmem]

theorem Told.snoc (h : Told events number task) (hother : event.number ≠ some number) :
    Told (events ++ [event]) number task := by
  cases task with
  | running =>
    obtain ⟨now, hopened⟩ := h
    exact ⟨now, hopened.snoc hother⟩
  | receiving =>
    obtain ⟨now, hanswered⟩ := h
    exact ⟨now, hanswered.snoc hother⟩
  | recovering =>
    obtain ⟨now, hopened⟩ := h
    exact ⟨now, hopened.snoc hother⟩
  | recovered =>
    obtain ⟨now, hanswered⟩ := h
    exact ⟨now, hanswered.snoc hother⟩
  | preparing => trivial
  | preparingOpenCall => trivial
  | approving => trivial
  | doubting => trivial
  | deleting => trivial

theorem Begins.told (hbegins : Begins world number event task) (hsound : Sound world)
    (htold : ∀ number task, world.task number = some task → Told events number task) :
    Told (events ++ [event]) number task := by
  cases hbegins with
  | preparing => trivial
  | preparingOpenCall => trivial
  | approving => trivial
  | running => exact ⟨_, opened_new⟩
  | receiving htask =>
    obtain ⟨now, hopened⟩ := htold _ _ htask
    exact ⟨now, hopened.answered⟩
  | doubting => trivial
  | recovering => exact ⟨_, opened_new⟩
  | recovered htask =>
    obtain ⟨-, rfl, rfl⟩ := hsound.tasks _ _ htask
    obtain ⟨now, hopened⟩ := htold _ _ htask
    exact ⟨now, hopened.answered⟩
  | deleting => trivial

structure Kept (events : List Event) (world : World) : Prop where
  sound : Sound world
  capable : Capable world
  told : ∀ number task, world.task number = some task → Told events number task

theorem kept_start : Kept [] World.start where
  sound := sound_start
  capable _ _ h := by cases h
  told _ _ h := by cases h

theorem kept_step (hkept : Kept events world) (h : CarefulStep platform config world event world') :
    Kept (events ++ [event]) world' := by
  have hstepped := step_stepped h.1
  refine ⟨step_sound hkept.sound hstepped, capable_step hkept.sound hkept.capable hstepped h.2, ?_⟩
  intro number task htask
  rcases hstepped.tasks number task htask with ⟨hbefore, hother⟩ | hbegins
  · exact (hkept.told number task hbefore).snoc hother
  · exact hbegins.told hkept.sound hkept.told

theorem run_kept (h : Trace (CarefulStep platform config) World.start events world) :
    Kept events world := by
  refine h.history (P := Kept) kept_start ?_
  intro events world event world' _ hkept hstep
  exact kept_step hkept hstep

-- what may complete an intent
inductive Settling (events : List Event) (intentId : String) (intent : PaymentIntent) : Event → Prop
  | receipt {number : Nat} {body : Json} {started now : Int} :
      Answered events number (.execute number intentId started) (.returned number (some body)) →
      (verifiedPaymentResponse intent (some body)).isOk = true → intent.status = .executing →
      Settling events intentId intent (.recordReceipt number now)
  | recovery {number : Nat} {reply : Json} {asked now : Int} :
      Answered events number (.beginStatus number intent.queryId intent.quoteId asked)
        (.statusReply number reply) →
      recoveryNames intent intent.quoteId reply = true →
      Settling events intentId intent (.recordRecovery number now)

theorem settling_step (hkept : Kept events world) (h : Stepped platform config world event world')
    (hbefore : world.intent intentId = some intent) (hafter : world'.intent intentId = some intent')
    (hopen : intent.status ≠ .completed) (hdone : intent'.status = .completed) :
    Settling events intentId intent event := by
  have hdrawn := hkept.sound.named intentId intent hbefore
  rcases h.moves hdrawn with hsame | ⟨update, hperforms, -, -, hmove⟩
  · rw [hafter, hbefore] at hsame
    cases hsame
    exact absurd hdone hopen
  · rw [hbefore, hafter] at hmove
    cases hmove with
    | kept => exact absurd hdone hopen
    | prepared _ hstatus => rw [hstatus] at hdone; cases hdone
    | approved => cases hdone
    | claimed => cases hdone
    | doubted => cases hdone
    | completed hexecuting =>
      cases hperforms with
      | complete htask =>
        obtain ⟨hrecalls, hreceipt⟩ := hkept.sound.tasks _ _ htask
        obtain ⟨started, hanswered⟩ := hkept.told _ _ htask
        refine .receipt hanswered ?_ hexecuting
        rw [(hrecalls.2 intent hbefore).receipt]
        exact hreceipt
    | recovered =>
      cases hperforms with
      | recover htask =>
        obtain ⟨hrecalls, hnames⟩ := hkept.sound.tasks _ _ htask
        obtain ⟨asked, hanswered⟩ := hkept.told _ _ htask
        have hterms := hrecalls.2 intent hbefore
        rw [← hterms.quoteId, ← hterms.recovery] at hnames
        rw [← hterms.queryId, ← hterms.quoteId] at hanswered
        exact .recovery hanswered hnames

def HeldOpen (world : World) (intentId : String) (terms : PaymentIntent) : Prop :=
  ∃ intent, world.intent intentId = some intent ∧ SameTerms intent terms ∧ intent.unsettled = true

def CompletedWithin (platform : Platform) (config : Config) (world : World) (events : List Event)
    (intentId : String) (terms : PaymentIntent) : Prop :=
  ∃ past rest completed intent, events = past ++ rest ∧
    Trace (CarefulStep platform config) world past completed ∧
    completed.intent intentId = some intent ∧ SameTerms intent terms ∧ intent.status = .completed

theorem unsettled_run {later : List Event}
    (hrun : Trace (CarefulStep platform config) World.start events world)
    (hlater : Trace (CarefulStep platform config) world later world')
    (hget : world.intent intentId = some intent) (hunsettled : intent.unsettled = true) :
    CompletedWithin platform config world later intentId intent ∨
      HeldOpen world' intentId intent ∧
        ((world.state.queries.get intent.queryId).isSome = true →
          world'.state.queries.get intent.queryId = world.state.queries.get intent.queryId) := by
  induction hlater with
  | nil => exact .inr ⟨⟨intent, hget, .refl _, hunsettled⟩, fun _ => rfl⟩
  | @snoc mid last later event hmid hstep ih =>
    rcases ih with ⟨past, rest, completed, done, hsplit, hpast, hdone⟩ | ⟨⟨held, hheld, hterms, hopen⟩, hqueries⟩
    · refine .inl ⟨past, rest ++ [event], completed, done, ?_, hpast, hdone⟩
      rw [hsplit, List.append_assoc]
    · have hsound := (run_kept (Trace.append_iff.mpr ⟨_, hrun, hmid⟩)).sound
      have hstepped := step_stepped hstep.1
      obtain ⟨next, hnext, hsame, hstatus⟩ :=
        unsettled_step hsound hstepped hstep.2 hheld hopen
      rcases hstatus with hnextopen | hcompleted
      · refine .inr ⟨⟨next, hnext, hsame.trans hterms, hnextopen⟩, ?_⟩
        intro hsome
        have hquery : next.queryId = intent.queryId := (hsame.trans hterms).queryId
        have heq := hqueries hsome
        rw [← heq] at hsome ⊢
        rw [← hquery] at hsome ⊢
        exact hstepped.queries hnext hsome
      · exact .inl ⟨later ++ [event], [], last, next, by simp, .snoc hmid hstep, hnext,
          hsame.trans hterms, hcompleted⟩

theorem begun_run {later : List Event}
    (hrun : Trace (CarefulStep platform config) World.start events world)
    (hlater : Trace (CarefulStep platform config) world later world')
    (hget : world.intent intentId = some intent) (hbegun : intent.status.begun = true) :
    ∀ intent', world'.intent intentId = some intent' → intent'.status.begun = true := by
  have hdrawn := (run_kept hrun).sound.named intentId intent hget
  have hkept : Drawn world' intentId ∧
      ∀ intent', world'.intent intentId = some intent' → intent'.status.begun = true := by
    refine hlater.invariant (P := fun world => Drawn world intentId ∧
      ∀ intent', world.intent intentId = some intent' → intent'.status.begun = true) ?_ ?_
    · refine ⟨hdrawn, ?_⟩
      intro intent' hget'
      rw [hget] at hget'
      cases hget'
      exact hbegun
    · rintro world event world' ⟨hdrawn, hall⟩ hstep
      have hstepped := step_stepped hstep.1
      refine ⟨hstepped.drawn hdrawn, ?_⟩
      intro intent' hafter
      cases hbefore : world.intent intentId with
      | none =>
        rw [hstepped.absent hdrawn hbefore] at hafter
        cases hafter
      | some before => exact (hstepped.same hdrawn hbefore hafter).2.begun (hall before hbefore)
  exact hkept.2

end History

theorem unsettled_intents_kept {events later : List Event}
    (hrun : Trace (CarefulStep platform config) World.start events world)
    (hlater : Trace (CarefulStep platform config) world later world') :
    (∀ intentId intent, world.intent intentId = some intent → intent.kind = none →
      (capability world.state intent.queryId).isSome = true) ∧
    (∀ intentId intent, world.intent intentId = some intent → intent.unsettled = true →
      CompletedWithin platform config world later intentId intent ∨
        HeldOpen world' intentId intent ∧
          ((world.state.queries.get intent.queryId).isSome = true →
            world'.state.queries.get intent.queryId = world.state.queries.get intent.queryId)) ∧
    (∀ event next intentId intent intent', Step platform config world event next →
      world.intent intentId = some intent → next.intent intentId = some intent' →
      intent.status ≠ .completed → intent'.status = .completed →
      Settling events intentId intent event) ∧
    ∀ intentId intent, world.intent intentId = some intent → intent.status.begun = true →
      ∀ intent', world'.intent intentId = some intent' → intent'.status.begun = true := by
  have hkept := run_kept hrun
  refine ⟨hkept.capable, ?_, ?_, ?_⟩
  · intro intentId intent hget hunsettled
    exact unsettled_run hrun hlater hget hunsettled
  · intro event next intentId intent intent' hstep hbefore hafter hopen hdone
    exact settling_step hkept (step_stepped hstep) hbefore hafter hopen hdone
  · intro intentId intent hget hbegun
    exact begun_run hrun hlater hget hbegun

section Sample

def samplePlatform : Platform where
  parseUrl url :=
    if url = "https://pay.example/api/v1/paid-quotes/q1" then
      some ⟨"https://pay.example", "", "", "/api/v1/paid-quotes/q1", "", ""⟩
    else none
  sha256 text :=
    if text = "https://pay.example/api/v1/paid-quotes/q1" then
      "6d36df68ced92802266d689f317c87310c6a5ed9cbac887268a6e3e3ef4ec5a8"
    else ""

def sampleConfig : Config := ⟨"https://pay.example", some "devnet"⟩

def sampleBinding : ApprovalBinding where
  id := "q1"
  amountAtomic := "14815"
  network := "solana:devnet"
  asset := "usdc"
  payTo := "seller"
  resourcePath := "/api/v1/paid-documents/qry_1/human_1"
  documentHandle := some "human_1"
  documentHandles := none
  payloadHash := none
  target := none
  unitPriceKrw := none
  priceKrw := some 20
  totalPriceKrw := none

def samplePlan : PaymentPlan where
  purpose := "Open human evidence document human_1"
  paymentUrl := "https://pay.example/api/v1/paid-quotes/q1"
  id := "q1"
  amountAtomic := "14815"
  network := "solana:devnet"
  asset := "usdc"
  payTo := "seller"
  expiresAt := 900000
  approvalBinding := sampleBinding

def sampleReceipt : Json :=
  .object [("citations", .array [.object [("handle", .string "human_1"), ("price", .integer 20)]]),
    ("settlement", .object [("id", .string "q1"), ("count", .integer 1), ("total", .integer 20),
      ("network", .string "solana:devnet")])]

def sampleExecution : List Event :=
  [.search "qry_1" ⟨"token", ["human_1"], 1000, "question"⟩, .beginPrepare 1 "qry_1" ["human_1"] 1000,
    .storePrepared 1 "a" samplePlan 1000, .requestApproval 1 "intent_a" 2000, .grantApproval 1 "b" 2000,
    .execute 1 "intent_a" 3000]

def sampleDelivery : List Event := [.returned 1 (some sampleReceipt), .recordReceipt 1 4000]

def sampleDeletion : List Event :=
  [.openSession "session-0123456789-0123456789-01" none,
    .requestDeletion 2 "DELETE MY OBULUS ACCOUNT"]

def carefulHandle (world : World) (event : Event) : Option World :=
  if careful world event then handle samplePlatform sampleConfig world event else none

theorem careful_of_handle (world : World) (event : Event) (world' : World)
    (h : carefulHandle world event = some world') :
    CarefulStep samplePlatform sampleConfig world event world' := by
  rw [carefulHandle] at h
  split at h
  · next hcareful => exact ⟨h, hcareful⟩
  · cases h

def statusIn (world : World) (intentId : String) : Option IntentStatus :=
  (world.intent intentId).map PaymentIntent.status

theorem sample_runs : (runWith carefulHandle World.start sampleExecution).any (fun world =>
    (statusIn world "intent_a" == some .executing) &&
      (runWith carefulHandle world sampleDelivery).isSome) = true := by
  decide +kernel

theorem sample_deleted :
    (runWith (handle samplePlatform sampleConfig) World.start (sampleExecution ++ sampleDeletion)).any
      (fun world => (statusIn world "intent_a" == some .executing) && (world.task 1).isSome &&
        (handle samplePlatform sampleConfig world (.recordDeletion 2)).any fun world' =>
          (statusIn world' "intent_a" == none) && (world'.state.queries.get "qry_1" == none)) = true := by
  decide +kernel

theorem unsettled_intents_kept_sample :
    ∃ world world' intent, Trace (CarefulStep samplePlatform sampleConfig) World.start sampleExecution world ∧
      Trace (CarefulStep samplePlatform sampleConfig) world sampleDelivery world' ∧
      world.intent "intent_a" = some intent ∧ intent.status = .executing ∧
      (CompletedWithin samplePlatform sampleConfig world sampleDelivery "intent_a" intent ∨
        HeldOpen world' "intent_a" intent ∧
          ((world.state.queries.get intent.queryId).isSome = true →
            world'.state.queries.get intent.queryId = world.state.queries.get intent.queryId)) := by
  obtain ⟨world, hworld, hsample⟩ := (Option.any_eq_true _ _).mp sample_runs
  rw [Bool.and_eq_true, beq_iff_eq, statusIn, Option.map_eq_some_iff] at hsample
  obtain ⟨⟨intent, hget, hstatus⟩, hdelivered⟩ := hsample
  obtain ⟨world', hworld'⟩ := Option.isSome_iff_exists.mp hdelivered
  have hrun := runWith_trace careful_of_handle hworld
  have hlater := runWith_trace careful_of_handle hworld'
  have hunsettled : intent.unsettled = true := by
    rw [PaymentIntent.unsettled, hstatus]
    rfl
  exact ⟨world, world', intent, hrun, hlater, hget, hstatus,
    (unsettled_intents_kept hrun hlater).2.1 "intent_a" intent hget hunsettled⟩

-- the account is deleted while the command of an approved intent runs
theorem executing_intent_deleted :
    ∃ events world world' intent, Trace (Step samplePlatform sampleConfig) World.start events world ∧
      Step samplePlatform sampleConfig world (.recordDeletion 2) world' ∧
      world.intent "intent_a" = some intent ∧ intent.status = .executing ∧
      (world.task 1).isSome = true ∧ world'.intent "intent_a" = none ∧
      world'.state.queries.get "qry_1" = none := by
  obtain ⟨world, hworld, hsample⟩ := (Option.any_eq_true _ _).mp sample_deleted
  simp only [Bool.and_eq_true, beq_iff_eq, Option.any_eq_true, statusIn, Option.map_eq_some_iff,
    Option.map_eq_none_iff] at hsample
  obtain ⟨⟨⟨intent, hget, hstatus⟩, htask⟩, world', hdeleted, hgone, hquery⟩ := hsample
  exact ⟨_, world, world', intent, runWith_trace (fun _ _ _ h => h) hworld, hdeleted, hget, hstatus,
    htask, hgone, hquery⟩

end Sample

end Obulus.Local
