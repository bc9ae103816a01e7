import Obulus.Gateway.Release

namespace Obulus.Gateway

open Foundation Store

section Payment

-- the fields of an instruction that moves the exact amount, and nothing else
structure ExactTransfer (lib : Libraries) (attempt : ReconciliationAttempt) (payer : String)
    (instruction : ExactPreparedInstruction) : Prop where
  accounts : ∃ source destination, lib.associatedTokenPda attempt.asset payer = some source ∧
    lib.associatedTokenPda attempt.asset attempt.payTo = some destination ∧
    instruction.accounts = [source, attempt.asset, destination, payer]
  data : ∃ amount, instruction.data = 12 :: amount ++ [6] ∧ amount.length = 8 ∧
    toString (littleEndian amount) = attempt.amountAtomic

-- SetComputeUnitLimit and SetComputeUnitPrice, within the limits
def WithinFeeLimits (instruction : ExactPreparedInstruction) : Prop :=
  instruction.program = computeBudgetProgramAddress ∧ instruction.accounts = [] ∧
    ((∃ units, instruction.data = 2 :: units ∧ units.length = 4 ∧
        littleEndian units ≤ maxFeeSponsoredComputeUnits) ∨
      ∃ price, instruction.data = 3 :: price ∧ price.length = 8 ∧
        littleEndian price ≤ maxFeeSponsoredMicrolamportsPerUnit)

def callsOf (program : String) (instructions : List ExactPreparedInstruction) :
    List ExactPreparedInstruction :=
  instructions.filter fun instruction => instruction.program = program

structure ExactPayment (lib : Libraries) (attempt : ReconciliationAttempt) (payer : String)
    (instructions : List ExactPreparedInstruction) : Prop where
  transfer : ∃ transfer, callsOf tokenProgram instructions = [transfer] ∧
    ExactTransfer lib attempt payer transfer
  memo : ∃ memo, callsOf memoProgramAddress instructions = [memo] ∧
    paymentMemo attempt.settlementKind attempt.quoteId = some (lib.utf8 memo.data)
  rest : ∀ instruction ∈ instructions, instruction.program ≠ tokenProgram →
    instruction.program ≠ memoProgramAddress → WithinFeeLimits instruction

-- the decoders read the instructions that the network runs
structure Libraries.Reads (lib : Libraries) (instructionsOf : Bytes → List ExactPreparedInstruction) :
    Prop where
  legacy : ∀ {bytes transaction}, lib.legacyTransaction bytes = some transaction →
    transaction.instructions.map (fun (program, accounts, data) =>
      { program := program, accounts := accounts, data := data }) = instructionsOf (messageOf bytes)
  versioned : ∀ {bytes transaction instructions}, lib.versionedTransaction bytes = some transaction →
    transaction.addressTableLookups = 0 →
    transaction.compiledInstructions.mapM (resolveInstruction transaction.staticAccountKeys) =
      some instructions → instructions = instructionsOf (messageOf bytes)

variable {lib : Libraries} {instructionsOf : Bytes → List ExactPreparedInstruction}
  {attempt : ReconciliationAttempt} {payer source destination memo program : String}
  {prepared bytes : Bytes} {payment : PreparedPayment} {instruction : ExactPreparedInstruction}
  {instructions : List ExactPreparedInstruction}

theorem preparedPayment_reads (hreads : lib.Reads instructionsOf)
    (h : preparedPayment lib prepared = some payment) :
    payment.instructions = instructionsOf (messageOf prepared) := by
  rw [preparedPayment] at h
  split at h
  · next legacy hlegacy =>
    cases h
    exact hreads.legacy hlegacy
  · simp only [Option.bind_eq_bind, Option.bind_eq_some_iff, Option.guard_eq_some', exists_const,
      Option.pure_def, Option.some.injEq] at h
    obtain ⟨versioned, hversioned, hlookups, instructions, hinstructions, rfl⟩ := h
    exact hreads.versioned hversioned hlookups hinstructions

theorem head_tail_of_length {n : Nat} {tag : UInt8} (hlength : bytes.length = n + 1)
    (hhead : bytes[0]? = some tag) : bytes = tag :: bytes.drop 1 ∧ (bytes.drop 1).length = n := by
  cases bytes with
  | nil => cases hhead
  | cons first rest =>
    rw [List.getElem?_cons_zero, Option.some.injEq] at hhead
    rw [List.length_cons, Nat.add_right_cancel_iff] at hlength
    exact ⟨by rw [hhead, List.drop_one, List.tail_cons], by simpa using hlength⟩

theorem exactTransfer_of (hsource : lib.associatedTokenPda attempt.asset payer = some source)
    (hdestination : lib.associatedTokenPda attempt.asset attempt.payTo = some destination)
    (h : isExactTransfer attempt payer source destination instruction = true) :
    ExactTransfer lib attempt payer instruction := by
  simp only [isExactTransfer, decide_eq_true_eq] at h
  obtain ⟨haccounts, hlength, hhead, hdecimals, hamount⟩ := h
  obtain ⟨hdata, hrest⟩ := head_tail_of_length hlength hhead
  have hlast : (instruction.data.drop 1).drop 8 = [6] := by
    rw [List.drop_drop]
    have hnine : (9 : Nat) < instruction.data.length := by omega
    rw [List.getElem?_eq_getElem hnine, Option.some.injEq] at hdecimals
    rw [List.drop_eq_getElem_cons hnine, hdecimals, List.drop_of_length_le (by omega)]
  refine ⟨⟨source, destination, hsource, hdestination, haccounts⟩,
    subarray instruction.data 1 8, ?_, ?_, hamount⟩
  · rw [List.cons_append, subarray, ← hlast, List.take_append_drop]
    exact hdata
  · rw [subarray, List.length_take, hrest]
    rfl

theorem withinFeeLimits_of (hprogram : instruction.program = computeBudgetProgramAddress)
    (h : validFeeSponsoredComputeBudget instruction = true) : WithinFeeLimits instruction := by
  rw [validFeeSponsoredComputeBudget] at h
  split at h
  · cases h
  · next haccounts =>
    refine ⟨hprogram, not_not.mp haccounts, ?_⟩
    split at h
    · next hunits =>
      obtain ⟨hdata, hlength⟩ := head_tail_of_length hunits.1 hunits.2
      exact Or.inl ⟨_, hdata, hlength, of_decide_eq_true h⟩
    · split at h
      · next hprice =>
        obtain ⟨hdata, hlength⟩ := head_tail_of_length hprice.1 hprice.2
        exact Or.inr ⟨_, hdata, hlength, of_decide_eq_true h⟩
      · cases h

theorem only_call (h : (callsOf program instructions).length = 1) :
    ∃ call, callsOf program instructions = [call] ∧ call ∈ instructions ∧ call.program = program := by
  obtain ⟨call, hcall⟩ := List.length_eq_one_iff.mp h
  have hmem : call ∈ callsOf program instructions := hcall ▸ List.mem_singleton_self call
  obtain ⟨hlisted, hprogram⟩ := List.mem_filter.mp hmem
  exact ⟨call, hcall, hlisted, of_decide_eq_true hprogram⟩

theorem semantics_exact (hreads : lib.Reads instructionsOf)
    (h : hasExactPreparedPaymentSemantics lib attempt payer prepared = true) :
    ExactPayment lib attempt payer (instructionsOf (messageOf prepared)) := by
  simp only [hasExactPreparedPaymentSemantics, Option.isSome_iff_exists, Option.bind_eq_bind,
    Option.bind_eq_some_iff, Option.guard_eq_some', exists_const] at h
  obtain ⟨message, -, payment, hpayment, -, -, -, source, hsource, destination, hdestination, memo,
    hmemo, hall, htransfers, hmemos⟩ := h
  rw [PreparedPayment.calls] at htransfers hmemos
  rw [preparedPayment_reads hreads hpayment] at hall htransfers hmemos
  rw [List.all_eq_true] at hall
  refine ⟨?_, ?_, ?_⟩
  · obtain ⟨transfer, hcalls, hlisted, hprogram⟩ := only_call htransfers
    have hallowed := hall transfer hlisted
    rw [instructionAllowed, if_pos hprogram] at hallowed
    exact ⟨transfer, hcalls, exactTransfer_of hsource hdestination hallowed⟩
  · obtain ⟨call, hcalls, hlisted, hprogram⟩ := only_call hmemos
    have hallowed := hall call hlisted
    rw [instructionAllowed, if_neg (by rw [hprogram]; decide), if_pos hprogram,
      decide_eq_true_eq] at hallowed
    exact ⟨call, hcalls, hallowed ▸ hmemo⟩
  · intro instruction hlisted htoken hother
    have hallowed := hall instruction hlisted
    rw [instructionAllowed, if_neg htoken, if_neg hother] at hallowed
    split at hallowed
    · next hbudget => exact withinFeeLimits_of hbudget hallowed
    · cases hallowed

end Payment

section Release

variable (lib : Libraries) (finalized : ExactTransaction → Prop) (truthful : Nat)
  (attempt : ReconciliationAttempt) (response : SettleResponse)

-- One attempt is loaded, the facilitator has one answer, and the truthful view names no
-- transaction that is not finalized; all else is answered in any way, or throws.
def GateAnswers : GateRequest → GateReply → Prop
  | .loadAttempt, reply => ∀ loaded, reply = .attempt loaded → loaded = attempt
  | .settle, reply => ∀ result, reply = .response result → result = response
  | .rpc view (.getTransaction signature), reply => view = truthful → ∀ value tx,
      reply = .json value → parseExactBase64Transaction lib value = .ok (some tx) →
        finalized tx ∧ signatureOf lib tx = signature
  | _, _ => True

variable (instructionsOf : Bytes → List ExactPreparedInstruction)

-- a finalized transaction without error under this signature makes the exact payment
def PaidBy (signature : String) : Prop :=
  ∃ tx, finalized tx ∧ tx.err.isNull = true ∧ signatureOf lib tx = signature ∧
    ∃ payer, attempt.payer = some payer ∧
      ExactPayment lib attempt payer (instructionsOf (messageOf tx.bytes))

def Released (response : SettleResponse) : SettlementGateDirective → Prop
  | .skip result => result = response ∧ (result.success = true →
      PaidBy lib finalized attempt instructionsOf result.transaction)
  | .abort reason _ => reason = "settlement_reconciliation_pending"

variable {lib finalized truthful attempt response instructionsOf} {signature : String} {view : Nat}
  {request : GateRequest} {read : GateReply → Option α} {prepared : Bytes}
  {dependencies : SettlementGateDependencies} {expectedNetwork : String}
  {good : Option ExactChainScanResult → Prop}

theorem await_ends : (await request read).Ends (GateAnswers lib finalized truthful attempt response)
    (fun r => ∀ a, r = some a → ∃ reply,
      GateAnswers lib finalized truthful attempt response request reply ∧ read reply = some a) := by
  intro reply hreply
  dsimp only
  cases hread : read reply with
  | none =>
    intro a ha
    cases ha
  | some value =>
    intro a ha
    cases ha
    exact ⟨reply, hreply, hread⟩

-- what a view may say when it calls a signature settled
def ViewSays (lib : Libraries) (finalized : ExactTransaction → Prop) (truthful : Nat)
    (attempt : ReconciliationAttempt) (instructionsOf : Bytes → List ExactPreparedInstruction)
    (signature : String) (view : Nat) (result : ExactChainScanResult) : Prop :=
  view = truthful → result = .settled signature → PaidBy lib finalized attempt instructionsOf signature

theorem viewTransaction_ends : (viewTransaction lib view signature).Ends
    (GateAnswers lib finalized truthful attempt response)
    (fun r => view = truthful → ∀ tx, r = some (some tx) →
      finalized tx ∧ signatureOf lib tx = signature) := by
  refine (await_ends).bind ?_ ?_
  · intro h hview tx htx
    cases htx
  · intro value hvalue
    obtain ⟨reply, hreply, hread⟩ := hvalue value rfl
    have hjson : reply = .json value := by
      cases reply with
      | json other => exact congrArg GateReply.json (Option.some.inj hread)
      | _ => cases hread
    cases hparse : parseExactBase64Transaction lib value with
    | error message =>
      intro hview tx htx
      cases htx
    | ok transaction =>
      intro hview tx htx
      cases htx
      exact hreply hview value tx hjson hparse

theorem verifyPrepared_ends (hreads : lib.Reads instructionsOf) {payer : String}
    (hpayer : attempt.payer = some payer) (henvelope : hasValidTransactionEnvelope prepared = true)
    (hexact : hasExactPreparedPaymentSemantics lib attempt payer prepared = true) :
    (verifyPrepared lib prepared signature view).Ends
      (GateAnswers lib finalized truthful attempt response)
      (fun r => ∀ result, r = some result →
        ViewSays lib finalized truthful attempt instructionsOf signature view result) := by
  refine (viewTransaction_ends).bind ?_ ?_
  · intro _ result hresult
    cases hresult
  · intro transaction htransaction
    cases transaction with
    | none =>
      rintro result hresult - hsettled
      cases hresult
      cases hsettled
    | some tx =>
      dsimp only
      split
      · next hequal =>
        rintro result hresult hview hsettled
        cases hresult
        obtain ⟨hfinalized, hsignature⟩ := htransaction hview tx rfl
        have hnull : tx.err.isNull = true := by
          rw [outcome] at hsettled
          split at hsettled
          · next hnull => exact hnull
          · cases hsettled
        rw [← hsignature] at hequal
        have hmessage := message_of_fills ((fills_iff_equal henvelope).mpr hequal)
        exact ⟨tx, hfinalized, hnull, hsignature, payer, hpayer, hmessage ▸ semantics_exact hreads hexact⟩
      · rintro result hresult - hsettled
        cases hresult
        cases hsettled

theorem payer_of_evidence {exact : ExactEvidence} (h : attempt.evidence? = some exact) :
    attempt.payer = some exact.payer := by
  simp only [ReconciliationAttempt.evidence?, Option.bind_eq_bind, Option.bind_eq_some_iff,
    Option.filter_eq_some_iff, Option.pure_def, Option.some.injEq] at h
  obtain ⟨payer, ⟨hpayer, -⟩, _, -, _, -, rfl⟩ := h
  exact hpayer

theorem verifyEvidence_ends (hreads : lib.Reads instructionsOf) :
    (verifyEvidence lib attempt signature view).Ends
      (GateAnswers lib finalized truthful attempt response)
      (fun r => ∀ result, r = some result →
        ViewSays lib finalized truthful attempt instructionsOf signature view result) := by
  have hquiet : ∀ result, some ExactChainScanResult.inconclusive = some result →
      ViewSays lib finalized truthful attempt instructionsOf signature view result := by
    rintro result hresult - hsettled
    cases hresult
    cases hsettled
  rw [verifyEvidence]
  split
  · exact hquiet
  · next exact hexact =>
    split
    · exact fun result hresult => by cases hresult
    · dsimp only
      split
      · exact hquiet
      · next hchecked =>
        rw [not_or, Bool.not_eq_false, preparedIsVerifiable, Bool.and_eq_true, Bool.and_eq_true] at hchecked
        obtain ⟨-, ⟨henvelope, -⟩, hsemantics⟩ := hchecked
        exact verifyPrepared_ends hreads (payer_of_evidence hexact) henvelope hsemantics

theorem tryVerify_ends (hreads : lib.Reads instructionsOf) :
    (tryVerify lib attempt signature view expectedNetwork).Ends
      (GateAnswers lib finalized truthful attempt response)
      (fun r => ∀ result, r = some result →
        ViewSays lib finalized truthful attempt instructionsOf signature view result) := by
  refine (await_ends).bind ?_ ?_
  · intro _ result hresult
    cases hresult
  · intro now _
    cases validateAttempt lib attempt expectedNetwork 1 now with
    | none => exact fun result hresult => by cases hresult
    | some _ => exact verifyEvidence_ends hreads

theorem verify_ends (hreads : lib.Reads instructionsOf) :
    (verifyExactFinalizedSettlementSignature lib attempt signature view expectedNetwork).Ends
      (GateAnswers lib finalized truthful attempt response)
      (fun r => ∃ result, r = some result ∧
        ViewSays lib finalized truthful attempt instructionsOf signature view result) := by
  refine (tryVerify_ends hreads).orElse ?_ ?_
  · intro _
    refine ⟨_, rfl, ?_⟩
    rintro - hsettled
    cases hsettled
  · intro result h
    exact ⟨result, rfl, h result rfl⟩

theorem exactSettlementSignature_eq {scans : List ExactChainScanResult}
    (h : exactSettlementSignature scans = some signature) :
    ∀ scan ∈ scans, scan = .settled signature := by
  rw [exactSettlementSignature] at h
  split at h
  · cases h
  · split at h
    · cases h
    · next found _ =>
      simp only [Option.ite_none_right_eq_some, Option.some.injEq] at h
      obtain ⟨⟨-, hall⟩, rfl⟩ := h
      intro scan hscan
      simpa using List.all_eq_true.mp hall scan hscan

theorem scanViews_ends (hreads : lib.Reads instructionsOf) (views : List Nat) :
    (scanViews lib attempt signature expectedNetwork views).Ends
      (GateAnswers lib finalized truthful attempt response)
      (fun r => ∃ scans, r = some scans ∧ (truthful ∈ views →
        (∀ scan ∈ scans, scan = .settled signature) →
        PaidBy lib finalized attempt instructionsOf signature)) := by
  induction views with
  | nil => exact ⟨[], rfl, fun hmem => absurd hmem List.not_mem_nil⟩
  | cons view views ih =>
    refine (verify_ends hreads).bind ?_ ?_
    · rintro ⟨_, hresult, -⟩
      cases hresult
    · rintro scan ⟨_, hscan, hsays⟩
      cases hscan
      refine ih.bind ?_ ?_
      · rintro ⟨_, hscans, -⟩
        cases hscans
      · rintro scans ⟨_, hscans, hrest⟩
        cases hscans
        refine ⟨scan :: scans, rfl, ?_⟩
        intro hmem hall
        rw [List.forall_mem_cons] at hall
        rcases List.mem_cons.mp hmem with hview | hmem
        · exact hsays hview.symm hall.1
        · exact hrest hmem hall.2

theorem pollViews_ends (hreads : lib.Reads instructionsOf) (htruthful : truthful < dependencies.views)
    (deadline pollIntervalMs : Int) (polls : Nat) :
    (pollViews lib dependencies attempt response deadline pollIntervalMs polls).Ends
      (GateAnswers lib finalized truthful attempt response)
      (fun r => ∀ directive, r = some directive →
        Released lib finalized attempt instructionsOf response directive) := by
  induction polls with
  | zero =>
    intro directive hdirective
    cases hdirective
    rfl
  | succ polls ih =>
    refine (scanViews_ends hreads (List.range dependencies.views)).bind ?_ ?_
    · rintro ⟨_, hscans, -⟩
      cases hscans
    · rintro scans ⟨_, hscans, hpaid⟩
      cases hscans
      split
      · next hsettled =>
        intro directive hdirective
        cases hdirective
        exact ⟨rfl, fun _ => hpaid (List.mem_range.mpr htruthful) (exactSettlementSignature_eq hsettled)⟩
      · refine (await_ends).bind ?_ ?_
        · intro _ directive hdirective
          cases hdirective
        · intro now _
          split
          · intro directive hdirective
            cases hdirective
            rfl
          · refine (await_ends).bind ?_ ?_
            · intro _ directive hdirective
              cases hdirective
            · intro later _
              refine (await_ends).bind ?_ ?_
              · intro _ directive hdirective
                cases hdirective
              · exact fun _ _ => ih

theorem releaseSettled_ends (hreads : lib.Reads instructionsOf)
    (htruthful : truthful < dependencies.views) (timeoutMs pollIntervalMs : Int) :
    (releaseSettled lib dependencies attempt response timeoutMs pollIntervalMs).Ends
      (GateAnswers lib finalized truthful attempt response)
      (fun r => ∀ directive, r = some directive →
        Released lib finalized attempt instructionsOf response directive) := by
  rw [releaseSettled]
  split
  · next hfailed =>
    intro directive hdirective
    cases hdirective
    exact ⟨rfl, fun hsuccess => absurd (hfailed.symm.trans hsuccess) (by decide)⟩
  · split
    · intro directive hdirective
      cases hdirective
      rfl
    · refine (await_ends).bind ?_ ?_
      · intro _ directive hdirective
        cases hdirective
      · exact fun now _ => pollViews_ends hreads htruthful _ _ _

theorem trySettle_ends (hreads : lib.Reads instructionsOf) (htruthful : truthful < dependencies.views) :
    (trySettle lib dependencies).Ends (GateAnswers lib finalized truthful attempt response)
      (fun r => ∀ directive, r = some directive →
        Released lib finalized attempt instructionsOf response directive) := by
  rw [trySettle]
  split
  · intro directive hdirective
    cases hdirective
    rfl
  · refine (await_ends).bind ?_ ?_
    · intro _ directive hdirective
      cases hdirective
    · intro loaded hloaded
      obtain ⟨reply, hreply, hread⟩ := hloaded loaded rfl
      have hattempt : loaded = attempt := by
        cases reply with
        | attempt other =>
          cases hread
          exact hreply loaded rfl
        | _ => cases hread
      subst hattempt
      split
      · intro directive hdirective
        cases hdirective
        rfl
      · refine (await_ends).bind ?_ ?_
        · intro _ directive hdirective
          cases hdirective
        · intro result hresult
          obtain ⟨reply, hreply, hread⟩ := hresult result rfl
          have hresponse : result = response := by
            cases reply with
            | response other =>
              cases hread
              exact hreply result rfl
            | _ => cases hread
          subst hresponse
          exact releaseSettled_ends hreads htruthful _ _

theorem settle_ends (hreads : lib.Reads instructionsOf) (htruthful : truthful < dependencies.views) :
    (settleWithIndependentFinality lib dependencies).Ends
      (GateAnswers lib finalized truthful attempt response)
      (fun r => ∃ directive, r = some directive ∧
        Released lib finalized attempt instructionsOf response directive) := by
  refine (trySettle_ends hreads htruthful).orElse ?_ ?_
  · exact fun _ => ⟨_, rfl, rfl⟩
  · exact fun directive h => ⟨directive, rfl, h directive rfl⟩

end Release

section Effort

variable {lib : Libraries} {attempt : ReconciliationAttempt} {response : SettleResponse}
  {signature expectedNetwork : String} {view n k : Nat} {request : GateRequest}
  {read : GateReply → Option α} {cost : GateRequest → Nat} {dependencies : SettlementGateDependencies}

theorem await_atMost (h : cost request ≤ n) : (await request read).AtMost cost n := by
  refine ⟨h, ?_⟩
  intro reply
  dsimp only
  cases read reply with
  | none => trivial
  | some a => trivial

theorem verifyPrepared_atMost {prepared : Bytes}
    (hcost : ∀ request, request ≠ .settle → cost request ≤ k) :
    (verifyPrepared lib prepared signature view).AtMost cost k := by
  have hread : (viewTransaction lib view signature).AtMost cost k := by
    refine (await_atMost (hcost _ (by simp))).bind (m := 0) ?_
    intro value
    cases parseExactBase64Transaction lib value with
    | ok transaction => trivial
    | error message => trivial
  refine hread.bind (m := 0) ?_
  intro transaction
  cases transaction with
  | none => trivial
  | some tx =>
    dsimp only
    split <;> trivial

theorem verify_atMost (hcost : ∀ request, request ≠ .settle → cost request ≤ k) :
    (verifyExactFinalizedSettlementSignature lib attempt signature view expectedNetwork).AtMost cost
      (k + k) := by
  refine Dialogue.AtMost.orElse ((await_atMost (hcost _ (by simp))).bind ?_)
  intro now
  cases validateAttempt lib attempt expectedNetwork 1 now with
  | none => trivial
  | some _ =>
    dsimp only
    rw [verifyEvidence]
    split
    · trivial
    · split
      · trivial
      · dsimp only
        split
        · trivial
        · exact verifyPrepared_atMost hcost

theorem scanViews_atMost (hcost : ∀ request, request ≠ .settle → cost request ≤ k) (views : List Nat) :
    (scanViews lib attempt signature expectedNetwork views).AtMost cost (views.length * (k + k)) := by
  induction views with
  | nil => trivial
  | cons view views ih =>
    rw [List.length_cons, Nat.succ_mul, Nat.add_comm]
    refine (verify_atMost hcost).bind ?_
    intro scan
    exact ih.bind (m := 0) fun _ => trivial

theorem pollViews_atMost (hcost : ∀ request, request ≠ .settle → cost request ≤ k)
    (deadline pollIntervalMs : Int) (polls : Nat) :
    (pollViews lib dependencies attempt response deadline pollIntervalMs polls).AtMost cost
      (polls * (dependencies.views * (k + k) + (k + (k + k)))) := by
  induction polls with
  | zero => trivial
  | succ polls ih =>
    have hbound : (polls + 1) * (dependencies.views * (k + k) + (k + (k + k))) =
        dependencies.views * (k + k) + (k + (k + (k +
          polls * (dependencies.views * (k + k) + (k + (k + k)))))) := by
      rw [Nat.succ_mul]
      omega
    have hscans := @scanViews_atMost lib attempt response.transaction dependencies.expectedNetwork k cost
      hcost (List.range dependencies.views)
    rw [List.length_range] at hscans
    rw [hbound]
    refine hscans.bind ?_
    intro scans
    split
    · trivial
    · refine (await_atMost (hcost _ (by simp))).bind ?_
      intro now
      split
      · trivial
      · refine (await_atMost (hcost _ (by simp))).bind ?_
        intro later
        exact (await_atMost (hcost _ (by simp))).bind fun _ => ih

theorem maxPolls_le {timeoutMs pollIntervalMs : Int} (h : dependencies.configured = some (timeoutMs, pollIntervalMs)) :
    maxPolls timeoutMs pollIntervalMs ≤ 901 := by
  simp only [SettlementGateDependencies.configured, Option.bind_eq_bind, Option.bind_eq_some_iff,
    Option.guard_eq_some', exists_const, Option.pure_def, Option.some.injEq, Prod.mk.injEq] at h
  obtain ⟨-, timeout, -, htimeout, poll, -, hpoll, rfl, rfl⟩ := h
  have hceil : (timeout + poll - 1) / poll ≤ 900 := by
    rw [← Int.lt_add_one_iff, Int.ediv_lt_iff_lt_mul (by omega)]
    omega
  rw [maxPolls]
  omega

theorem settle_atMost (hcost : ∀ request, request ≠ .settle → cost request ≤ k) :
    (settleWithIndependentFinality lib dependencies).AtMost cost
      (cost .settle + (2 * k + 901 * (dependencies.views * (k + k) + (k + (k + k))))) := by
  have hbound : cost .settle + (2 * k + 901 * (dependencies.views * (k + k) + (k + (k + k)))) =
      k + (cost .settle + (k + 901 * (dependencies.views * (k + k) + (k + (k + k))))) := by
    omega
  refine Dialogue.AtMost.orElse ?_
  rw [hbound, trySettle]
  split
  · trivial
  · next timeoutMs pollIntervalMs hconfigured =>
    refine (await_atMost (hcost _ (by simp))).bind ?_
    intro attempt
    split
    · trivial
    · refine (await_atMost le_rfl).bind ?_
      intro result
      rw [releaseSettled]
      split
      · trivial
      · split
        · trivial
        · refine (await_atMost (hcost _ (by simp))).bind ?_
          intro now
          refine (pollViews_atMost hcost _ _ _).mono ?_
          exact Nat.mul_le_mul_right _ (maxPolls_le hconfigured)

end Effort

variable {lib : Libraries} {instructionsOf : Bytes → List ExactPreparedInstruction}
  {dependencies : SettlementGateDependencies} {truthful : Nat}

theorem released_for_exact_payment (hreads : lib.Reads instructionsOf)
    (htruthful : truthful < dependencies.views) (finalized : ExactTransaction → Prop)
    (attempt : ReconciliationAttempt) (response : SettleResponse) :
    (settleWithIndependentFinality lib dependencies).AtMost
      (fun request => if request = .settle then 1 else 0) 1 ∧
    (settleWithIndependentFinality lib dependencies).AtMost (fun _ => 1)
      (3 + 901 * (2 * dependencies.views + 3)) ∧
    (settleWithIndependentFinality lib dependencies).Ends
      (GateAnswers lib finalized truthful attempt response)
      (fun r => ∃ directive, r = some directive ∧
        Released lib finalized attempt instructionsOf response directive) := by
  refine ⟨?_, ?_, settle_ends hreads htruthful⟩
  · refine (settle_atMost (k := 0) ?_).mono (by simp)
    intro request hrequest
    rw [if_neg hrequest]
  · refine (settle_atMost (k := 1) (fun _ _ => le_rfl)).mono ?_
    omega

section Honest

variable {attempt : ReconciliationAttempt} {response : SettleResponse} {exact : ExactEvidence}
  {signature expectedNetwork : String} {view : Nat} {reply : GateRequest → GateReply} {now : Int}
  {tx : ExactTransaction} {decoded : Bytes}

theorem await_play {request : GateRequest} {read : GateReply → Option α} :
    (await request read).play reply = read (reply request) := by
  rw [await, Dialogue.play]
  cases read (reply request) with
  | none => rfl
  | some a => rfl

theorem viewTransaction_play {value : Json}
    (hreply : reply (.rpc view (.getTransaction signature)) = .json value)
    (hparse : parseExactBase64Transaction lib value = .ok (some tx)) :
    (viewTransaction lib view signature).play reply = some (some tx) := by
  rw [viewTransaction, Dialogue.bind_def, Dialogue.play_bind, await_play, hreply]
  dsimp only [GateReply.json?, Option.bind_some]
  rw [hparse]
  rfl

theorem verify_play (hclock : reply .dateNow = .time now)
    (hvalid : validateAttempt lib attempt expectedNetwork 1 now = some ())
    (hexact : attempt.evidence? = some exact)
    (hdecoded : lib.encoding.base58Decode signature = some decoded) (hlength : decoded.length = 64)
    (hchecked : preparedIsVerifiable lib attempt (lib.bufferFromBase64 exact.signedTransactionBase64)
      exact.payer exact.recentBlockhash = true)
    (hview : (viewTransaction lib view signature).play reply = some (some tx))
    (hequal : equalPreparedTransaction lib (lib.bufferFromBase64 exact.signedTransactionBase64) tx.bytes
      signature = true) (hnull : tx.err.isNull = true) :
    (verifyExactFinalizedSettlementSignature lib attempt signature view expectedNetwork).play reply =
      some (.settled signature) := by
  have hprepared : (verifyPrepared lib (lib.bufferFromBase64 exact.signedTransactionBase64) signature
      view).play reply = some (.settled signature) := by
    rw [verifyPrepared, Dialogue.bind_def, Dialogue.play_bind, hview, Option.bind_some]
    dsimp only
    rw [if_pos hequal, outcome, if_pos hnull]
    rfl
  have hevidence : (verifyEvidence lib attempt signature view).play reply = some (.settled signature) := by
    rw [verifyEvidence, hexact]
    dsimp only
    rw [hdecoded]
    dsimp only
    rw [hchecked, if_neg (by simp [hlength])]
    exact hprepared
  rw [verifyExactFinalizedSettlementSignature, Dialogue.play_orElse, tryVerify, Dialogue.bind_def,
    Dialogue.play_bind, await_play, hclock]
  dsimp only [GateReply.time?, Option.bind_some]
  rw [hvalid]
  dsimp only
  rw [hevidence, Option.getD_some]

theorem scanViews_play (views : List Nat) (hviews : ∀ view ∈ views,
      (verifyExactFinalizedSettlementSignature lib attempt signature view expectedNetwork).play reply =
        some (.settled signature)) :
    (scanViews lib attempt signature expectedNetwork views).play reply =
      some (views.map fun _ => .settled signature) := by
  induction views with
  | nil => rfl
  | cons view views ih =>
    rw [List.forall_mem_cons] at hviews
    rw [scanViews, Dialogue.bind_def, Dialogue.play_bind, hviews.1, Option.bind_some, Dialogue.bind_def,
      Dialogue.play_bind, ih hviews.2]
    rfl

theorem settled_everywhere {views : List Nat} (htwo : 2 ≤ views.length) (hsignature : signature ≠ "") :
    exactSettlementSignature (views.map fun _ => .settled signature) = some signature := by
  cases views with
  | nil => simp at htwo
  | cons view views =>
    rw [exactSettlementSignature, if_neg (by rw [List.length_map]; omega)]
    simp [ExactChainScanResult.signature?, hsignature]

-- a payment that every view confirms at once is released
theorem settle_play {timeoutMs pollIntervalMs : Int}
    (hconfigured : dependencies.configured = some (timeoutMs, pollIntervalMs))
    (hload : reply .loadAttempt = .attempt attempt)
    (hdrift : dependencies.requirements.drifted attempt = false)
    (hsettle : reply .settle = .response response) (hsuccess : response.success = true)
    (hmatch : response.mismatches attempt dependencies.expectedNetwork = false)
    (hclock : reply .nowMs = .time now)
    (hviews : ∀ view < dependencies.views, (verifyExactFinalizedSettlementSignature lib attempt
      response.transaction view dependencies.expectedNetwork).play reply =
        some (.settled response.transaction)) :
    (settleWithIndependentFinality lib dependencies).play reply = some (.skip response) := by
  have htwo : 2 ≤ dependencies.views := by
    simp only [SettlementGateDependencies.configured, Option.bind_eq_bind, Option.bind_eq_some_iff,
      Option.guard_eq_some', exists_const] at hconfigured
    exact hconfigured.1
  have hnamed : response.transaction ≠ "" := by
    intro hempty
    simp [SettleResponse.mismatches, hempty] at hmatch
  have hscans := scanViews_play (List.range dependencies.views) fun view hview =>
    hviews view (List.mem_range.mp hview)
  have hagreed : exactSettlementSignature ((List.range dependencies.views).map fun _ =>
      .settled response.transaction) = some response.transaction :=
    settled_everywhere (by rwa [List.length_range]) hnamed
  rw [settleWithIndependentFinality, Dialogue.play_orElse, trySettle, hconfigured]
  dsimp only
  rw [Dialogue.bind_def, Dialogue.play_bind, await_play, hload]
  dsimp only [GateReply.attempt?, Option.bind_some]
  rw [hdrift, if_neg (by decide), Dialogue.bind_def, Dialogue.play_bind, await_play, hsettle]
  dsimp only [GateReply.response?, Option.bind_some]
  rw [releaseSettled, hsuccess, hmatch, if_neg (by decide), if_neg (by decide), Dialogue.bind_def,
    Dialogue.play_bind, await_play, hclock]
  dsimp only [GateReply.time?, Option.bind_some]
  rw [maxPolls, pollViews, Dialogue.bind_def, Dialogue.play_bind, hscans, Option.bind_some,
    if_pos hagreed]
  rfl

end Honest

section Sample

def paidInstructions (message : Bytes) : List ExactPreparedInstruction :=
  if message = paidMessage then
    [⟨tokenProgram, [paidSource, paidAsset, paidDestination, paidPayer], paidTransfer⟩,
      ⟨memoProgramAddress, [], paidMemo⟩]
  else []

theorem paidLibraries_reads : paidLibraries.Reads paidInstructions where
  legacy h := by
    obtain ⟨hmessage, rfl⟩ := paidLegacy_some h
    rw [paidInstructions, if_pos hmessage]
    rfl
  versioned h := nomatch h

def paidDependencies : SettlementGateDependencies where
  requirements := ⟨"solana:devnet", paidSeller, paidAsset, "14815"⟩
  views := 2
  expectedNetwork := "solana:devnet"
  timeoutMs := .integer 20000
  pollIntervalMs := .integer 500

def paidResponse : SettleResponse where
  success := true
  transaction := paidSignature
  network := "solana:devnet"
  payer := some paidPayer
  amount := none

def settledEnvelope (encoded : String) : Json :=
  .object [("transaction", .array [.string encoded, .string "base64"]), ("meta", .object [("err", .null)])]

-- both views answer, and the first one is truthful
def paidReply : GateRequest → GateReply
  | .loadAttempt => .attempt paidAttempt
  | .settle => .response paidResponse
  | .rpc _ (.getTransaction signature) =>
    .json (if signature = paidSignature then settledEnvelope (encodeBase64 paidTransaction) else .null)
  | .rpc _ _ => .threw
  | .dateNow => .time 1760000001000
  | .nowMs => .time 1760000001000
  | .sleep _ => .slept

theorem settledEnvelope_parsed {encoded : String}
    (henvelope : hasValidTransactionEnvelope (lib.bufferFromBase64 encoded) = true) :
    parseExactBase64Transaction lib (settledEnvelope encoded) =
      .ok (some ⟨lib.bufferFromBase64 encoded, .null⟩) := by
  simp [parseExactBase64Transaction, settledEnvelope, Json.lookup, Json.field, henvelope, reject, ok_bind,
    pure, Except.pure]

theorem paid_verifiable : hasValidTransactionEnvelope paidTransaction = true ∧
    signatureOf paidLibraries paidFinalized = paidSignature ∧
    paidLibraries.encoding.base58Decode paidSignature = some paidFeeBytes ∧
    validateAttempt paidLibraries paidAttempt "solana:devnet" 1 1760000001000 = some () ∧
    paidResponse.mismatches paidAttempt "solana:devnet" = false := by
  decide +kernel

theorem paid_parsed : parseExactBase64Transaction paidLibraries
    (settledEnvelope (encodeBase64 paidTransaction)) = .ok (some paidFinalized) := by
  rw [settledEnvelope_parsed (by rw [paid_buffer]; exact paid_verifiable.1), paid_buffer]
  rfl

theorem paidReply_answers (request : GateRequest) :
    GateAnswers paidLibraries (fun tx => tx = paidFinalized) 0 paidAttempt paidResponse request
      (paidReply request) := by
  cases request with
  | loadAttempt => exact fun loaded h => (GateReply.attempt.inj h).symm
  | settle => exact fun result h => (GateReply.response.inj h).symm
  | rpc view call =>
    cases call with
    | getTransaction signature =>
      intro _ value tx hreply hparse
      have hvalue := (GateReply.json.inj hreply).symm
      split at hvalue
      · next hsignature =>
        rw [hvalue, paid_parsed, Except.ok.injEq, Option.some.injEq] at hparse
        subst hparse hsignature
        exact ⟨rfl, paid_verifiable.2.1⟩
      · rw [hvalue] at hparse
        cases hparse
    | _ => trivial
  | _ => trivial

theorem paid_verified (view : Nat) : (verifyExactFinalizedSettlementSignature paidLibraries paidAttempt
    paidSignature view "solana:devnet").play paidReply = some (.settled paidSignature) := by
  have hclock : paidReply .dateNow = .time 1760000001000 := rfl
  obtain ⟨-, hsigned, hdecoded, hvalid, -⟩ := paid_verifiable
  have hview : (viewTransaction paidLibraries view paidSignature).play paidReply =
      some (some paidFinalized) := viewTransaction_play rfl paid_parsed
  refine verify_play hclock hvalid (paid_evidence "14815") hdecoded (by decide) ?_ hview ?_ rfl
  · rw [paidEvidence, paid_buffer, preparedIsVerifiable, paid_envelope, paid_prepared]
    decide +kernel
  · rw [paidEvidence, paid_buffer, ← hsigned]
    exact paid_equal

theorem paid_released : (settleWithIndependentFinality paidLibraries paidDependencies).play paidReply =
    some (.skip paidResponse) := by
  have hconfigured : paidDependencies.configured = some (20000, 500) := rfl
  have hload : paidReply .loadAttempt = .attempt paidAttempt := rfl
  have hclock : paidReply .nowMs = .time 1760000001000 := rfl
  refine settle_play hconfigured hload rfl rfl rfl paid_verifiable.2.2.2.2 hclock ?_
  exact fun view _ => paid_verified view

theorem released_for_exact_payment_sample : PaidBy paidLibraries (fun tx => tx = paidFinalized)
    paidAttempt paidInstructions paidSignature := by
  obtain ⟨-, -, hends⟩ := released_for_exact_payment paidLibraries_reads
    (show 0 < paidDependencies.views by decide) (fun tx => tx = paidFinalized) paidAttempt paidResponse
  obtain ⟨directive, hdirective, hreleased⟩ := hends.play paidReply_answers
  rw [paid_released, Option.some.injEq] at hdirective
  subst hdirective
  exact hreleased.2 rfl

end Sample

end Obulus.Gateway
