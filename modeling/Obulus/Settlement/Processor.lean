import Obulus.Settlement.Runtime

namespace Obulus.Settlement

open Foundation

def custom {α : Type} (x : Except SettlementError α) : Except ProgramError α :=
  match x with
  | .ok a => .ok a
  | .error e => .error (.custom e)

@[simp] theorem custom_eq_ok {α : Type} {x : Except SettlementError α} {a : α} :
    custom x = .ok a ↔ x = .ok a := by
  cases x <;> simp [custom]

variable (rt : Runtime)

def deriveAddress (payer : Pubkey) (invoiceHash : Bytes32) : Pubkey × UInt8 :=
  rt.findProgramAddress [invoiceSeed, payer.toList, invoiceHash.toList] rt.programId

def signerSeeds (payer : Pubkey) (invoiceHash : Bytes32) (bump : UInt8) : List (List UInt8) :=
  [invoiceSeed, payer.toList, invoiceHash.toList, [bump]]

def requireSigner (account : AccountMeta) : Except ProgramError Unit :=
  reject (account.isSigner = false) (.custom .unauthorized)

def loadInvoice (bank : Bank) (account : AccountMeta) : Except ProgramError InvoiceAccount := do
  reject ((bank account.key).owner ≠ rt.programId) (.custom .invalidAccount)
  let state ← orReject (InvoiceAccount.codec.tryFromSlice (bank account.key).data)
    (.custom .invalidAccount)
  reject (state.magic ≠ invoiceMagic ∨ state.version ≠ invoiceVersion) (.custom .invalidAccount)
  return state

def saveInvoice (bank : Bank) (account : AccountMeta) (state : InvoiceAccount) :
    Except ProgramError Bank :=
  let bytes := InvoiceAccount.codec.encode state
  let info := bank account.key
  if bytes.length ≤ info.data.length then
    .ok (Function.update bank account.key
      { info with data := bytes ++ info.data.drop bytes.length })
  else
    .error (.custom .accountTooSmall)

def requireInvoicePda (invoice : AccountMeta) (state : InvoiceAccount) :
    Except ProgramError Unit :=
  let derived := deriveAddress rt state.payer state.invoiceHash
  reject (invoice.key ≠ derived.1 ∨ state.bump ≠ derived.2) (.custom .invalidInvoicePda)

def unpackToken (bank : Bank) (account : AccountMeta) (tokenProgram : Pubkey) :
    Except ProgramError TokenAccount := do
  reject ((bank account.key).owner ≠ tokenProgram) (.custom .invalidTokenAccount)
  orReject (rt.unpackToken (bank account.key).data) (.custom .invalidTokenAccount)

def unpackMint (bank : Bank) (account : AccountMeta) (tokenProgram : Pubkey) :
    Except ProgramError Mint := do
  reject ((bank account.key).owner ≠ tokenProgram) (.custom .invalidTokenAccount)
  orReject (rt.unpackMint (bank account.key).data) (.custom .invalidTokenAccount)

def checkRecipient (bank : Bank) (mint tokenProgram : Pubkey) (item : InvoiceLineItem)
    (recipient : AccountMeta) : Except ProgramError Unit := do
  reject (recipient.key ≠ item.recipientTokenAccount) (.custom .invalidTokenAccount)
  let recipientState ← unpackToken rt bank recipient tokenProgram
  reject (recipientState.mint ≠ mint) (.custom .invalidTokenAccount)

def checkRecipients (bank : Bank) (mint tokenProgram : Pubkey) :
    List (InvoiceLineItem × AccountMeta) → Except ProgramError Unit
  | [] => .ok ()
  | (item, recipient) :: rest => do
    checkRecipient rt bank mint tokenProgram item recipient
    checkRecipients bank mint tokenProgram rest

def createdInvoice (args : CreateInvoiceArgs) (payer mint escrowToken refundToken : Pubkey)
    (bump : UInt8) (now : Int64) : InvoiceAccount where
  magic := invoiceMagic
  version := invoiceVersion
  bump := bump
  status := .funded
  payer := payer
  authorization := args.authorization
  disputeResolver := args.disputeResolver
  mint := mint
  escrowTokenAccount := escrowToken
  refundTokenAccount := refundToken
  invoiceHash := args.invoiceHash
  queryHash := args.queryHash
  bundleRoot := args.bundleRoot
  deliveryRoot := Vector.replicate 32 0
  totalAmount := args.totalAmount
  platformFee := args.platformFee
  expiresAt := args.expiresAt
  disputeWindowSeconds := args.disputeWindowSeconds
  createdAt := now
  deliveredAt := 0
  settledAt := 0
  lineItems := args.lineItems

def payRent (bank : Bank) (payer invoice systemProgram : AccountMeta) (rentDeficit : UInt64) :
    Except ProgramError Bank :=
  if rentDeficit > 0 then
    rt.invoke bank [payer, invoice, systemProgram] []
      (.systemTransfer payer.key invoice.key rentDeficit)
  else
    .ok bank

def createAndFund (bank : Bank) (now : Int64) (accounts : List AccountMeta)
    (args : CreateInvoiceArgs) : Except ProgramError Bank :=
  match accounts with
  | payer :: invoice :: payerToken :: escrowToken :: refundToken :: mint :: tokenProgram ::
      systemProgram :: recipientAccounts => do
    requireSigner payer
    reject (tokenProgram.key ≠ rt.splTokenId ∨ systemProgram.key ≠ rt.systemProgramId)
      (.custom .invalidAccount)
    custom (validateArgs args now)
    let derived := deriveAddress rt payer.key args.invoiceHash
    reject (invoice.key ≠ derived.1 ∨ (bank invoice.key).data ≠ [] ∨
      (bank invoice.key).owner ≠ rt.systemProgramId) (.custom .invalidInvoicePda)
    let mintState ← unpackMint rt bank mint tokenProgram.key
    let payerTokenState ← unpackToken rt bank payerToken tokenProgram.key
    let escrowTokenState ← unpackToken rt bank escrowToken tokenProgram.key
    let refundTokenState ← unpackToken rt bank refundToken tokenProgram.key
    reject (payerTokenState.owner ≠ payer.key ∨ payerTokenState.mint ≠ mint.key ∨
      escrowTokenState.owner ≠ invoice.key ∨ escrowTokenState.mint ≠ mint.key ∨
      refundTokenState.owner ≠ payer.key ∨ refundTokenState.mint ≠ mint.key)
      (.custom .invalidTokenAccount)
    reject (recipientAccounts.length ≠ args.lineItems.toList.length) (.custom .invalidAccount)
    checkRecipients rt bank mint.key tokenProgram.key
      (args.lineItems.toList.zip recipientAccounts)
    let state := createdInvoice args payer.key mint.key escrowToken.key refundToken.key
      derived.2 now
    let serialized := InvoiceAccount.codec.encode state
    let seeds := signerSeeds payer.key state.invoiceHash derived.2
    let rentDeficit := UInt64.saturatingSub (rt.minimumBalance serialized.length)
      (bank invoice.key).lamports
    let bank ← payRent rt bank payer invoice systemProgram rentDeficit
    let bank ← rt.invoke bank [invoice, systemProgram] seeds
      (.systemAllocate invoice.key serialized.length)
    let bank ← rt.invoke bank [invoice, systemProgram] seeds
      (.systemAssign invoice.key rt.programId)
    let bank ← rt.invoke bank [payerToken, mint, escrowToken, payer, tokenProgram] []
      (.transferChecked payerToken.key mint.key escrowToken.key payer.key state.totalAmount
        mintState.decimals)
    saveInvoice bank invoice state
  | _ => .error .notEnoughAccountKeys

def acknowledgeDelivery (bank : Bank) (now : Int64) (accounts : List AccountMeta)
    (deliveryRoot : Bytes32) : Except ProgramError Bank :=
  match accounts with
  | authorization :: invoice :: _ => do
    requireSigner authorization
    reject (isZero deliveryRoot) (.custom .zeroCommitment)
    let state ← loadInvoice rt bank invoice
    requireInvoicePda rt invoice state
    reject (authorization.key ≠ state.authorization) (.custom .unauthorized)
    reject (now ≥ state.expiresAt) (.custom .invoiceExpired)
    reject (state.status ≠ .funded) (.custom .invalidState)
    saveInvoice bank invoice
      { state with status := .delivered, deliveryRoot := deliveryRoot, deliveredAt := now }
  | _ => .error .notEnoughAccountKeys

def payRecipients (mint tokenProgram escrowToken invoice : AccountMeta) (decimals : UInt8)
    (seeds : List (List UInt8)) :
    Bank → List (InvoiceLineItem × AccountMeta) → Except ProgramError Bank
  | bank, [] => .ok bank
  | bank, (item, recipient) :: rest => do
    checkRecipient rt bank mint.key tokenProgram.key item recipient
    let bank ← rt.invoke bank [escrowToken, mint, recipient, invoice, tokenProgram] seeds
      (.transferChecked escrowToken.key mint.key recipient.key invoice.key item.amount decimals)
    payRecipients mint tokenProgram escrowToken invoice decimals seeds bank rest

def settle (bank : Bank) (now : Int64) (accounts : List AccountMeta) : Except ProgramError Bank :=
  match accounts with
  | invoice :: escrowToken :: mint :: tokenProgram :: recipientAccounts => do
    reject (tokenProgram.key ≠ rt.splTokenId) (.custom .invalidAccount)
    let state ← loadInvoice rt bank invoice
    requireInvoicePda rt invoice state
    reject (state.status ≠ .delivered ∨ isZero state.deliveryRoot) (.custom .invalidState)
    let deadline ← custom (disputeDeadline state.deliveredAt state.disputeWindowSeconds)
    reject (now < deadline) (.custom .disputeWindowState)
    reject (escrowToken.key ≠ state.escrowTokenAccount ∨ mint.key ≠ state.mint)
      (.custom .invalidTokenAccount)
    let mintState ← unpackMint rt bank mint tokenProgram.key
    let escrowState ← unpackToken rt bank escrowToken tokenProgram.key
    reject (escrowState.owner ≠ invoice.key ∨ escrowState.mint ≠ mint.key ∨
      escrowState.amount < state.totalAmount) (.custom .invalidTokenAccount)
    reject (recipientAccounts.length ≠ state.lineItems.toList.length) (.custom .invalidAccount)
    let bank ← payRecipients rt mint tokenProgram escrowToken invoice mintState.decimals
      (signerSeeds state.payer state.invoiceHash state.bump) bank
      (state.lineItems.toList.zip recipientAccounts)
    saveInvoice bank invoice { state with status := .settled, settledAt := now }
  | _ => .error .notEnoughAccountKeys

def dispute (bank : Bank) (now : Int64) (accounts : List AccountMeta) :
    Except ProgramError Bank :=
  match accounts with
  | payer :: invoice :: _ => do
    requireSigner payer
    let state ← loadInvoice rt bank invoice
    requireInvoicePda rt invoice state
    reject (payer.key ≠ state.payer) (.custom .unauthorized)
    reject (state.status ≠ .delivered) (.custom .invalidState)
    let deadline ← custom (disputeDeadline state.deliveredAt state.disputeWindowSeconds)
    reject (now ≥ deadline) (.custom .disputeWindowState)
    saveInvoice bank invoice { state with status := .disputed }
  | _ => .error .notEnoughAccountKeys

def resolveDispute (bank : Bank) (accounts : List AccountMeta) (refund : Bool) :
    Except ProgramError Bank :=
  match accounts with
  | resolver :: invoice :: _ => do
    requireSigner resolver
    let state ← loadInvoice rt bank invoice
    requireInvoicePda rt invoice state
    reject (resolver.key ≠ state.disputeResolver) (.custom .unauthorized)
    reject (state.status ≠ .disputed) (.custom .invalidState)
    saveInvoice bank invoice
      { state with status := if refund then .refundApproved else .delivered }
  | _ => .error .notEnoughAccountKeys

def returnEscrow (bank : Bank) (mint tokenProgram escrowToken refundToken invoice : AccountMeta)
    (seeds : List (List UInt8)) (amount : UInt64) (decimals : UInt8) : Except ProgramError Bank :=
  if amount > 0 then
    rt.invoke bank [escrowToken, mint, refundToken, invoice, tokenProgram] seeds
      (.transferChecked escrowToken.key mint.key refundToken.key invoice.key amount decimals)
  else
    .ok bank

def refund (bank : Bank) (now : Int64) (accounts : List AccountMeta) : Except ProgramError Bank :=
  match accounts with
  | _caller :: invoice :: escrowToken :: refundToken :: mint :: tokenProgram :: _ => do
    reject (tokenProgram.key ≠ rt.splTokenId) (.custom .invalidAccount)
    let state ← loadInvoice rt bank invoice
    requireInvoicePda rt invoice state
    reject (state.status = .settled ∨ state.status = .refunded) (.custom .invalidState)
    reject (refundIsAllowed state.status state.expiresAt now = false) (.custom .unauthorized)
    reject (escrowToken.key ≠ state.escrowTokenAccount ∨
      refundToken.key ≠ state.refundTokenAccount ∨ mint.key ≠ state.mint)
      (.custom .invalidTokenAccount)
    let mintState ← unpackMint rt bank mint tokenProgram.key
    let escrowState ← unpackToken rt bank escrowToken tokenProgram.key
    let refundState ← unpackToken rt bank refundToken tokenProgram.key
    reject (escrowState.owner ≠ invoice.key ∨ escrowState.mint ≠ mint.key ∨
      refundState.mint ≠ mint.key) (.custom .invalidTokenAccount)
    let bank ← returnEscrow rt bank mint tokenProgram escrowToken refundToken invoice
      (signerSeeds state.payer state.invoiceHash state.bump) escrowState.amount mintState.decimals
    saveInvoice bank invoice { state with status := .refunded }
  | _ => .error .notEnoughAccountKeys

def execute (bank : Bank) (now : Int64) (accounts : List AccountMeta) :
    SettlementInstruction → Except ProgramError Bank
  | .createAndFund args => createAndFund rt bank now accounts args
  | .acknowledgeDelivery deliveryRoot => acknowledgeDelivery rt bank now accounts deliveryRoot
  | .settle => settle rt bank now accounts
  | .dispute => dispute rt bank now accounts
  | .resolveDispute approve => resolveDispute rt bank accounts approve
  | .refund => refund rt bank now accounts

def process (bank : Bank) (now : Int64) (accounts : List AccountMeta) (data : List UInt8) :
    Except ProgramError Bank := do
  let instruction ← orReject (SettlementInstruction.decode data) (.custom .invalidInstruction)
  execute rt bank now accounts instruction

end Obulus.Settlement
