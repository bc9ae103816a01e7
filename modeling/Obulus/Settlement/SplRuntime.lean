import Obulus.Settlement.History

namespace Obulus.Settlement.SplRuntime

open Foundation

abbrev TokenLayout := Pubkey × Pubkey × UInt64 × Vector UInt8 93

def tokenCodec : Codec TokenLayout :=
  bytes32.pair (bytes32.pair (Codec.u64.pair (Codec.byteArray 93)))

def initialized (t : TokenLayout) : Bool :=
  let state := t.2.2.2[36]
  state = 1 || state = 2

def TokenLayout.account (t : TokenLayout) : TokenAccount := ⟨t.1, t.2.1, t.2.2.1⟩

def TokenLayout.withAmount (t : TokenLayout) (amount : UInt64) : TokenLayout :=
  (t.1, t.2.1, amount, t.2.2.2)

def readToken (data : List UInt8) : Option TokenLayout :=
  (tokenCodec.tryFromSlice data).bind fun t => if initialized t then some t else none

theorem readToken_encode {t : TokenLayout} (h : initialized t = true) :
    readToken (tokenCodec.encode t) = some t := by
  simp [readToken, Codec.tryFromSlice_encode, h]

theorem initialized_of_readToken {data : List UInt8} {t : TokenLayout}
    (h : readToken data = some t) : initialized t = true := by
  simp only [readToken, Option.bind_eq_some_iff] at h
  obtain ⟨t', -, h⟩ := h
  split at h
  · next hi =>
    obtain rfl := Option.some.inj h
    exact hi
  · simp at h

def mintCodec : Codec (Vector UInt8 44 × UInt8 × UInt8 × Vector UInt8 36) :=
  (Codec.byteArray 44).pair (Codec.u8.pair (Codec.u8.pair (Codec.byteArray 36)))

def unpackMint (data : List UInt8) : Option Mint :=
  (mintCodec.tryFromSlice data).bind fun m => if m.2.2.1 = 1 then some ⟨m.2.1⟩ else none

def splTokenId : Pubkey :=
  #v[6, 221, 246, 225, 215, 101, 161, 147, 217, 203, 225, 70, 206, 235, 121, 172,
    28, 180, 133, 237, 95, 91, 55, 145, 58, 140, 245, 133, 126, 255, 0, 169]

def systemProgramId : Pubkey := Vector.replicate 32 0

def tokenAccountAt (bank : Bank) (key : Pubkey) : Option TokenLayout :=
  if (bank key).owner = splTokenId then readToken (bank key).data else none

def setToken (bank : Bank) (key : Pubkey) (t : TokenLayout) : Bank :=
  Function.update bank key { bank key with data := tokenCodec.encode t }

def transferTokens (bank : Bank) (source mint destination authority : Pubkey) (amount : UInt64)
    (decimals : UInt8) : Except ProgramError Bank :=
  match tokenAccountAt bank source, tokenAccountAt bank destination with
  | some s, some d =>
    if s.1 ≠ mint ∨ d.1 ≠ mint ∨ s.2.1 ≠ authority ∨ s.2.2.1 < amount ∨
        unpackMint (bank mint).data ≠ some ⟨decimals⟩ then
      .error (.crossProgram 1)
    else if source = destination then .ok bank
    else
      match UInt64.checkedAdd d.2.2.1 amount with
      | none => .error (.crossProgram 2)
      | some credited =>
        .ok (setToken (setToken bank source (s.withAmount (s.2.2.1 - amount))) destination
          (d.withAmount credited))
  | _, _ => .error (.crossProgram 0)

section Ledger

variable (find : List (List UInt8) → Pubkey → Pubkey × UInt8)

def signs (programId : Pubkey) (metas : List AccountMeta) (seeds : List (List UInt8))
    (key : Pubkey) : Bool :=
  metas.any (fun m => m.key = key && m.isSigner) ||
    (seeds ≠ [] && ((find seeds.dropLast programId).1 = key &&
      seeds.getLast? = some [(find seeds.dropLast programId).2]))

def invoke (programId : Pubkey) (bank : Bank) (metas : List AccountMeta)
    (seeds : List (List UInt8)) : Invocation → Except ProgramError Bank
  | .systemTransfer source destination lamports =>
    if signs find programId metas seeds source = false ∨ (bank source).lamports < lamports then
      .error (.crossProgram 3)
    else
      let debited := Function.update bank source
        { bank source with lamports := (bank source).lamports - lamports }
      .ok (Function.update debited destination
        { debited destination with lamports := (debited destination).lamports + lamports })
  | .systemAllocate account space =>
    if signs find programId metas seeds account = false ∨ (bank account).data ≠ [] ∨
        (bank account).owner ≠ systemProgramId then .error (.crossProgram 4)
    else .ok (Function.update bank account
      { bank account with data := List.replicate space 0 })
  | .systemAssign account owner =>
    if signs find programId metas seeds account = false ∨
        (bank account).owner ≠ systemProgramId then .error (.crossProgram 5)
    else .ok (Function.update bank account { bank account with owner := owner })
  | .transferChecked source mint destination authority amount decimals =>
    if signs find programId metas seeds authority = false then .error (.crossProgram 6)
    else transferTokens bank source mint destination authority amount decimals

def runtime (programId : Pubkey) (hspl : programId ≠ splTokenId)
    (hsys : programId ≠ systemProgramId) : Runtime where
  programId := programId
  splTokenId := splTokenId
  systemProgramId := systemProgramId
  programId_ne_splTokenId := hspl
  programId_ne_systemProgramId := hsys
  findProgramAddress := find
  unpackToken data := (readToken data).map TokenLayout.account
  unpackMint := unpackMint
  minimumBalance n := UInt64.ofNat ((128 + n) * 6960)
  invoke := invoke find programId

variable {find} {programId : Pubkey} {hspl : programId ≠ splTokenId}
  {hsys : programId ≠ systemProgramId}

theorem tokenAt_eq (bank : Bank) (key : Pubkey) :
    (runtime find programId hspl hsys).tokenAt bank key =
      (tokenAccountAt bank key).map TokenLayout.account := by
  by_cases ho : (bank key).owner = splTokenId <;>
    simp [Runtime.tokenAt, tokenAccountAt, runtime, ho]

theorem initialized_of_tokenAccountAt {bank : Bank} {key : Pubkey} {t : TokenLayout}
    (h : tokenAccountAt bank key = some t) :
    (bank key).owner = splTokenId ∧ initialized t = true := by
  unfold tokenAccountAt at h
  split at h
  · next ho => exact ⟨ho, initialized_of_readToken h⟩
  · simp at h

theorem tokenAccountAt_setToken {bank : Bank} {key : Pubkey} {t : TokenLayout}
    (ho : (bank key).owner = splTokenId) (hi : initialized t = true) :
    tokenAccountAt (setToken bank key t) key = some t := by
  simp [tokenAccountAt, setToken, ho, readToken_encode hi]

theorem tokenAccountAt_setToken_ne {bank : Bank} {key k : Pubkey} {t : TokenLayout}
    (h : k ≠ key) : tokenAccountAt (setToken bank key t) k = tokenAccountAt bank k := by
  simp [tokenAccountAt, setToken, Function.update_of_ne h]

theorem transferTokens_moves {bank bank' : Bank} {source mint destination authority : Pubkey}
    {amount : UInt64} {decimals : UInt8}
    (h : transferTokens bank source mint destination authority amount decimals = .ok bank') :
    (runtime find programId hspl hsys).MovesTokens bank source destination amount bank' := by
  unfold transferTokens at h
  split at h
  · next s d hs hd =>
    split at h
    · simp at h
    · next hchecks =>
      simp only [not_or, not_not] at hchecks
      obtain ⟨-, -, -, hle, -⟩ := hchecks
      split at h
      · next hsd =>
        obtain rfl := Except.ok.inj h
        exact ⟨fun _ => rfl, fun hne => absurd hsd hne, fun _ _ _ => rfl⟩
      · next hsd =>
        split at h
        · simp at h
        · next credited hadd =>
          obtain rfl := Except.ok.inj h
          refine ⟨fun he => absurd he hsd, fun _ => ?_, ?_⟩
          · obtain ⟨hso, hsi⟩ := initialized_of_tokenAccountAt hs
            obtain ⟨hdo, hdi⟩ := initialized_of_tokenAccountAt hd
            refine ⟨s.account, d.account, (s.withAmount (s.2.2.1 - amount)).account,
              (d.withAmount credited).account, ?_, ?_, ?_, ?_, ?_, ?_⟩
            · rw [tokenAt_eq, hs, Option.map_some]
            · rw [tokenAt_eq, hd, Option.map_some]
            · have hsi' : initialized (s.withAmount (s.2.2.1 - amount)) = true := hsi
              rw [tokenAt_eq, tokenAccountAt_setToken_ne hsd, tokenAccountAt_setToken hso hsi',
                Option.map_some]
            · have hdo' : ((setToken bank source (s.withAmount (s.2.2.1 - amount)))
                  destination).owner = splTokenId := by
                simp [setToken, Function.update_of_ne (Ne.symm hsd), hdo]
              have hdi' : initialized (d.withAmount credited) = true := hdi
              rw [tokenAt_eq, tokenAccountAt_setToken hdo' hdi', Option.map_some]
            · have hsub := UInt64.toNat_sub_of_le _ _ (UInt64.not_lt.mp hle)
              have hle' := UInt64.le_iff_toNat_le.mp (UInt64.not_lt.mp hle)
              simp only [TokenLayout.account, TokenLayout.withAmount]
              omega
            · exact UInt64.toNat_of_checkedAdd hadd
          · intro k hks hkd
            simp [setToken, Function.update_of_ne hks, Function.update_of_ne hkd]
  · simp at h

theorem lawful : (runtime find programId hspl hsys).Lawful where
  transferChecked := by
    intro bank metas seeds source mint destination authority amount decimals bank' h
    simp only [runtime, invoke] at h
    split at h
    · simp at h
    · exact transferTokens_moves h
  systemTransfer := by
    intro bank metas seeds source destination lamports bank' h k
    simp only [runtime, invoke] at h
    split at h
    · simp at h
    · obtain rfl := Except.ok.inj h
      by_cases hd : k = destination
      · subst hd
        by_cases hs : k = source
        · subst hs
          simp
        · simp [Function.update_of_ne hs]
      · by_cases hs : k = source
        · subst hs
          simp [Function.update_of_ne hd]
        · simp [Function.update_of_ne hd, Function.update_of_ne hs]
  systemAllocate := by
    intro bank metas seeds account space bank' h
    simp only [runtime, invoke] at h
    split at h
    · simp at h
    · exact (Except.ok.inj h).symm
  systemAssign := by
    intro bank metas seeds account owner bank' h
    simp only [runtime, invoke] at h
    split at h
    · simp at h
    · exact (Except.ok.inj h).symm

end Ledger

namespace Sample

def key (n : UInt8) : Pubkey := Vector.replicate 32 n

def programId : Pubkey := key 7

def payer : Pubkey := key 11

def payerToken : Pubkey := key 12

def escrowToken : Pubkey := key 13

def mint : Pubkey := key 14

def ownerToken : Pubkey := key 15

def platformToken : Pubkey := key 16

def agent : Pubkey := key 17

def resolver : Pubkey := key 18

def invoiceHash : Bytes32 := key 21

def invoice : Pubkey :=
  #v[27, 60, 214, 42, 135, 176, 51, 125, 7, 88, 219, 193, 187, 19, 40, 54,
    169, 239, 69, 170, 2, 179, 25, 195, 70, 178, 103, 246, 220, 164, 134, 87]

def find (seeds : List (List UInt8)) (owner : Pubkey) : Pubkey × UInt8 :=
  if seeds = [invoiceSeed, payer.toList, invoiceHash.toList] ∧ owner = programId then (invoice, 252)
  else (key 255, 255)

def rt : Runtime := runtime find programId (by decide) (by decide)

def tokenData (owner : Pubkey) (amount : UInt64) : List UInt8 :=
  tokenCodec.encode (mint, owner, amount, (Vector.replicate 93 0).set 36 1)

def mintData : List UInt8 :=
  mintCodec.encode (Vector.replicate 44 0, 6, 1, Vector.replicate 36 0)

def bank : Bank := fun k =>
  if k = payer then ⟨10000000000, systemProgramId, []⟩
  else if k = payerToken then ⟨2039280, splTokenId, tokenData payer 500⟩
  else if k = escrowToken then ⟨2039280, splTokenId, tokenData invoice 0⟩
  else if k = mint then ⟨1461600, splTokenId, mintData⟩
  else if k = ownerToken then ⟨2039280, splTokenId, tokenData (key 19) 0⟩
  else if k = platformToken then ⟨2039280, splTokenId, tokenData (key 20) 0⟩
  else ⟨0, systemProgramId, []⟩

def args (recipient : Pubkey) : CreateInvoiceArgs where
  invoiceHash := invoiceHash
  queryHash := key 22
  bundleRoot := key 23
  authorization := agent
  disputeResolver := resolver
  totalAmount := 100
  platformFee := 10
  expiresAt := 1000
  disputeWindowSeconds := 60
  lineItems := ⟨[⟨recipient, key 24, 3, 90, 0⟩, ⟨platformToken, key 25, 1, 10, 1⟩], by simp⟩

def create (recipient : Pubkey) : Submission where
  now := 100
  accounts := [⟨payer, true⟩, ⟨invoice, false⟩, ⟨payerToken, false⟩, ⟨escrowToken, false⟩,
    ⟨payerToken, false⟩, ⟨mint, false⟩, ⟨splTokenId, false⟩, ⟨systemProgramId, false⟩,
    ⟨recipient, false⟩, ⟨platformToken, false⟩]
  data := (SettlementInstruction.createAndFund (args recipient)).encode

def acknowledge : Submission where
  now := 200
  accounts := [⟨agent, true⟩, ⟨invoice, false⟩]
  data := (SettlementInstruction.acknowledgeDelivery (key 26)).encode

def settle (recipient : Pubkey) : Submission where
  now := 260
  accounts := [⟨invoice, false⟩, ⟨escrowToken, false⟩, ⟨mint, false⟩, ⟨splTokenId, false⟩,
    ⟨recipient, false⟩, ⟨platformToken, false⟩]
  data := SettlementInstruction.settle.encode

def events (recipient : Pubkey) : List Event :=
  [.succeeded (create recipient), .succeeded acknowledge]

def delivered (recipient : Pubkey) : Option World :=
  runWith (execEvent rt) ⟨bank, 0⟩ (events recipient)

def settled (recipient : Pubkey) : Option World :=
  (delivered recipient).bind fun w => execEvent rt w (.succeeded (settle recipient))

theorem lawful : rt.Lawful := SplRuntime.lawful

theorem bank_unowned (k : Pubkey) : (bank k).owner ≠ rt.programId := by
  have hspl : splTokenId ≠ programId := by decide
  have hsys : systemProgramId ≠ programId := by decide
  change (bank k).owner ≠ programId
  unfold bank
  split_ifs <;> assumption

theorem fresh : Fresh rt bank := fun _ _ => bank_unowned _

theorem invoice_pda : ∃ payer invoiceHash, invoice = (deriveAddress rt payer invoiceHash).1 :=
  ⟨payer, invoiceHash, by simp [deriveAddress, rt, runtime, find]⟩

theorem run_settled {recipient : Pubkey} {w : World} (h : settled recipient = some w) :
    ∃ w', delivered recipient = some w' ∧ Run rt ⟨bank, 0⟩ (events recipient) w' ∧
      Step rt w' (.succeeded (settle recipient)) w := by
  simp only [settled, Option.bind_eq_some_iff] at h
  obtain ⟨w', hd, hs⟩ := h
  exact ⟨w', hd, runWith_trace step_of_execEvent hd, step_of_execEvent _ _ _ hs⟩

theorem settled_ownerToken : ∃ w, settled ownerToken = some w := by
  have h : (settled ownerToken).isSome = true := by decide +kernel
  exact Option.isSome_iff_exists.mp h

end Sample

end Obulus.Settlement.SplRuntime
