import Obulus.Wallets.Sessions

namespace Obulus.Wallets

open Foundation Store Funds

section Accounts

variable (db : Database) (now : Nat)

-- the row of a new account
def signUp (userId : String) : Except StoreError Database := do
  let users ← orReject (db.users.insert? ⟨userId, none⟩) (.database "UNIQUE constraint failed: users.id")
  return { db with users := users }

def requireUser (userId : String) : Except StoreError Unit :=
  reject ((db.users.get? userId).isNone = true) (.database "FOREIGN KEY constraint failed")

def bindWalletIdentity (ext : Externals) (userId wallet : String) : Except StoreError Database := do
  let userId := trim userId
  let wallet := trim wallet
  reject (userId = "" ∨ validSolanaAddress ext.encoding wallet = false)
    (.validation "user id and a valid wallet are required")
  let now ← asI64 now
  if db.identities.rows.any (fun i => decide (i.wallet = wallet ∨ i.userId = userId)) = true then
    reject (holdsIdentity db userId wallet = false)
      (.conflict "this wallet or account is already bound to another identity")
    return db
  else
    requireUser db userId
    return { db with identities := db.identities.put ⟨wallet, userId, now⟩ }

end Accounts

section Profiles

structure UpsertProfileRequest where
  handle : String
  ageBand : String
  region : String
  household : String
  field : String
  years : String
  speaksTo : List String
  wallet : Option String
  avatarJson : Option String

def yearBands : List String := ["under-1", "1-3", "3-7", "7-plus"]

def maxAvatarJsonBytes : Nat := 400000

def checkBand (name value : String) : Except StoreError Unit :=
  reject ((trim value).isEmpty = true ∨ 80 < value.utf8ByteSize)
    (.validation s!"{name} must be between 1 and 80 characters")

def checkSupported (name value : String) (allowed : List String) : Except StoreError Unit :=
  reject (trim value ∉ allowed) (.validation s!"unsupported {name}")

def validateProfile (ext : Externals) (request : UpsertProfileRequest) : Except StoreError Unit := do
  let handle := trim request.handle
  reject (handle.utf8ByteSize < 3 ∨ 32 < handle.utf8ByteSize ∨
      handle.toList.all (fun c => isAsciiAlphanumeric c || c == '_' || c == '-') = false)
    (.validation "handle must be 3-32 ASCII letters, numbers, underscores, or hyphens")
  checkBand "ageBand" request.ageBand
  checkBand "region" request.region
  checkBand "household" request.household
  checkBand "field" request.field
  checkBand "years" request.years
  checkSupported "ageBand" request.ageBand ageBands
  checkSupported "region" request.region regions
  checkSupported "household" request.household households
  checkSupported "field" request.field categoryIds
  checkSupported "years" request.years yearBands
  reject (request.speaksTo = [] ∨ 10 < request.speaksTo.length)
    (.validation "speaksTo must contain between 1 and 10 fields")
  reject (¬(request.speaksTo.map trim).Nodup ∨ ∃ field ∈ request.speaksTo.map trim, field ∉ categoryIds)
    (.validation "speaksTo fields must be unique supported categories")
  reject (request.wallet.any (fun wallet => !(trim wallet).isEmpty &&
      !validSolanaAddress ext.encoding (trim wallet)) = true)
    (.validation "wallet must be a base58 Solana public key")
  reject (request.avatarJson.any (fun text => decide (maxAvatarJsonBytes < text.utf8ByteSize)) = true)
    (.validation "avatar is too large — try a smaller image")

variable (db : Database) (now : Nat) (userId : String)

def verifiedByOther (wallet : String) : Bool :=
  db.profiles.rows.any fun p => decide (p.wallet = some wallet ∧ p.userId ≠ userId) && p.verified

-- the row of ON CONFLICT(user_id) DO UPDATE
def upsertedProfile (handle : String) (wallet : Option String) (verifiedAt : Option Nat) : Profile where
  userId := userId
  handle := handle
  wallet := wallet
  walletVerifiedAt :=
    match db.profiles.get? userId with
    | none => verifiedAt
    | some p =>
      if wallet.isSome = true ∧ p.wallet = wallet then p.walletVerifiedAt.or verifiedAt else verifiedAt

def upsertProfile (ext : Externals) (request : UpsertProfileRequest) : Except StoreError Database := do
  validateProfile ext request
  let userId := trim userId
  let handle := (trim request.handle).toUpper
  let wallet := (request.wallet.map trim).filter fun wallet => !wallet.isEmpty
  reject (db.profiles.rows.any (fun p => decide (p.handle = handle ∧ p.userId ≠ userId)) = true)
    (.conflict "this anonymous handle is already in use")
  let now ← asI64 now
  let verifiedAt := if wallet.any (holdsIdentity db userId) = true then some now else none
  let profile := upsertedProfile db userId handle wallet verifiedAt
  reject (profile.verified = true ∧ profile.wallet.any (verifiedByOther db userId) = true)
    (.database "UNIQUE constraint failed: profiles.wallet")
  return { db with profiles := db.profiles.put profile }

end Profiles

section Control

variable (ext : Externals)

-- what each flow says of a wallet that is not base58, not 32 bytes or no key, and of its signature
structure KeyErrors where
  base58 : StoreError
  length : StoreError
  key : StoreError
  signature : StoreError

def provesControl (errors : KeyErrors) (wallet signature : String)
    (message : Except StoreError String) : Except StoreError Unit := do
  let publicKey ← orReject (ext.encoding.base58Decode wallet) errors.base58
  reject (publicKey.length ≠ 32) errors.length
  reject (ext.ed25519Key publicKey = false) errors.key
  let bytes ← orReject (ext.encoding.base58Decode signature) errors.signature
  reject (bytes.length ≠ 64) errors.signature
  let text ← message
  reject (ext.verifyStrict publicKey text bytes = false) errors.signature

variable (db : Database) (now : Nat)

def lockUser (userId : String) : Except StoreError Unit :=
  reject (activeUser db userId = false) (.notFound "user")

-- UPDATE profiles of both flows, once the wallet is rotated
def verifyProfileWallet (userId wallet : String) : Except StoreError Database := do
  lockUser db userId
  let db ← prepareVerifiedWalletRotation db userId wallet
  reject (verifiedByOther db userId wallet = true)
    (.conflict "this wallet is already verified by another account")
  let now ← asI64 now
  reject ((db.profiles.get? userId).isNone = true) (.notFound "profile")
  return { db with
    profiles := db.profiles.update (fun p => decide (p.userId = userId))
      (fun p => { p with
        wallet := some wallet
        walletVerifiedAt := some now }) (fun _ => rfl) }

end Control

section Challenges

variable (ext : Externals) (db : Database) (now : Nat)

def requireProfile (userId : String) : Except StoreError Unit :=
  reject ((db.profiles.get? userId).isNone = true)
    (.conflict "complete onboarding before verifying a wallet")

def challengeMessage (userId wallet nonce : String) (expiresAt : Nat) : String :=
  s!"OPENSHELF wallet verification\nAccount: {userId}\nWallet: {wallet}\nNonce: {nonce}\nExpires: {expiresAt}"

def dayMs : Nat := 24 * 60 * 60 * 1000

def createWalletChallenge (id userId wallet nonce : String) (ttlMs : Nat) :
    Except StoreError Database := do
  let userId := trim userId
  let wallet := trim wallet
  let nonce := trim nonce
  reject (userId = "") (.validation "user id is required")
  reject (validSolanaAddress ext.encoding wallet = false)
    (.validation "wallet must be a base58 Solana public key")
  reject (isHex64 nonce = false) (.validation "wallet challenge nonce must be 32 bytes of hex")
  reject (ttlMs < 60000 ∨ 10 * 60000 < ttlMs)
    (.validation "wallet challenge ttl must be between one and ten minutes")
  requireProfile db userId
  let now ← asI64 now
  let used := db.challenges.update (fun c => decide (c.userId = userId ∧ c.consumedAt = none))
    (fun c => { c with consumedAt := some now }) (fun _ => rfl)
  let recent := used.delete fun c => decide (c.expiresAt < now - dayMs)
  let expiresAt ← asI64 (saturatingAdd now ttlMs)
  requireUser db userId
  let challenges ← orReject (recent.insert?
      { id := id
        userId := userId
        wallet := wallet
        message := challengeMessage userId wallet nonce expiresAt
        expiresAt := expiresAt
        consumedAt := none
        createdAt := now })
    (.database "UNIQUE constraint failed: wallet_challenges.id")
  return { db with challenges := challenges }

def challengeErrors : KeyErrors where
  base58 := .validation "wallet is not valid base58"
  length := .validation "wallet must decode to 32 bytes"
  key := .validation "wallet is not a valid Ed25519 public key"
  signature := .unauthorized "wallet signature is invalid"

def loadChallenge (userId challengeId : String) : Except StoreError WalletChallenge :=
  orReject ((db.challenges.get? challengeId).filter fun c => decide (c.userId = userId))
    (.notFound "wallet challenge")

def verifyWalletChallenge (userId challengeId signature : String) : Except StoreError Database := do
  let userId := trim userId
  let challengeId := trim challengeId
  reject (userId = "" ∨ challengeId = "") (.validation "user id and challengeId are required")
  let challenge ← loadChallenge db userId challengeId
  reject (challenge.consumedAt.isSome = true)
    (.conflict "this wallet challenge has already been used")
  reject (challenge.expiresAt < now) (.conflict "this wallet challenge has expired")
  provesControl ext challengeErrors challenge.wallet (trim signature) (.ok challenge.message)
  let db ← verifyProfileWallet db now userId challenge.wallet
  let consumed := db.challenges.update (fun c => decide (c.id = challengeId ∧ c.consumedAt = none))
    (fun c => { c with consumedAt := some now }) (fun _ => rfl)
  return revokeSessions { db with challenges := consumed } now userId

end Challenges

section Siwx

structure SiwxRequest where
  userId : String
  domain : String
  uri : String
  statement : String
  nonce : String
  issuedAt : String
  expirationTime : String
  network : String
  ttlMs : Nat

structure SiwxPayload where
  domain : String
  address : String
  uri : String
  statement : Option String
  version : String
  chainId : String
  nonce : String
  issuedAt : String
  expirationTime : Option String
  notBefore : Option String
  requestId : Option String
  resources : Option (List String)
  signatureType : String
  signatureScheme : Option String
  signature : String

variable (ext : Externals) (db : Database) (now : Nat)

def siwxUri (uri : String) : Bool :=
  "https://".toList.isPrefixOf uri.toList || "http://127.0.0.1:".toList.isPrefixOf uri.toList ||
    "http://localhost:".toList.isPrefixOf uri.toList

def checkSiwxRequest (challengeId : String) (r : SiwxRequest) : Except StoreError Unit := do
  reject (trim r.userId = "" ∨ trim r.domain = "" ∨ trim r.uri = "" ∨ trim r.statement = "" ∨
      trim r.issuedAt = "" ∨ trim r.expirationTime = "" ∨ trim r.network = "")
    (.validation "complete SIWX challenge metadata is required")
  reject (isHex64 (trim challengeId) = false ∨ isHex64 (trim r.nonce) = false)
    (.validation "SIWX challenge id and nonce must each be 32 bytes of hex")
  reject (253 < (trim r.domain).utf8ByteSize ∨
      (trim r.domain).toList.any (fun c => isWhiteSpace c || c == '/' || c == '\\') = true ∨
      siwxUri (trim r.uri) = false)
    (.validation "SIWX domain or resource URI is invalid")
  reject (r.ttlMs < 60000 ∨ 10 * 60000 < r.ttlMs)
    (.validation "SIWX challenge ttl must be between one and ten minutes")

def createWalletSiwxChallenge (challengeId : String) (r : SiwxRequest) :
    Except StoreError Database := do
  checkSiwxRequest challengeId r
  requireProfile db (trim r.userId)
  let now ← asI64 now
  let used := db.siwxChallenges.update
    (fun c => decide (c.userId = trim r.userId ∧ c.consumedAt = none))
    (fun c => { c with consumedAt := some now }) (fun _ => rfl)
  let recent := used.delete fun c => decide (c.expiresAt < now - dayMs)
  let expiresAt ← asI64 (saturatingAdd now r.ttlMs)
  requireUser db (trim r.userId)
  let siwxChallenges ← orReject (recent.insert?
      { id := trim challengeId
        userId := trim r.userId
        domain := trim r.domain
        uri := trim r.uri
        statement := trim r.statement
        nonce := trim r.nonce
        issuedAt := trim r.issuedAt
        expirationTime := trim r.expirationTime
        network := trim r.network
        expiresAt := expiresAt
        consumedAt := none
        createdAt := now })
    (.database "UNIQUE constraint failed: wallet_siwx_challenges.id")
  return { db with siwxChallenges := siwxChallenges }

def chainReference (chainId : String) : Except StoreError String :=
  orReject (if "solana:".toList.isPrefixOf chainId.toList = true then
      some (String.ofList (chainId.toList.drop 7)) else none)
    (.unauthorized "wallet SIWX chain is not Solana")

def optionalLine (label : String) : Option String → List String
  | none => []
  | some value => [label ++ value]

def resourceLines : Option (List String) → List String
  | none => []
  | some [] => []
  | some resources => "Resources:" :: resources.map fun resource => "- " ++ resource

def siwxMessage (payload : SiwxPayload) : Except StoreError String := do
  let reference ← chainReference payload.chainId
  return "\n".intercalate ([payload.domain ++ " wants you to sign in with your Solana account:",
      payload.address, ""] ++
    (payload.statement.map fun statement => [statement, ""]).getD [] ++
    ["URI: " ++ payload.uri, "Version: " ++ payload.version, "Chain ID: " ++ reference,
      "Nonce: " ++ payload.nonce, "Issued At: " ++ payload.issuedAt] ++
    optionalLine "Expiration Time: " payload.expirationTime ++
    optionalLine "Not Before: " payload.notBefore ++
    optionalLine "Request ID: " payload.requestId ++
    resourceLines payload.resources)

def payloadMatches (challenge : SiwxChallenge) (payload : SiwxPayload) : Bool :=
  decide (payload.domain = challenge.domain ∧ payload.uri = challenge.uri ∧
    payload.statement = some challenge.statement ∧ payload.version = "1" ∧
    payload.chainId = challenge.network ∧ payload.nonce = challenge.nonce ∧
    payload.issuedAt = challenge.issuedAt ∧
    payload.expirationTime = some challenge.expirationTime ∧ payload.notBefore = none ∧
    payload.requestId = some challenge.id ∧ payload.resources = some [challenge.uri] ∧
    payload.signatureType = "ed25519" ∧ payload.signatureScheme.getD "siws" = "siws")

def siwxErrors : KeyErrors where
  base58 := .unauthorized "wallet SIWX address is invalid"
  length := .unauthorized "wallet SIWX address is invalid"
  key := .unauthorized "wallet SIWX address is not an Ed25519 key"
  signature := .unauthorized "wallet SIWX signature is invalid"

-- unlike the other flow, this one leaves the sessions of the user
def verifyWalletSiwxChallenge (challengeId : String) (payload : SiwxPayload) :
    Except StoreError Database := do
  let challenge ← orReject (db.siwxChallenges.get? (trim challengeId)) (.notFound "wallet SIWX challenge")
  reject (challenge.consumedAt.isSome = true)
    (.conflict "this wallet SIWX challenge has already been used")
  reject (challenge.expiresAt ≤ now) (.conflict "this wallet SIWX challenge has expired")
  reject (payloadMatches challenge payload = false)
    (.unauthorized "wallet SIWX payload does not match its challenge")
  provesControl ext siwxErrors (trim payload.address) (trim payload.signature) (siwxMessage payload)
  let db ← verifyProfileWallet db now challenge.userId (trim payload.address)
  return { db with
    siwxChallenges := db.siwxChallenges.update
      (fun c => decide (c.id = challenge.id ∧ c.consumedAt = none))
      (fun c => { c with consumedAt := some now }) (fun _ => rfl) }

end Siwx

end Obulus.Wallets
