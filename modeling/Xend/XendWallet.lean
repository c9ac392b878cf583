import Xend.BackendClient
import Xend.Base64

/-! The public wallet object: creation, loading, restoration, sending and history, across the
method channel and the backend. -/

namespace Xend.Sdk

open Framing Interaction

inductive Chain where
  | solana
  | ethereum
  | base
  | arbitrum
  | optimism
  | polygon
  | bnb
  | bitcoin
  deriving DecidableEq

def Chain.name : Chain → String
  | solana => "solana"
  | ethereum => "ethereum"
  | base => "base"
  | arbitrum => "arbitrum"
  | optimism => "optimism"
  | polygon => "polygon"
  | bnb => "bnb"
  | bitcoin => "bitcoin"

structure PlatformException where
  code : String
  message : String

def flutterError : NativeError → PlatformException
  | .cryptoKit description => ⟨"unknown", description⟩
  | .secureSigner .authenticationCancelled => ⟨"user_cancelled_auth", "Authentication cancelled"⟩
  | .secureSigner .biometricsUnavailable => ⟨"biometrics_unavailable", "Biometrics unavailable"⟩
  | .secureSigner .keyNotFound => ⟨"key_not_found", "No key for wallet"⟩
  | .secureSigner (.badArguments key) => ⟨"bad_arguments", "Missing/invalid argument: " ++ key⟩
  | .secureSigner .badPublicKeyData => ⟨"bad_public_key", "Stored public key is corrupt"⟩
  | .secureSigner (.keychain status) => ⟨"keychain_error", "Keychain error " ++ toString status⟩
  | .secureSigner (.enclave message) => ⟨"enclave_error", message⟩
  | .secureSigner .invalidMnemonic => ⟨"invalid_mnemonic", "Recovery phrase is not valid"⟩

def mapNativeError (e : PlatformException) : XendError :=
  if e.code = "user_cancelled_auth" then .userCancelledAuth
  else if e.code = "invalid_mnemonic" then .invalidRecoveryPhrase
  else if e.code = "biometrics_unavailable" then
    .networkError "Biometric authentication is unavailable on this device"
  else .networkError ("secure element error: " ++ e.message)

/-- A native trap takes the whole app down. -/
def acrossChannel : Halt NativeError → Halt DartError
  | .thrown e => .thrown (.xend (mapNativeError (flutterError e)))
  | .trap => .trap

def invoke {α : Type} (method : MethodCall) (x : Native α) : Dart α := do
  let () ← ask (.invokeMethod method)
  ExceptT.adapt acrossChannel x

def isSolName (value : String) : Bool := decide (".sol".toList <:+ value.toList.map Char.toLower)

def trim (s : String) : String :=
  String.ofList (((s.toList.dropWhile isSpace).reverse.dropWhile isSpace).reverse)

def hexDigit (n : Nat) : Char := Nat.digitChar n

def newIdempotencyKey : Dart String := do
  let bytes ← ask .randomSecure
  pure (String.ofList (bytes.1.flatMap fun b => [hexDigit (b.toNat / 16), hexDigit (b.toNat % 16)]))

/-- Both alphabets are read. -/
def base64Value (c : Char) : Option Nat :=
  if c = '-' then some 62 else if c = '_' then some 63 else Base64.value c

/-- Padding may be escaped. -/
def unescapePadding : List Char → List Char
  | '%' :: '3' :: 'D' :: rest => '=' :: unescapePadding rest
  | '%' :: '3' :: 'd' :: rest => '=' :: unescapePadding rest
  | c :: rest => c :: unescapePadding rest
  | [] => []

def base64Decode (s : String) : Except DartError Bytes :=
  (Base64.decodeChars base64Value (unescapePadding s.toList)).elim (.error .formatException) .ok

theorem unescapePadding_of_not_mem {cs : List Char} (h : '%' ∉ cs) : unescapePadding cs = cs := by
  induction cs using unescapePadding.induct with
  | case1 rest ih => simp at h
  | case2 rest ih => simp at h
  | case3 c rest h₁ h₂ ih =>
    rw [unescapePadding, ih (fun hr => h (List.mem_cons_of_mem _ hr))]
    · exact h₁
    · exact h₂
  | case4 => rfl

theorem base64Value_symbol : ∀ n < 64, base64Value (Base64.symbol n) = some n := by decide +kernel

theorem base64Decode_encode (bs : Bytes) : base64Decode (Base64.encode bs) = .ok bs := by
  have hplain : '%' ∉ Base64.encodeChars bs :=
    fun h => absurd (Base64.mem_encodeChars h) (by decide +kernel)
  rw [base64Decode, Base64.encode, String.toList_ofList, unescapePadding_of_not_mem hplain,
    Base64.decodeChars_encodeChars base64Value_symbol]
  rfl

def encodeShortVecLength (length : Nat) : Bytes :=
  if h : length / 128 = 0 then [UInt8.ofNat (length % 128)]
  else UInt8.ofNat (length % 128 + 128) :: encodeShortVecLength (length / 128)
  termination_by length
  decreasing_by omega

def assembleSignedTransaction (signatures : List Bytes) (message : Bytes) : Bytes :=
  encodeShortVecLength signatures.length ++ signatures.flatten ++ message

def requireSolana (chain : Chain) (call : String) : Dart Unit :=
  if chain = .solana then pure ()
  else attempt (.error (.thrown (.xend (.notImplementedYet (call ++ " on " ++ chain.name)))))

structure Asset where
  chain : Chain
  mint : Option String
  decimals : Int
  symbol : Option String

/-- SOL on Solana. -/
def Asset.native (chain : Chain) : Asset := ⟨chain, none, 9, none⟩

/-- Instants are counted in microseconds. -/
structure TxRecord where
  signature : String
  status : String
  toAddress : String
  amount : Int
  asset : Asset
  createdAt : Int

/-- An element that is no map is noticed here, where it is read. -/
def txRecordFromJson (parseDateTime : String → Option Int) (json : Json) (chain : Chain) :
    Except DartError TxRecord :=
  match json with
  | .obj fields => do
    let json := Json.obj fields
    let mint ← BackendClient.asStringOrNull (json.field "mint")
    let signature ← BackendClient.asString (json.field "signature")
    let status ← BackendClient.asString (json.field "status")
    let toAddress ← BackendClient.asStringOrNull (json.field "to")
    let amount ← BackendClient.asStringOrNull (json.field "amount")
    let createdAt ← BackendClient.asString (json.field "created_at")
    match parseDateTime createdAt with
    | none => .error .formatException
    | some createdAt =>
      .ok ⟨signature, status, toAddress.getD "", (bigIntTryParse (amount.getD "0")).getD 0,
        mint.elim (.native chain) fun mint => ⟨chain, some mint, 0, none⟩, createdAt⟩
  | _ => .error .typeError

structure XendWallet where
  address : String
  chain : Chain

namespace XendWallet

open BackendClient

def resolveName (nameOrAddress : String) : Dart String :=
  if isSolName nameOrAddress then BackendClient.resolveName nameOrAddress else pure nameOrAddress

variable (kit : Kit)

def create (label : Option String) (chain : Chain) : Dart XendWallet := do
  requireSolana chain "XendWallet.create"
  let (address, _) ← invoke .generateKeyPair (SecureSigner.generateKeyPair kit)
  let _ ← registerWallet address label
  pure ⟨address, chain⟩

def load (chain : Chain) : Dart (Option XendWallet) := do
  requireSolana chain "XendWallet.load"
  let result ← invoke .loadOrRecover (SecureSigner.loadOrRecover kit)
  match result with
  | none => pure none
  | some loaded =>
    if loaded.recovered then do
      let _ ← registerWallet loaded.address none
      pure (some ⟨loaded.address, chain⟩)
    else pure (some ⟨loaded.address, chain⟩)

def restore (mnemonic : String) (chain : Chain) : Dart XendWallet := do
  requireSolana chain "XendWallet.restore"
  let address ← invoke (.restore (trim mnemonic)) (SecureSigner.restore kit (trim mnemonic))
  let _ ← registerWallet address none
  pure ⟨address, chain⟩

def revealRecoveryPhrase (wallet : XendWallet) (reason : String) : Dart String := do
  requireSolana wallet.chain "XendWallet.revealRecoveryPhrase"
  invoke (.revealMnemonic reason) (SecureSigner.revealMnemonic reason)

/-- The handle is the signature the backend reports. -/
def send (wallet : XendWallet) (nameOrAddress : String) (amount : Int)
    (mint idempotencyKey : Option String) :
    Dart String := do
  requireSolana wallet.chain "XendWallet.send"
  if amount ≤ 0 then
    throwing (.error (.argumentError "amount" "must be greater than zero"))
  else do
  let recipient ← XendWallet.resolveName nameOrAddress
  let built ← BackendClient.buildTransfer wallet.address recipient amount mint
  let message ← throwing (base64Decode built.message)
  let reason := "Approve sending to " ++ nameOrAddress
  let signature ← invoke (.signMessage message reason) (SecureSigner.signMessage kit message reason)
  let sponsor ← throwing (built.feePayerSignature.toList.mapM base64Decode)
  let signed := assembleSignedTransaction (sponsor ++ [signature.1]) message
  let key ← idempotencyKey.elim newIdempotencyKey pure
  let result ← submitTransaction (Base64.encode signed) key wallet.address recipient amount mint
  pure result.signature

def history (parseDateTime : String → Option Int) (wallet : XendWallet) (limit : Int)
    (before : Option String) :
    Dart (List TxRecord) := do
  requireSolana wallet.chain "XendWallet.history"
  let raw ← getHistory wallet.address limit before
  throwing (raw.mapM fun json => txRecordFromJson parseDateTime json wallet.chain)

end XendWallet

theorem calls_invoke {P : Call → Prop} {α : Type} {method : MethodCall} {x : Native α}
    (h : P (.invokeMethod method))
    (hx : x.run.Calls P) : (invoke method x).run.Calls P := ⟨h, fun _ => hx.map _⟩

section Spec

variable {S V α : Type} {exec : S → (c : Call) → V → S × Reply c} {Ok : Step Call S V → Prop}
    {I : S → Prop} {s : S}

theorem spec_invoke {method : MethodCall} {x : Native α} {E : Halt DartError → S → Prop}
    {Q : α → S → Prop} (hI : I s)
    (h : ∀ v, Ok ⟨s, .invokeMethod method, v⟩ →
      x.run.Spec exec Ok I (Ends (fun e => E (acrossChannel e)) Q)
        (exec s (.invokeMethod method) v).1) :
    (invoke method x).run.Spec exec Ok I (Ends E Q) s := by
  refine ⟨hI, fun v hv => Prog.Spec.map ((h v hv).mono fun r s _ hr => ?_)⟩
  cases r with
  | ok a => exact hr
  | error e => exact hr

end Spec

end Xend.Sdk
