import Xend.Base58
import Xend.Device
import Xend.Mnemonic

/-! The native signer: generation, recovery, signing and deletion as programs over
the calls of one device. -/

namespace Xend.Sdk

open Framing Interaction

inductive SecureSignerError where
  | authenticationCancelled
  | biometricsUnavailable
  | keyNotFound
  | keychain (status : OSStatus)
  | badPublicKeyData
  | badArguments (key : String)
  | enclave (message : String)
  | invalidMnemonic
  deriving DecidableEq

inductive NativeError where
  | secureSigner (e : SecureSignerError)
  | cryptoKit (description : String)
  deriving DecidableEq

abbrev PrivateKey := {bytes : Bytes // bytes.length = 32}

/-- What the phone's cryptography adds to the primitives, and the build target. -/
structure Kit extends Primitives where
  publicKey : PrivateKey → {bytes : Bytes // bytes.length = 32}
  sizeError : String
  signingError : String
  simulator : Bool

abbrev Acting (ε : Type) := ExceptT (Halt ε) (Prog Call Reply)

abbrev ask {ε : Type} (c : Call) : Acting ε (Reply c) := request c

abbrev Native := Acting NativeError

namespace SecureSigner

def fail {α : Type} (e : SecureSignerError) : Native α :=
  attempt (.error (.thrown (.secureSigner e)))

def require (holds : Bool) (e : SecureSignerError) : Native Unit :=
  if holds then pure () else fail e

def orTrap {α : Type} (o : Option α) : Native α := attempt (Xend.orTrap o)

/-- A `catch` sees what was thrown; a trap ends the process. -/
def catching {α : Type} (x : Native α) (handler : NativeError → Native α) : Native α :=
  ExceptT.mk <| x.run >>= fun
    | .ok a => .done (.ok a)
    | .error (.thrown e) => (handler e).run
    | .error .trap => .done (.error .trap)

def tried {α : Type} (x : Native α) : Native (Option α) :=
  catching (do
    let a ← x
    pure (some a)) fun _ => pure none

def keychainSet (item : Item) (data : Data) : Native Unit := do
  let _ ← ask (.secItemDelete [item])
  let status ← ask (.secItemAdd item data)
  require (status = errSecSuccess) (.keychain status)

def found {α : Type} : OSStatus × Option α → Native α
  | (status, value) =>
    if status = errSecItemNotFound then fail .keyNotFound
    else match value with
      | some a => if status = errSecSuccess then pure a else fail (.keychain status)
      | none => fail (.keychain status)

def keychainGet (item : Item) : Native Data := do
  let out ← ask (.secItemCopyMatching item)
  found out

def deleteEnclaveKey : Native Unit := do
  let _ ← ask .deleteKeys
  pure ()

def loadEnclaveKey (reason : String) : Native Nat := do
  let result ← ask (.copyMatchingKey reason)
  found result

def makeWrappingKey (flags : List AccessFlag) (inSecureEnclave : Bool) : Native Nat := do
  let access ← ask (.secAccessControlCreateWithFlags flags)
  require access (.enclave "could not build access control")
  let key ← ask (.secKeyCreateRandomKey flags inSecureEnclave)
  match key with
  | .ok key => pure key
  | .error detail =>
    fail (.enclave ("wrapping-key generation failed: " ++ detail.getD "unknown error"))

/-- Access flags, and whether the key is to live in the Enclave; strongest first. -/
def attempts (simulator enclaveAvailable biometricsEnrolled : Bool) :
    List (List AccessFlag × Bool) :=
  (if enclaveAvailable && biometricsEnrolled then [([.privateKeyUsage, .biometryCurrentSet], true)]
    else []) ++
  if simulator then
    (if enclaveAvailable then [([.privateKeyUsage], true)] else []) ++
    (if biometricsEnrolled then [([.biometryCurrentSet], false)] else []) ++ [([], false)]
  else if !biometricsEnrolled then [([.privateKeyUsage, .userPresence], true)] else []

def firstKey (lastError : NativeError) : List (List AccessFlag × Bool) → Native Nat
  | [] => attempt (.error (.thrown lastError))
  | (flags, inSecureEnclave) :: rest =>
    catching (makeWrappingKey flags inSecureEnclave) fun error => firstKey error rest

def createEnclaveKey (simulator : Bool) : Native Nat := do
  deleteEnclaveKey
  let enclaveAvailable ← ask .secureEnclaveIsAvailable
  let biometricsEnrolled ← ask .canEvaluatePolicy
  firstKey (.secureSigner (.enclave "wrapping-key generation failed"))
    (attempts simulator enclaveAvailable biometricsEnrolled)

def wrap (plaintext : Bytes) (key : Nat) (label : String) : Native Data := do
  let ciphertext ← ask (.secKeyCreateEncryptedData key plaintext)
  match ciphertext with
  | some ciphertext => pure ciphertext
  | none => fail (.enclave ("wrapping " ++ label ++ " failed"))

def getPublicKey : Native String := do
  let data ← keychainGet .pub
  match data.text with
  | some s => pure s
  | none => fail .badPublicKeyData

/-- One query matches the synced item and the local copy. -/
def deleteKey : Native Unit := do
  let _ ← ask (.secItemDelete [.ciphertext])
  let _ ← ask (.secItemDelete [.mnemonic])
  let _ ← ask (.secItemDelete [.pub])
  let _ ← ask (.secItemDelete [.seedVault true, .seedVault false])
  deleteEnclaveKey

def keychainSetSeed (data : Data) (synchronizable : Bool) : Native Unit :=
  keychainSet (.seedVault synchronizable) data

def keychainGetSeed (synchronizable : Bool) : Native Data := keychainGet (.seedVault synchronizable)

def storeRecoverySeed (mnemonic : String) : Native Unit :=
  let data := Data.plain (utf8 mnemonic)
  catching (keychainSetSeed data true) fun _ => do
    let _ ← tried (keychainSetSeed data false)
    pure ()

def loadRecoverySeedFrom : List Bool → Native (Option String)
  | [] => pure none
  | synchronizable :: rest => do
    let data ← tried (keychainGetSeed synchronizable)
    match data.bind Data.text with
    | some mnemonic => pure (some mnemonic)
    | none => loadRecoverySeedFrom rest

def loadRecoverySeed : Native (Option String) := loadRecoverySeedFrom [true, false]

def cancelled (code : Option Int) : Bool :=
  code = some (-128) || code = some (-2) || code = some errSecAuthFailed

def unwrap (key : Nat) (data : Data) (label : String) : Native Bytes := do
  let plaintext ← ask (.secKeyCreateDecryptedData key data)
  match plaintext with
  | .ok plaintext => pure plaintext
  | .error code =>
    if cancelled code then fail .authenticationCancelled
    else fail (.enclave ("unwrapping " ++ label ++ " failed (" ++ toString (code.getD 0) ++ ")"))

def revealMnemonic (reason : String) : Native String := do
  let enclaveKey ← loadEnclaveKey reason
  let ciphertext ← keychainGet .mnemonic
  let plaintext ← unwrap enclaveKey ciphertext "the recovery phrase"
  match ofUtf8 plaintext with
  | some mnemonic => pure mnemonic
  | none => fail (.enclave "stored recovery phrase is corrupt")

section WithKit

variable (kit : Kit)

def rawRepresentation (bytes : Bytes) : Native PrivateKey :=
  if h : bytes.length = 32 then pure ⟨bytes, h⟩
    else attempt (.error (.thrown (.cryptoKit kit.sizeError)))

def address (privateKey : PrivateKey) : Option String := Base58.encode (kit.publicKey privateKey).1

def establish (privateKey : Bytes) (mnemonic : String) : Native String := do
  let signingKey ← rawRepresentation kit privateKey
  let address ← orTrap (address kit signingKey)
  let enclaveKey ← createEnclaveKey kit.simulator
  let derived ← ask (.secKeyCopyPublicKey enclaveKey)
  require derived (.enclave "could not derive enclave public key")
  let supported ← ask (.secKeyIsAlgorithmSupported enclaveKey)
  require supported (.enclave "ECIES not supported by enclave key")
  let keyCiphertext ← wrap privateKey enclaveKey "the private key"
  let phraseCiphertext ← wrap (utf8 mnemonic) enclaveKey "the recovery phrase"
  keychainSet .ciphertext keyCiphertext
  keychainSet .mnemonic phraseCiphertext
  keychainSet .pub (.plain (utf8 address))
  pure address

/-- The random bytes stay zero if the source fails; its status is not looked at. -/
def generate : Native String := do
  let entropy ← ask .secRandomCopyBytes
  orTrap (Mnemonic.encode kit.toPrimitives entropy.1)

def generateKeyPair : Native (String × String) := do
  let mnemonic ← generate kit
  let privateKey ← orTrap (Mnemonic.solanaPrivateKey kit.toPrimitives mnemonic "")
  let address ← establish kit privateKey mnemonic
  storeRecoverySeed mnemonic
  pure (address, mnemonic)

def validate (mnemonic : String) : Native Unit :=
  match Mnemonic.validate kit.toPrimitives mnemonic with
  | .ok () => pure ()
  | .error (.thrown _) => fail .invalidMnemonic
  | .error .trap => attempt (.error .trap)

def restore (mnemonic : String) : Native String := do
  validate kit mnemonic
  let privateKey ← orTrap (Mnemonic.solanaPrivateKey kit.toPrimitives mnemonic "")
  let address ← establish kit privateKey mnemonic
  storeRecoverySeed mnemonic
  pure address

structure Loaded where
  address : String
  recovered : Bool
  deriving DecidableEq

def loadOrRecover : Native (Option Loaded) := do
  let stored ← tried getPublicKey
  match stored with
  | some address => pure (some ⟨address, false⟩)
  | none =>
    let seed ← loadRecoverySeed
    match seed with
    | none => pure none
    | some mnemonic =>
      let privateKey ← orTrap (Mnemonic.solanaPrivateKey kit.toPrimitives mnemonic "")
      let address ← establish kit privateKey mnemonic
      pure (some ⟨address, true⟩)

def signMessage (message : Bytes) (reason : String) : Native Signature := do
  let enclaveKey ← loadEnclaveKey reason
  let ciphertext ← keychainGet .ciphertext
  let plaintext ← unwrap enclaveKey ciphertext "the private key"
  let signingKey ← rawRepresentation kit plaintext
  let signature ← ask (.signature signingKey.1 message)
  match signature with
  | some signature => pure signature
  | none => attempt (.error (.thrown (.cryptoKit kit.signingError)))

end WithKit

section Calls

variable {P : Call → Prop} {α : Type}

theorem calls_catching {x : Native α} {handler : NativeError → Native α} (h : x.run.Calls P)
    (hh : ∀ e, (handler e).run.Calls P) : (catching x handler).run.Calls P := by
  refine h.bind fun r => ?_
  match r with
  | .ok a => trivial
  | .error (.thrown e) => exact hh e
  | .error .trap => trivial

theorem calls_require {holds : Bool} {e : SecureSignerError} : (require holds e).run.Calls P := by
  cases holds <;> trivial

theorem calls_keychainSet {item : Item} {data : Data} (hdelete : P (.secItemDelete [item]))
    (hadd : P (.secItemAdd item data)) : (keychainSet item data).run.Calls P :=
  calls_bind (calls_request hdelete) fun _ => calls_bind (calls_request hadd) fun _ => calls_require

theorem calls_makeWrappingKey {flags : List AccessFlag} {inSecureEnclave : Bool}
    (haccess : P (.secAccessControlCreateWithFlags flags))
    (hcreate : P (.secKeyCreateRandomKey flags inSecureEnclave)) :
    (makeWrappingKey flags inSecureEnclave).run.Calls P := by
  refine calls_bind (calls_request haccess) fun _ => calls_bind calls_require fun _ => ?_
  refine calls_bind (calls_request hcreate) fun key => ?_
  cases key <;> trivial

theorem calls_wrap {plaintext : Bytes} {key : Nat} {label : String}
    (h : P (.secKeyCreateEncryptedData key plaintext)) :
    (wrap plaintext key label).run.Calls P := by
  refine calls_bind (calls_request h) fun ciphertext => ?_
  cases ciphertext <;> trivial

theorem calls_found {value : OSStatus × Option α} : (found value).run.Calls P := by
  obtain ⟨status, value⟩ := value
  by_cases hnone : status = errSecItemNotFound
  · simp only [found, hnone, if_true]
    trivial
  · simp only [found, hnone, if_false]
    cases value with
    | none => trivial
    | some a =>
      by_cases hs : status = errSecSuccess
      · simp only [hs, if_true]
        trivial
      · simp only [hs, if_false]
        trivial

theorem calls_keychainGet {item : Item} (h : P (.secItemCopyMatching item)) :
    (keychainGet item).run.Calls P :=
  calls_bind (calls_request h) fun _ => calls_found

theorem calls_unwrap {key : Nat} {data : Data} {label : String}
    (h : P (.secKeyCreateDecryptedData key data)) :
    (unwrap key data label).run.Calls P := by
  refine calls_bind (calls_request h) fun plaintext => ?_
  cases plaintext with
  | ok plaintext => trivial
  | error code =>
    dsimp only
    split <;> trivial

theorem calls_rawRepresentation {kit : Kit} {bytes : Bytes} :
    (rawRepresentation kit bytes).run.Calls P := by
  unfold rawRepresentation
  split <;> trivial

theorem calls_firstKey {lastError : NativeError} {attempts : List (List AccessFlag × Bool)} :
    (firstKey lastError attempts).run.Calls fun c => c.establishing = true := by
  induction attempts generalizing lastError with
  | nil => trivial
  | cons a rest ih => exact calls_catching (calls_makeWrappingKey rfl rfl) fun e => ih

theorem calls_establish (kit : Kit) (privateKey : Bytes) (phrase : String) :
    (establish kit privateKey phrase).run.Calls fun c => c.establishing = true := by
  refine calls_bind calls_rawRepresentation fun signingKey => calls_bind trivial fun address =>
    calls_bind ?_ fun enclaveKey => ?_
  · refine calls_bind (calls_bind (calls_request rfl) fun _ => trivial) fun _ => ?_
    exact calls_bind (calls_request rfl) fun _ =>
      calls_bind (calls_request rfl) fun _ => calls_firstKey
  · refine calls_bind (calls_request rfl) fun _ => calls_bind calls_require fun _ => ?_
    refine calls_bind (calls_request rfl) fun _ => calls_bind calls_require fun _ => ?_
    refine calls_bind (calls_wrap rfl) fun _ => calls_bind (calls_wrap rfl) fun _ => ?_
    refine calls_bind (calls_keychainSet rfl rfl) fun _ =>
      calls_bind (calls_keychainSet rfl rfl) fun _ => ?_
    exact calls_bind (calls_keychainSet rfl rfl) fun _ => trivial

end Calls

section Spec

variable {S V α : Type} {exec : S → (c : Call) → V → S × Reply c} {Ok : Step Call S V → Prop}
    {I : S → Prop} {s : S}

/-- `T` of what was thrown, `D` of a trap. -/
def OnHalt {ε : Type} (T : ε → S → Prop) (D : S → Prop) : Halt ε → S → Prop
  | .thrown e => T e
  | .trap => D

theorem spec_catching {x : Native α} {handler : NativeError → Native α}
    {E : Halt NativeError → S → Prop}
    {Q : α → S → Prop}
    (h : x.run.Spec exec Ok I
      (Ends (OnHalt (fun e => (handler e).run.Spec exec Ok I (Ends E Q)) (E .trap)) Q) s) :
    (catching x handler).run.Spec exec Ok I (Ends E Q) s := by
  refine Prog.Spec.bind (h.mono fun r s hI hr => ?_)
  match r with
  | .ok a => exact ⟨hI, hr⟩
  | .error (.thrown e) => exact hr
  | .error .trap => exact ⟨hI, hr⟩

theorem spec_tried {x : Native α} {E : Halt NativeError → S → Prop} {Q : Option α → S → Prop}
    (h : x.run.Spec exec Ok I (Ends (OnHalt (fun _ => Q none) (E .trap)) fun a => Q (some a)) s) :
    (tried x).run.Spec exec Ok I (Ends E Q) s := by
  refine spec_catching (spec_bind (h.mono fun r s hI hr => ?_))
  match r with
  | .ok a => exact ⟨hI, hr⟩
  | .error (.thrown e) => exact ⟨hI, hr⟩
  | .error .trap => exact hr

end Spec

end SecureSigner

end Xend.Sdk
