import Xend.XendWallet

/-! The method channel between Dart and the signer: what a call carries, how the
plugin takes it apart, and what the Dart side makes of the reply. -/

namespace Xend.Sdk

open Framing Interaction

/-- What the standard codec carries; typed data as its raw bytes. -/
inductive StandardValue where
  | null
  | bool (b : Bool)
  | number (text : String)
  | string (s : String)
  | typedData (bytes : Bytes)
  | list (items : List StandardValue)
  | map (entries : List (StandardValue × StandardValue))

namespace StandardValue

def asString : StandardValue → Option String
  | string s => some s
  | _ => none

def asTypedData : StandardValue → Option Bytes
  | typedData bytes => some bytes
  | _ => none

def keyed (entry : StandardValue × StandardValue) : Option (String × StandardValue) :=
  entry.1.asString.map fun key => (key, entry.2)

/-- `as? [String: Any] ?? [:]`. -/
def stringKeyed : StandardValue → List (String × StandardValue)
  | map entries => (entries.mapM keyed).getD []
  | _ => []

def ofStrings (entries : List (String × StandardValue)) : StandardValue :=
  map (entries.map fun e => (string e.1, e.2))

end StandardValue

structure FlutterMethodCall where
  method : String
  arguments : StandardValue

namespace XendSecurePlugin

abbrev Arguments := List (String × StandardValue)

def string (args : Arguments) (key : String) : Except SecureSignerError String :=
  ((args.lookup key).bind StandardValue.asString).elim (.error (.badArguments key)) .ok

def typedData (args : Arguments) (key : String) : Except SecureSignerError Bytes :=
  ((args.lookup key).bind StandardValue.asTypedData).elim (.error (.badArguments key)) .ok

def reasonOr (args : Arguments) (standard : String) : String :=
  ((args.lookup "reason").bind StandardValue.asString).getD standard

def keyPair (result : String × String) : StandardValue :=
  .ofStrings [("address", .string result.1), ("mnemonic", .string result.2)]

def loaded : Option SecureSigner.Loaded → StandardValue
  | none => .null
  | some l => .ofStrings [("address", .string l.address), ("recovered", .bool l.recovered)]

variable (kit : Kit)

/-- The wallet a call is for and the work it starts; `none` stands for
`FlutterMethodNotImplemented`. -/
def dispatch (call : FlutterMethodCall) :
    Except SecureSignerError (Option (String × Native StandardValue)) :=
  let args := call.arguments.stringKeyed
  match call.method with
  | "generateKeyPair" => do
    let walletId ← string args "walletId"
    .ok (some (walletId, keyPair <$> SecureSigner.generateKeyPair kit))
  | "restore" => do
    let walletId ← string args "walletId"
    let mnemonic ← string args "mnemonic"
    .ok (some (walletId, StandardValue.string <$> SecureSigner.restore kit mnemonic))
  | "loadOrRecover" => do
    let walletId ← string args "walletId"
    .ok (some (walletId, loaded <$> SecureSigner.loadOrRecover kit))
  | "revealMnemonic" => do
    let walletId ← string args "walletId"
    let reason := reasonOr args "Reveal your recovery phrase"
    .ok (some (walletId, StandardValue.string <$> SecureSigner.revealMnemonic reason))
  | "getPublicKey" => do
    let walletId ← string args "walletId"
    .ok (some (walletId, StandardValue.string <$> SecureSigner.getPublicKey))
  | "signMessage" => do
    let walletId ← string args "walletId"
    let bytes ← typedData args "bytes"
    let reason := reasonOr args "Approve transaction"
    .ok (some (walletId,
      (fun signature => .typedData signature.1) <$> SecureSigner.signMessage kit bytes reason))
  | "deleteKey" => do
    let walletId ← string args "walletId"
    .ok (some (walletId, (fun _ => .null) <$> SecureSigner.deleteKey))
  | _ => .ok none

inductive ChannelReply where
  | success (value : StandardValue)
  | failure (e : PlatformException)
  | notImplemented

/-- A trap takes the process down, so nothing is replied. -/
def replyTo : Except (Halt NativeError) StandardValue → Option ChannelReply
  | .ok value => some (.success value)
  | .error (.thrown e) => some (.failure (flutterError e))
  | .error .trap => none

section Handle

variable {S V : Type} (exec : S → (c : Call) → V → S × Reply c)

/-- One call, on phones that keep each wallet under its own identifier. -/
def handle (phones : String → S) (call : FlutterMethodCall) (vs : List V) :
    (String → S) × Option ChannelReply :=
  match dispatch kit call with
  | .error e => (phones, some (.failure (flutterError (.secureSigner e))))
  | .ok none => (phones, some .notImplemented)
  | .ok (some (walletId, work)) =>
    let r := work.run.run exec (phones walletId) vs
    (Function.update phones walletId r.1, r.2.bind replyTo)

def serve (phones : String → S) : List (FlutterMethodCall × List V) →
    (String → S) × List (FlutterMethodCall × Option ChannelReply)
  | [] => (phones, [])
  | (call, vs) :: rest =>
    let r := handle kit exec phones call vs
    let r' := serve r.1 rest
    (r'.1, (call, r.2) :: r'.2)

end Handle

/-- The wallet whose items a call may reach. -/
def walletOf (call : FlutterMethodCall) : Option String :=
  ((dispatch kit call).toOption.bind id).map Prod.fst

def names (call : FlutterMethodCall) (walletId : String) : Bool :=
  decide (walletOf kit call = some walletId)

inductive Kind where
  | text
  | bytes

/-- The arguments without which a method does nothing, in the order of the checks. -/
def required : String → Option (List (String × Kind))
  | "generateKeyPair" => some [("walletId", .text)]
  | "restore" => some [("walletId", .text), ("mnemonic", .text)]
  | "loadOrRecover" => some [("walletId", .text)]
  | "revealMnemonic" => some [("walletId", .text)]
  | "getPublicKey" => some [("walletId", .text)]
  | "signMessage" => some [("walletId", .text), ("bytes", .bytes)]
  | "deleteKey" => some [("walletId", .text)]
  | _ => none

def Missing (args : Arguments) : String × Kind → Prop
  | (key, .text) => (args.lookup key).bind StandardValue.asString = none
  | (key, .bytes) => (args.lookup key).bind StandardValue.asTypedData = none

instance (args : Arguments) (k : String × Kind) : Decidable (Missing args k) :=
  match k with
  | (_, .text) => decidable_of_iff _ Option.isNone_iff_eq_none
  | (_, .bytes) => decidable_of_iff _ Option.isNone_iff_eq_none

/-- Answered without any work: no such method, or the first argument that is missing. -/
def Turned (call : FlutterMethodCall) : ChannelReply → Prop
  | .notImplemented => required call.method = none
  | .failure e => ∃ keys key kind, required call.method = some keys ∧
    keys.find? (fun k => decide (Missing call.arguments.stringKeyed k)) = some (key, kind) ∧
    e = ⟨"bad_arguments", "Missing/invalid argument: " ++ key⟩
  | .success _ => False

/-- Started for the wallet it names, or turned down for a reason. -/
def Dispatched (call : FlutterMethodCall) : Prop :=
  (∃ walletId work, dispatch kit call = .ok (some (walletId, work)) ∧
    string call.arguments.stringKeyed "walletId" = .ok walletId) ∨
  (dispatch kit call = .ok none ∧ required call.method = none) ∨
  ∃ keys key kind, required call.method = some keys ∧
    keys.find? (fun k => decide (Missing call.arguments.stringKeyed k)) = some (key, kind) ∧
    dispatch kit call = .error (.badArguments key)

section Dispatch

variable {kit : Kit} {args : Arguments} {key : String}

theorem string_of_missing (h : Missing args (key, .text)) :
    string args key = .error (.badArguments key) := by
  have hnone : (args.lookup key).bind StandardValue.asString = none := h
  rw [string, hnone]
  rfl

theorem string_of_present (h : ¬ Missing args (key, .text)) : ∃ s, string args key = .ok s := by
  obtain ⟨s, hs⟩ : ∃ s, (args.lookup key).bind StandardValue.asString = some s :=
    Option.ne_none_iff_exists'.mp h
  exact ⟨s, by rw [string, hs]; rfl⟩

theorem typedData_of_missing (h : Missing args (key, .bytes)) :
    typedData args key = .error (.badArguments key) := by
  have hnone : (args.lookup key).bind StandardValue.asTypedData = none := h
  rw [typedData, hnone]
  rfl

theorem typedData_of_present (h : ¬ Missing args (key, .bytes)) :
    ∃ b, typedData args key = .ok b := by
  obtain ⟨b, hb⟩ : ∃ b, (args.lookup key).bind StandardValue.asTypedData = some b :=
    Option.ne_none_iff_exists'.mp h
  exact ⟨b, by rw [typedData, hb]; rfl⟩

theorem dispatched_of_wallet {call : FlutterMethodCall} {work : String → Native StandardValue}
    (hkeys : required call.method = some [("walletId", .text)])
    (h : dispatch kit call = (string call.arguments.stringKeyed "walletId" >>= fun walletId =>
      .ok (some (walletId, work walletId)))) : Dispatched kit call := by
  by_cases hwallet : Missing call.arguments.stringKeyed ("walletId", .text)
  · refine .inr
      (.inr ⟨_, "walletId", .text, hkeys, List.find?_cons_of_pos (decide_eq_true hwallet), ?_⟩)
    rw [h, string_of_missing hwallet]
    rfl
  · obtain ⟨walletId, hid⟩ := string_of_present hwallet
    refine .inl ⟨walletId, work walletId, ?_, hid⟩
    rw [h, hid]
    rfl

theorem dispatched_of_second {α : Type} {call : FlutterMethodCall} {kind : Kind}
    {value : Except SecureSignerError α}
    {work : String → α → Native StandardValue}
    (hkeys : required call.method = some [("walletId", .text), (key, kind)])
    (hmissing : Missing call.arguments.stringKeyed (key, kind) → value = .error (.badArguments key))
    (hpresent : ¬ Missing call.arguments.stringKeyed (key, kind) → ∃ a, value = .ok a)
    (h : dispatch kit call =
      (string call.arguments.stringKeyed "walletId" >>= fun walletId => value >>= fun a =>
      .ok (some (walletId, work walletId a)))) : Dispatched kit call := by
  by_cases hwallet : Missing call.arguments.stringKeyed ("walletId", .text)
  · refine .inr
      (.inr ⟨_, "walletId", .text, hkeys, List.find?_cons_of_pos (decide_eq_true hwallet), ?_⟩)
    rw [h, string_of_missing hwallet]
    rfl
  · obtain ⟨walletId, hid⟩ := string_of_present hwallet
    by_cases hsecond : Missing call.arguments.stringKeyed (key, kind)
    · refine .inr (.inr ⟨_, key, kind, hkeys, ?_, ?_⟩)
      · rw [List.find?_cons_of_neg (by simpa using hwallet)]
        exact List.find?_cons_of_pos (decide_eq_true hsecond)
      · rw [h, hid, hmissing hsecond]
        rfl
    · obtain ⟨a, ha⟩ := hpresent hsecond
      refine .inl ⟨walletId, work walletId a, ?_, hid⟩
      rw [h, hid, ha]
      rfl

theorem dispatched (kit : Kit) (call : FlutterMethodCall) : Dispatched kit call := by
  obtain ⟨method, arguments⟩ := call
  by_cases hnone : required method = none
  · refine .inr (.inl ⟨?_, hnone⟩)
    unfold dispatch
    unfold required at hnone
    split at hnone
    case h_8 => rfl
    all_goals cases hnone
  · unfold required at hnone
    split at hnone
    · exact dispatched_of_wallet rfl rfl
    · exact dispatched_of_second rfl string_of_missing string_of_present rfl
    · exact dispatched_of_wallet rfl rfl
    · exact dispatched_of_wallet rfl rfl
    · exact dispatched_of_wallet rfl rfl
    · exact dispatched_of_second rfl typedData_of_missing typedData_of_present rfl
    · exact dispatched_of_wallet rfl rfl
    · exact absurd rfl hnone

end Dispatch

section Serving

variable {kit : Kit} {S V : Type} {exec : S → (c : Call) → V → S × Reply c}

theorem string_of_walletOf {call : FlutterMethodCall} {walletId : String}
    (h : walletOf kit call = some walletId) :
    string call.arguments.stringKeyed "walletId" = .ok walletId := by
  rcases dispatched kit call with ⟨id, work, hd, hid⟩ | ⟨hd, -⟩ | ⟨_, _, _, -, -, hd⟩
  · obtain rfl : id = walletId := by simpa [walletOf, hd, Except.toOption] using h
    exact hid
  · simp [walletOf, hd, Except.toOption] at h
  · simp [walletOf, hd, Except.toOption] at h

theorem handle_named {phones phones' : String → S} {call : FlutterMethodCall}
    {walletId : String} (vs : List V)
    (h : walletOf kit call = some walletId) (hsame : phones walletId = phones' walletId) :
    (handle kit exec phones call vs).1 walletId = (handle kit exec phones' call vs).1 walletId ∧
      (handle kit exec phones call vs).2 = (handle kit exec phones' call vs).2 := by
  rcases dispatched kit call with ⟨id, work, hd, -⟩ | ⟨hd, -⟩ | ⟨_, _, _, -, -, hd⟩
  · obtain rfl : id = walletId := by simpa [walletOf, hd, Except.toOption] using h
    simp only [handle, hd, hsame, Function.update_self, and_self]
  · simp [walletOf, hd, Except.toOption] at h
  · simp [walletOf, hd, Except.toOption] at h

theorem handle_other {call : FlutterMethodCall} {walletId : String}
    (phones : String → S) (vs : List V)
    (h : walletOf kit call ≠ some walletId) :
    (handle kit exec phones call vs).1 walletId = phones walletId := by
  rcases dispatched kit call with ⟨id, work, hd, -⟩ | ⟨hd, -⟩ | ⟨_, _, _, -, -, hd⟩
  · have hne : walletId ≠ id := by
      rintro rfl
      exact h (by simp [walletOf, hd, Except.toOption])
    simp only [handle, hd, Function.update_of_ne hne]
  · rw [handle, hd]
  · rw [handle, hd]

/-- For one wallet only the calls that name it count. -/
theorem serve_own {phones phones' : String → S} {walletId : String}
    (calls : List (FlutterMethodCall × List V))
    (h : phones walletId = phones' walletId) :
    (serve kit exec phones calls).1 walletId =
        (serve kit exec phones' (calls.filter fun c => names kit c.1 walletId)).1 walletId ∧
      (serve kit exec phones calls).2.filter (fun r => names kit r.1 walletId) =
        (serve kit exec phones' (calls.filter fun c => names kit c.1 walletId)).2 := by
  induction calls generalizing phones phones' with
  | nil => exact ⟨h, rfl⟩
  | cons c rest ih =>
    obtain ⟨call, vs⟩ := c
    by_cases hw : walletOf kit call = some walletId
    · have hnames : names kit call walletId = true := decide_eq_true hw
      obtain ⟨hstate, hreply⟩ : _ ∧
          (handle kit exec phones call vs).2 = (handle kit exec phones' call vs).2 :=
        handle_named vs hw h
      obtain ⟨hlast, hrest⟩ := ih hstate
      simp only [serve, List.filter_cons, hnames, if_true]
      exact ⟨hlast, by rw [hrest, hreply]⟩
    · have hnames : names kit call walletId = false := decide_eq_false hw
      have hkept : (handle kit exec phones call vs).1 walletId = phones walletId :=
        handle_other phones vs hw
      simp only [serve, List.filter_cons, hnames, Bool.false_eq_true, if_false]
      exact ih (hkept.trans h)

end Serving

end XendSecurePlugin

/-- What a call of the channel ends in on the Dart side, if not in a value. -/
inductive ChannelError where
  | platform (e : PlatformException)
  | missingPlugin
  | typeError

namespace SecureChannel

abbrev Result : MethodCall → Type
  | .generateKeyPair => String × String
  | .restore _ => String
  | .loadOrRecover => Option SecureSigner.Loaded
  | .revealMnemonic _ => String
  | .signMessage _ _ => Bytes
  | .deleteKey => Unit

def call (walletId : String) : MethodCall → FlutterMethodCall
  | .generateKeyPair => ⟨"generateKeyPair", .ofStrings [("walletId", .string walletId)]⟩
  | .restore mnemonic =>
      ⟨"restore", .ofStrings [("walletId", .string walletId), ("mnemonic", .string mnemonic)]⟩
  | .loadOrRecover => ⟨"loadOrRecover", .ofStrings [("walletId", .string walletId)]⟩
  | .revealMnemonic reason =>
    ⟨"revealMnemonic", .ofStrings [("walletId", .string walletId), ("reason", .string reason)]⟩
  | .signMessage bytes reason =>
    ⟨"signMessage",
      .ofStrings [("walletId", .string walletId), ("bytes", .typedData bytes),
        ("reason", .string reason)]⟩
  | .deleteKey => ⟨"deleteKey", .ofStrings [("walletId", .string walletId)]⟩

def member (entries : List (StandardValue × StandardValue)) (key : String) : StandardValue :=
  ((entries.find? fun e => e.1.asString == some key).map Prod.snd).getD .null

def asString (value : StandardValue) : Except ChannelError String :=
  value.asString.elim (.error .typeError) .ok

/-- `as bool? ?? false`. -/
def asFlag : StandardValue → Except ChannelError Bool
  | .bool b => .ok b
  | .null => .ok false
  | _ => .error .typeError

def decode : (m : MethodCall) → StandardValue → Except ChannelError (Result m)
  | .generateKeyPair, .map entries => do
    let address ← asString (member entries "address")
    let mnemonic ← asString (member entries "mnemonic")
    .ok (address, mnemonic)
  | .generateKeyPair, _ => .error .typeError
  | .restore _, value => asString value
  | .loadOrRecover, .null => .ok none
  | .loadOrRecover, .map entries => do
    let address ← asString (member entries "address")
    let recovered ← asFlag (member entries "recovered")
    .ok (some ⟨address, recovered⟩)
  | .loadOrRecover, _ => .error .typeError
  | .revealMnemonic _, value => asString value
  | .signMessage _ _, value => value.asTypedData.elim (.error .typeError) .ok
  | .deleteKey, _ => .ok ()

/-- The signer's function behind a method. -/
def native (kit : Kit) : (m : MethodCall) → Native (Result m)
  | .generateKeyPair => SecureSigner.generateKeyPair kit
  | .restore mnemonic => SecureSigner.restore kit mnemonic
  | .loadOrRecover => SecureSigner.loadOrRecover kit
  | .revealMnemonic reason => SecureSigner.revealMnemonic reason
  | .signMessage bytes reason => Subtype.val <$> SecureSigner.signMessage kit bytes reason
  | .deleteKey => SecureSigner.deleteKey

/-- The value a method's result travels as. -/
def encode : (m : MethodCall) → Result m → StandardValue
  | .generateKeyPair, result => XendSecurePlugin.keyPair result
  | .restore _, address => .string address
  | .loadOrRecover, result => XendSecurePlugin.loaded result
  | .revealMnemonic _, mnemonic => .string mnemonic
  | .signMessage _ _, signature => .typedData signature
  | .deleteKey, _ => .null

def platformFailure : Halt NativeError → Halt ChannelError
  | .thrown e => .thrown (.platform (flutterError e))
  | .trap => .trap

/-- What the platform does with a call, as the Dart side sees it. -/
def platform (kit : Kit) (call : FlutterMethodCall) : Acting ChannelError StandardValue :=
  match XendSecurePlugin.dispatch kit call with
  | .error e => attempt (.error (.thrown (.platform (flutterError (.secureSigner e)))))
  | .ok none => attempt (.error (.thrown .missingPlugin))
  | .ok (some (_, work)) => ExceptT.adapt platformFailure work

def perform (kit : Kit) (walletId : String) (m : MethodCall) : Acting ChannelError (Result m) := do
  let () ← ask (.invokeMethod m)
  let value ← platform kit (call walletId m)
  attempt ((decode m value).mapError .thrown)

/-- What gets out of a wallet method: it maps platform exceptions only. -/
inductive Escape where
  | dart (e : Halt DartError)
  | missingPlugin

def escape : Halt ChannelError → Escape
  | .thrown (.platform e) => .dart (.thrown (.xend (mapNativeError e)))
  | .thrown .typeError => .dart (.thrown .typeError)
  | .thrown .missingPlugin => .missingPlugin
  | .trap => .dart .trap

section Transparency

variable {kit : Kit} {walletId : String}

theorem decode_encode (m : MethodCall) (result : Result m) :
    decode m (encode m result) = .ok result := by
  cases m with
  | loadOrRecover =>
    cases result with
    | none => rfl
    | some l => rfl
  | _ => rfl

theorem dispatch_call (kit : Kit) (walletId : String) (m : MethodCall) :
    XendSecurePlugin.dispatch kit (call walletId m) =
      .ok (some (walletId, encode m <$> native kit m)) := by
  cases m with
  | signMessage bytes reason =>
    have hwork : (fun signature : Signature => StandardValue.typedData signature.1) <$>
        SecureSigner.signMessage kit bytes reason =
          encode (.signMessage bytes reason) <$> native kit (.signMessage bytes reason) := by
      rw [native, Functor.map_map]
      rfl
    rw [← hwork]
    rfl
  | _ => rfl

/-- A value encoded where it is made and decoded where it arrives travels unnoticed. -/
theorem adapt_map_bind {α β ε δ : Type} (f : ε → δ) {g : α → β} {h : β → Except δ α}
    (hg : ∀ a, h (g a) = .ok a)
    (x : ExceptT ε (Prog Call Reply) α) :
    (ExceptT.adapt f (g <$> x) >>= fun b => attempt (h b)) = ExceptT.adapt f x := by
  apply ExceptT.ext
  rw [run_bind, ExceptT.run_adapt, ExceptT.run_adapt, ExceptT.run_map, Functor.map_map,
    bind_map_left, map_eq_pure_bind]
  refine congrArg (x.run >>= ·) (funext fun r => ?_)
  cases r with
  | error e => rfl
  | ok a => exact congrArg Prog.done (hg a)

theorem adapt_adapt {α ε δ ζ : Type} (g : δ → ζ) (f : ε → δ) (x : ExceptT ε (Prog Call Reply) α) :
    ExceptT.adapt g (ExceptT.adapt f x) = ExceptT.adapt (g ∘ f) x := by
  apply ExceptT.ext
  rw [ExceptT.run_adapt, ExceptT.run_adapt, ExceptT.run_adapt, Functor.map_map]
  refine congrArg (· <$> x.run) (funext fun r => ?_)
  cases r <;> rfl

theorem perform_eq (kit : Kit) (walletId : String) (m : MethodCall) :
    perform kit walletId m = (do
      let () ← ask (.invokeMethod m)
      ExceptT.adapt platformFailure (native kit m)) := by
  have hdecode : ∀ result, (decode m (encode m result)).mapError Halt.thrown = .ok result := by
    intro result
    rw [decode_encode]
    rfl
  have hcrossed :=
    adapt_map_bind (g := encode m)
      (h := fun value => (decode m value).mapError .thrown) platformFailure
    hdecode (native kit m)
  rw [perform, platform, dispatch_call]
  exact congrArg (ask (.invokeMethod m) >>= ·) (funext fun _ => hcrossed)

/-- Over the channel every method runs the signer's own function for the wallet it names,
with its arguments, result and errors as they are. -/
theorem channel_transparent (kit : Kit) (walletId : String) (m : MethodCall) :
    XendSecurePlugin.walletOf kit (call walletId m) = some walletId ∧
      ExceptT.adapt escape (perform kit walletId m) =
        ExceptT.adapt Escape.dart (invoke m (native kit m)) := by
  constructor
  · rw [XendSecurePlugin.walletOf, dispatch_call]
    rfl
  · have hescape : escape ∘ platformFailure = Escape.dart ∘ acrossChannel := by
      funext e
      cases e <;> rfl
    have hadapt : ExceptT.adapt escape (ExceptT.adapt platformFailure (native kit m)) =
        ExceptT.adapt Escape.dart (ExceptT.adapt acrossChannel (native kit m)) := by
      rw [adapt_adapt, hescape, adapt_adapt]
    rw [perform_eq]
    exact congrArg (Prog.call _) (funext fun _ => congrArg ExceptT.run hadapt)

end Transparency

end SecureChannel

end Xend.Sdk
