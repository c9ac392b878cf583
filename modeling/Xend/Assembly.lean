import Xend.SigningBoundary
import Xend.Validation

/-! The way of a transfer from the built message to the wire transaction: how many
signatures the message asks for, in which order `send` puts them, and what the
validator makes of the result. -/

namespace Xend

open Framing Interaction

/-- What the key signs verifies for it. -/
def Keypair.Signs (k : Keypair) (sdk : SolanaSdk) (message : Bytes) : Prop :=
  (k.signMessage message).length = 64 ∧
    sdk.verifySignature (k.signMessage message) k.pubkey message = true

theorem Message.signers_length {m : Message}
    (h : m.header.numRequiredSignatures.toNat ≤ m.accountKeys.length) :
    m.signers.length = m.header.numRequiredSignatures.toNat := by
  rw [signers, List.length_take, min_eq_left h]

theorem Message.signers_eq {m : Message} {payer sender : Pubkey} (hnodup : m.accountKeys.Nodup)
    (hhead : m.signers.head? = some payer)
    (hmem : ∀ key, key ∈ m.signers ↔ payer = key ∨ sender = key) :
    m.signers = payer :: (if payer = sender then [] else [sender]) := by
  have hsigners : m.signers.Nodup := hnodup.sublist (List.take_sublist _ _)
  cases hm : m.signers with
  | nil =>
    rw [hm] at hhead
    cases hhead
  | cons key rest =>
    rw [hm] at hhead hmem hsigners
    obtain rfl : key = payer := Option.some.inj hhead
    obtain ⟨hfirst, hrest⟩ := List.nodup_cons.mp hsigners
    have hothers : ∀ other, other ∈ rest ↔ sender = other ∧ key ≠ sender := by
      intro other
      have hother := hmem other
      rw [List.mem_cons] at hother
      constructor
      · intro ho
        have hne : key ≠ other := fun he => hfirst (he ▸ ho)
        have hsender := (hother.mp (.inr ho)).resolve_left hne
        exact ⟨hsender, hsender ▸ hne⟩
      · rintro ⟨rfl, hne⟩
        exact (hother.mpr (.inr rfl)).resolve_left fun he => hne he.symm
    refine congrArg (List.cons key) ?_
    split
    · rename_i he
      exact List.eq_nil_iff_forall_not_mem.mpr fun other ho => ((hothers other).mp ho).2 he
    · rename_i hne
      refine List.perm_singleton.mp
        ((List.perm_ext_iff_of_nodup hrest (List.nodup_singleton sender)).mpr fun other => ?_)
      rw [hothers, List.mem_singleton, eq_comm]
      exact and_iff_left hne

namespace Sdk

namespace XendWallet

open BackendClient

theorem encodeShortVecLength_eq {n : Nat} (h : n < 0x10000) :
    encodeShortVecLength n = compactU16 n := by
  have hlow : n % 128 + 128 < 256 := by omega
  by_cases h1 : n < 0x80
  · have hz : n / 128 = 0 := by omega
    have hm : n % 128 = n := by omega
    rw [encodeShortVecLength, dif_pos hz, compactU16, if_pos h1, hm]
  · have hz : ¬ n / 128 = 0 := by omega
    rw [encodeShortVecLength, dif_neg hz, encodeShortVecLength]
    by_cases h2 : n < 0x4000
    · have hz' : n / 128 / 128 = 0 := by omega
      have hm : n / 128 % 128 = n / 128 := by omega
      rw [dif_pos hz', hm, compactU16, if_neg h1, if_pos h2]
    · have hz' : ¬ n / 128 / 128 = 0 := by omega
      have hz'' : n / 128 / 128 / 128 = 0 := by omega
      have hm : n / 128 / 128 % 128 = n / 16384 := by omega
      rw [dif_neg hz', encodeShortVecLength, dif_pos hz'', hm, compactU16, if_neg h1, if_neg h2]

/-- The signatures of a transfer: the fee payer's, if there is one, and the sender's. -/
def signatures (u : UnsignedTx) (signature : Signature) : List Bytes :=
  u.feePayerSignature.toList ++ [signature.1]

/-- The message asks for the payer's signature and, of another key, the sender's; with
both the transaction is complete, in order and valid. -/
def Agrees (adapter : SolanaAdapter) (sender : Pubkey) (u : UnsignedTx) : Prop :=
  ∃ m, adapter.sdk.deserializeMessage u.message = some m ∧
    m.signers = adapter.payer sender :: (if adapter.payer sender = sender then [] else [sender]) ∧
    ∀ signature : Signature, adapter.sdk.verifySignature signature.1 sender u.message = true →
      (signatures u signature).length = m.header.numRequiredSignatures.toNat ∧
      List.Forall₂ (fun s key => adapter.sdk.verifySignature s key u.message = true)
        (signatures u signature) m.signers ∧
      adapter.sdk.validateSigned (assembleSignedTransaction (signatures u signature) u.message) =
        .ok ()

section Contract

variable {adapter : SolanaAdapter} {rpc : BuildRpc} {intent : TransferIntent} {u : UnsignedTx}

theorem validateSigned_assembled {ixs : List Instruction} {payer : Pubkey}
    {bh : Hash} {sigs : List Bytes}
    (hwire : adapter.sdk.WireFormat) (hc : Compilable ixs payer) (hsize : ∀ s ∈ sigs, s.length = 64)
    (hvalid : List.Forall₂ (fun s key => adapter.sdk.verifySignature s key
      (adapter.sdk.serialize (adapter.sdk.newWithBlockhash ixs payer bh)) = true) sigs
      (adapter.sdk.newWithBlockhash ixs payer bh).signers) :
    adapter.sdk.validateSigned
      (assembleSignedTransaction sigs
        (adapter.sdk.serialize (adapter.sdk.newWithBlockhash ixs payer bh))) = .ok () := by
  have hsigners := Message.signers_length (hwire.required_le ixs payer bh hc)
  have hlen : sigs.length =
      (adapter.sdk.newWithBlockhash ixs payer bh).header.numRequiredSignatures.toNat :=
    hvalid.length_eq.trans hsigners
  have hshort : sigs.length < 0x10000 := by
    have hbyte := (adapter.sdk.newWithBlockhash ixs payer bh).header.numRequiredSignatures.toNat_lt
    omega
  rw [assembleSignedTransaction, encodeShortVecLength_eq hshort]
  refine SolanaSdk.validateSigned_eq_ok.mpr ⟨_,
    hwire.deserialize_transaction ixs payer bh sigs hc hshort hsize, ?_⟩
  rintro ⟨i, sig, key, hs, hk, hforged⟩
  have hi : i < sigs.length := (List.getElem?_eq_some_iff.mp hs).1
  have hsigner : (adapter.sdk.newWithBlockhash ixs payer bh).signers[i]? = some key := by
    rw [Message.signers, List.getElem?_take_of_lt (hlen ▸ hi)]
    exact hk
  have hpair : (sig, key) ∈ sigs.zip (adapter.sdk.newWithBlockhash ixs payer bh).signers :=
    List.mem_of_getElem? (List.getElem?_zip_eq_some.mpr ⟨hs, hsigner⟩)
  have hgenuine := List.forall₂_zip hvalid hpair
  rw [hforged] at hgenuine
  cases hgenuine

theorem signatures_valid {sender : Pubkey} {signature : Signature}
    (hsponsor : u.feePayerSignature = adapter.feePayer.map fun k => k.signMessage u.message)
    (hne : ∀ k, adapter.feePayer = some k → k.pubkey ≠ sender)
    (hsigns : ∀ k, adapter.feePayer = some k → k.Signs adapter.sdk u.message)
    (hsignature : adapter.sdk.verifySignature signature.1 sender u.message = true) :
    (∀ s ∈ signatures u signature, s.length = 64) ∧
      List.Forall₂ (fun s key => adapter.sdk.verifySignature s key u.message = true)
        (signatures u signature)
        (adapter.payer sender :: (if adapter.payer sender = sender then [] else [sender])) := by
  cases hk : adapter.feePayer with
  | none =>
    have hself : adapter.payer sender = sender := by rw [SolanaAdapter.payer, hk]; rfl
    have hsigs : signatures u signature = [signature.1] := by rw [signatures, hsponsor, hk]; rfl
    rw [hsigs, hself, if_pos rfl]
    exact ⟨List.forall_mem_singleton.mpr signature.2, .cons hsignature .nil⟩
  | some k =>
    obtain ⟨hsize, hverifies⟩ := hsigns k hk
    have hother : adapter.payer sender = k.pubkey := by rw [SolanaAdapter.payer, hk]; rfl
    have hsigs : signatures u signature = [k.signMessage u.message, signature.1] := by
      rw [signatures, hsponsor, hk]
      rfl
    rw [hsigs, hother, if_neg (hne k hk)]
    exact ⟨List.forall_mem_cons.mpr ⟨hsize, List.forall_mem_singleton.mpr signature.2⟩,
      .cons hverifies (.cons hsignature .nil)⟩

theorem agrees_of_built (hdoc : adapter.sdk.Documented) (hwire : adapter.sdk.WireFormat)
    (hu : adapter.buildTransfer rpc intent = .ok u)
    (hne : ∀ k, adapter.feePayer = some k → adapter.sdk.pubkeyFromStr intent.sender ≠ some k.pubkey)
    (hsigns : ∀ k, adapter.feePayer = some k → k.Signs adapter.sdk u.message) :
    ∃ sender, adapter.sdk.pubkeyFromStr intent.sender = some sender ∧ Agrees adapter sender u := by
  obtain ⟨sender, dest, ixs, bh, hs, -, hi, -, hbuilt⟩ := SolanaAdapter.buildTransfer_eq_ok.mp hu
  have hmessage : u.message =
      adapter.sdk.serialize (adapter.sdk.newWithBlockhash ixs (adapter.payer sender) bh) := by
    rw [hbuilt]
  have hsponsor : u.feePayerSignature = adapter.feePayer.map fun k => k.signMessage u.message := by
    rw [hbuilt]
  have hl := SolanaAdapter.transferInstructions_layout hi
  have hc := hl.compilable (adapter.payer sender)
  have hsigners := Message.signers_eq (hdoc.nodup _ _ bh hc) (hdoc.payer_first _ _ bh hc)
    fun key => (hdoc.mem_signers _ _ bh key hc).trans hl.signer_iff
  have hread := hdoc.deserialize_serialize _ _ bh hc
  rw [← hmessage] at hread
  refine ⟨sender, hs, _, hread, hsigners, fun signature hsignature => ?_⟩
  obtain ⟨hsize, hvalid⟩ :=
    signatures_valid hsponsor (fun k hk he => hne k hk (he ▸ hs)) hsigns hsignature
  rw [← hsigners] at hvalid
  refine ⟨hvalid.length_eq.trans (Message.signers_length (hwire.required_le _ _ bh hc)), hvalid, ?_⟩
  rw [hmessage] at hvalid ⊢
  exact validateSigned_assembled hwire hc hsize hvalid

end Contract

section Runs

/-- Among the steps, `message` and the sponsor's signature were received for a build
request of the wallet. -/
def Received (wallet : XendWallet) (amount : Int) (mint : Option String)
    (built : Built) (message : Bytes)
    (steps : List DeviceStep) : Prop :=
  ∃ t ∈ steps, ∃ dest, t.call = .http (buildRequest wallet.address dest amount mint) ∧
    received t.verdict.response = .ok (built, message)

def Signed (message : Bytes) (signature : Signature) (steps : List DeviceStep) : Prop :=
  ∃ t ∈ steps, ∃ privateKey, t.call = .signature privateKey message ∧
    t.verdict.signature = some signature

/-- The transaction in the body is put together from what was received and signed. -/
def PutTogether (wallet : XendWallet) (amount : Int) (mint : Option String) (json : Json)
    (steps : List DeviceStep) :
    Prop :=
  0 < amount ∧ ∃ built message sponsor signature, Received wallet amount mint built message steps ∧
    built.feePayerSignature.toList.mapM base64Decode = .ok sponsor ∧
    Signed message signature steps ∧
    json.field "signed" =
      .str (Base64.encode (assembleSignedTransaction (sponsor ++ [signature.1]) message))

def Posts (json : Json) (c : Call) : Prop := c = .http (.post "/v1/tx/submit" json)

def Posted (wallet : XendWallet) (amount : Int) (mint : Option String)
    (steps : List DeviceStep) : Prop :=
  ∀ t ∈ steps, ∀ json, Posts json t.call → PutTogether wallet amount mint json steps

/-- Everything posted along the way is put together from what came before. -/
abbrev Sends {ε α : Type} (wallet : XendWallet) (amount : Int)
    (mint : Option String) (x : Acting ε α)
    (Q : α → List DeviceStep → Prop) (s : Device × List DeviceStep) : Prop :=
  x.run.Spec (Prog.recording Device.execute) (fun _ => True)
    (fun s => Posted wallet amount mint s.2)
    (Ends (fun _ _ => True) fun a s => Q a s.2) s

variable {ε α : Type} {wallet : XendWallet} {amount : Int} {mint : Option String}
    {built : Built} {message : Bytes}
  {signature : Signature} {steps : List DeviceStep} {s : Device × List DeviceStep} {kit : Kit}

theorem Received.cons (h : Received wallet amount mint built message steps) (t : DeviceStep) :
    Received wallet amount mint built message (t :: steps) := by
  obtain ⟨t', ht', hh⟩ := h
  exact ⟨t', List.mem_cons_of_mem _ ht', hh⟩

theorem Signed.cons (h : Signed message signature steps) (t : DeviceStep) :
    Signed message signature (t :: steps) := by
  obtain ⟨t', ht', hh⟩ := h
  exact ⟨t', List.mem_cons_of_mem _ ht', hh⟩

theorem Posted.cons {t : DeviceStep} (h : Posted wallet amount mint steps)
    (ht : ∀ json, Posts json t.call → PutTogether wallet amount mint json steps) :
    Posted wallet amount mint (t :: steps) := by
  have hall : ∀ t' ∈ t :: steps, ∀ json, Posts json t'.call →
      PutTogether wallet amount mint json steps :=
    List.forall_mem_cons.mpr ⟨ht, h⟩
  intro t' ht' json hc
  obtain ⟨hamount, built, message, sponsor, signature, hr, hs, hsig, hj⟩ := hall t' ht' json hc
  exact ⟨hamount, built, message, sponsor, signature, hr.cons t, hs, hsig.cons t, hj⟩

theorem Posted.calls {x : Acting ε α} {F : List DeviceStep → Prop}
    (hF : ∀ t steps, F steps → F (t :: steps))
    (hx : x.run.Calls fun c => ∀ json, ¬ Posts json c)
    (h : Posted wallet amount mint s.2) (hf : F s.2) :
    Sends wallet amount mint x (fun _ => F) s := by
  have hspec : Sends wallet amount mint x (fun _ steps => Posted wallet amount mint steps ∧
      F steps) s :=
    spec_calls hx (fun s c v hc hj => ⟨hj.1.cons fun json hp => absurd hp (hc json), hF _ _ hj.2⟩)
      (fun _ hj => hj.1)
      (fun _ _ _ => trivial) ⟨h, hf⟩
  exact spec_mono hspec fun _ _ _ hj => hj.2

theorem not_posts {c : Call} (h : ∀ request, c ≠ .http request) (json : Json) :
    ¬ Posts json c := h _

theorem Posted.other {c : Call} (h : Posted wallet amount mint s.2)
    (hc : ∀ request, c ≠ .http request) (v : Verdict) :
    Posted wallet amount mint (⟨s.1, c, v⟩ :: s.2) :=
  h.cons fun json hp => absurd hp (not_posts hc json)

theorem sends_signMessage (hp : Posted wallet amount mint s.2)
    (hr : Received wallet amount mint built message s.2)
    (reason : String) :
    Sends wallet amount mint
      (invoke (.signMessage message reason) (SecureSigner.signMessage kit message reason))
      (fun signature steps => Received wallet amount mint built message steps ∧
        Signed message signature steps) s := by
  have hreceived : ∀ t steps, Received wallet amount mint built message steps →
      Received wallet amount mint built message (t :: steps) := fun t _ hr => hr.cons t
  refine spec_invoke hp fun v _ => ?_
  have hp' := hp.other (c := .invokeMethod (.signMessage message reason)) (by simp) v
  refine spec_bind (spec_mono (Posted.calls hreceived ?_ hp' (hr.cons _)) fun key s hp hr => ?_)
  · exact calls_bind (calls_request (not_posts (by simp))) fun _ => SecureSigner.calls_found
  refine spec_bind (spec_mono (Posted.calls hreceived ?_ hp hr) fun ciphertext s hp hr => ?_)
  · exact SecureSigner.calls_keychainGet (not_posts (by simp))
  refine spec_bind (spec_mono (Posted.calls hreceived ?_ hp hr) fun plaintext s hp hr => ?_)
  · exact SecureSigner.calls_unwrap (not_posts (by simp))
  refine spec_bind (spec_mono (Posted.calls hreceived SecureSigner.calls_rawRepresentation hp hr)
    fun signingKey s hp hr => ?_)
  have hp' : ∀ v, Posted wallet amount mint (⟨s.1, .signature signingKey.1 message, v⟩ :: s.2) :=
    fun v => hp.other (by simp) v
  refine spec_bind (spec_request hp fun v _ => ⟨hp' v, ?_⟩)
  have hreply : (Prog.recording Device.execute s (.signature signingKey.1 message) v).2 =
      v.signature := rfl
  rw [hreply]
  cases hv : v.signature with
  | none => exact spec_attempt (hp' v) trivial
  | some signature =>
    exact spec_pure (hp' v) ⟨hr.cons _, _, List.mem_cons_self, signingKey.1, rfl, hv⟩

theorem sends_http {request : Request} {Q : Json → List DeviceStep → Prop}
    (hp : Posted wallet amount mint s.2)
    (hpost : ∀ json, Posts json (.http request) → PutTogether wallet amount mint json s.2)
    (hQ : ∀ v body, decodeResponse v.response = .ok body →
      Q body (⟨s.1, .http request, v⟩ :: s.2)) :
    Sends wallet amount mint (BackendClient.send request) Q s := by
  refine spec_bind (spec_request hp fun v _ => ⟨hp.cons hpost, ?_⟩)
  refine spec_attempt (hp.cons hpost) ?_
  change Ends _ _ ((decodeResponse v.response).mapError Halt.thrown) _
  cases hd : decodeResponse v.response with
  | error e => trivial
  | ok body => exact hQ v body hd

theorem sends_submitTransaction {sponsor : List Bytes} (hamount : 0 < amount)
    (hp : Posted wallet amount mint s.2)
    (hr : Received wallet amount mint built message s.2) (hsig : Signed message signature s.2)
    (hs : built.feePayerSignature.toList.mapM base64Decode = .ok sponsor)
    (key source dest : String) :
    Sends wallet amount mint (submitTransaction
        (Base64.encode (assembleSignedTransaction (sponsor ++ [signature.1]) message)) key
          source dest amount mint)
      (fun _ _ => True) s := by
  refine spec_bind
    (spec_mono (sends_http (Q := fun _ _ => True) hp (fun json hc => ?_) fun _ _ _ => trivial)
    fun body s hp _ => ?_)
  · obtain rfl := (Request.post.inj (Call.http.inj hc)).2
    exact ⟨hamount, built, message, sponsor, signature, hr, hs, hsig, rfl⟩
  · exact Posted.calls (F := fun _ => True) (fun _ _ _ => trivial)
      (calls_bind calls_throwing fun _ => calls_bind calls_throwing fun _ => trivial) hp trivial

theorem sends_send (wallet : XendWallet) (nameOrAddress : String) (amount : Int)
    (mint idempotencyKey : Option String)
    (kit : Kit) (d : Device) :
    Sends wallet amount mint (XendWallet.send kit wallet nameOrAddress amount mint idempotencyKey)
      (fun _ _ => True)
      (d, []) := by
  have hnone : Posted wallet amount mint [] := by simp [Posted]
  refine spec_bind
    (spec_mono (Posted.calls (F := fun _ => True) (fun _ _ _ => trivial) ?_ hnone trivial)
    fun _ s hp _ => ?_)
  · unfold requireSolana
    split <;> trivial
  by_cases hneg : amount ≤ 0
  · rw [if_pos hneg]
    exact spec_attempt hp trivial
  rw [if_neg hneg]
  refine spec_bind
    (spec_mono (Posted.calls (F := fun _ => True) (fun _ _ _ => trivial) ?_ hp trivial)
    fun recipient s hp _ => ?_)
  · unfold XendWallet.resolveName
    split
    · exact calls_bind (calls_send fun json hc => by cases hc) fun _ => calls_throwing
    · trivial
  have hanswer :
      Sends wallet amount mint (BackendClient.buildTransfer wallet.address recipient amount mint)
      (fun built steps => ∃ t ∈ steps, t.call =
        .http (buildRequest wallet.address recipient amount mint) ∧
        ∃ body, decodeResponse t.verdict.response = .ok body ∧ builtFrom body = .ok built) s := by
    refine spec_bind (spec_mono (sends_http (Q := fun body steps => ∃ t ∈ steps,
      t.call = .http (buildRequest wallet.address recipient amount mint) ∧
        decodeResponse t.verdict.response = .ok body) hp (fun json hc => ?_) fun v body hd => ?_)
          fun body s hp hq => ?_)
    · exact absurd (Request.post.inj (Call.http.inj hc)).1 (by simp)
    · exact ⟨_, List.mem_cons_self, rfl, hd⟩
    · obtain ⟨t, ht, hc, hd⟩ := hq
      refine spec_attempt hp ?_
      cases hbuilt : builtFrom body with
      | error e => trivial
      | ok built => exact ⟨t, ht, hc, body, hd, hbuilt⟩
  refine spec_bind (spec_mono hanswer fun built s hp hq => ?_)
  obtain ⟨t, ht, hc, body, hd, hbuilt⟩ := hq
  refine spec_bind (spec_attempt hp ?_)
  cases hm : base64Decode built.message with
  | error e => trivial
  | ok message =>
    have hr : Received wallet amount mint built message s.2 :=
      ⟨t, ht, recipient, hc, received_of hd hbuilt hm⟩
    refine spec_bind (spec_mono (sends_signMessage hp hr _) fun signature s hp hq => ?_)
    obtain ⟨hr, hsig⟩ := hq
    refine spec_bind (spec_attempt hp ?_)
    cases hs : built.feePayerSignature.toList.mapM base64Decode with
    | error e => trivial
    | ok sponsor =>
      have hkey :
          Sends wallet amount mint (idempotencyKey.elim newIdempotencyKey pure) (fun _ steps =>
          Received wallet amount mint built message steps ∧ Signed message signature steps) s := by
        refine Posted.calls (F := fun steps => Received wallet amount mint built message steps ∧
          Signed message signature steps) (fun t _ hq =>
            ⟨hq.1.cons t, hq.2.cons t⟩) ?_ hp ⟨hr, hsig⟩
        cases idempotencyKey with
        | none => exact calls_bind (calls_request (not_posts (by simp))) fun _ => trivial
        | some key => trivial
      refine spec_bind (spec_mono hkey fun key s hp hq => ?_)
      refine spec_bind
        (spec_mono (sends_submitTransaction (not_le.mp hneg) hp hq.1 hq.2 hs key _ recipient)
        fun result s hp _ => ?_)
      exact spec_pure hp trivial

end Runs

section Agreement

variable {adapter : SolanaAdapter}

theorem mapM_base64Decode (signature : Option Bytes) :
    (signature.map Base64.encode).toList.mapM base64Decode = .ok signature.toList := by
  cases signature with
  | none => rfl
  | some bytes =>
    rw [Option.map_some, Option.toList_some, List.mapM_cons, base64Decode_encode]
    rfl

/-- The contract of a built transfer, and that what `send` posts to a backend of its own
is such a transfer with the phone's signature. -/
theorem assembly_agrees (hdoc : adapter.sdk.Documented) (hwire : adapter.sdk.WireFormat) :
    (∀ (rpc : BuildRpc) (intent : TransferIntent) (u : UnsignedTx),
      adapter.buildTransfer rpc intent = .ok u →
      (∀ k, adapter.feePayer = some k → adapter.sdk.pubkeyFromStr intent.sender ≠ some k.pubkey) →
      (∀ k, adapter.feePayer = some k → k.Signs adapter.sdk u.message) →
      ∃ sender, adapter.sdk.pubkeyFromStr intent.sender = some sender ∧ Agrees adapter sender u) ∧
    ∀ (kit : Kit) (wallet : XendWallet) (nameOrAddress : String) (amount : Int)
      (mint idempotencyKey : Option String)
      (d : Device) (vs : List Verdict),
      let steps :=
        (XendWallet.send kit wallet nameOrAddress amount mint idempotencyKey).run.steps
          Device.execute d vs
      (∀ t ∈ steps, AnsweredBy adapter t) → ∀ t ∈ steps, ∀ json, Posts json t.call →
        ∃ rpc dest u signature,
        adapter.buildTransfer rpc ⟨wallet.address, dest, amount.toNat, mint⟩ = .ok u ∧
          Signed u.message signature steps ∧
          json.field "signed" =
            .str (Base64.encode
              (assembleSignedTransaction (signatures u signature) u.message)) := by
  refine ⟨fun rpc intent u hu hne hsigns => agrees_of_built hdoc hwire hu hne hsigns, ?_⟩
  intro kit wallet nameOrAddress amount mint idempotencyKey d vs steps hanswered t ht json hpost
  have hposted :=
    (sends_send wallet nameOrAddress amount mint idempotencyKey kit d).run vs fun _ _ => trivial
  rw [Prog.run_recording, List.append_nil] at hposted
  obtain ⟨hamount, built, message, sponsor, signature, hreceived, hsponsor, hsigned, hjson⟩ :=
    hposted.1 t (List.mem_reverse.mpr ht) json hpost
  obtain ⟨t', ht', dest, hcall, hresponse⟩ := hreceived
  obtain ⟨request, hrequest, -⟩ := ofJson_buildRequest wallet.address dest amount mint
  obtain ⟨r, _, _, hr, hstatus, -⟩ := received_eq_ok hresponse
  rcases hanswered t' (List.mem_reverse.mp ht') request r
    (hcall.trans (congrArg Call.http hrequest)) hr with hfailed | ⟨rpc, rfl⟩
  · exact absurd hfailed (not_le.mpr hstatus)
  · rw [hr] at hresponse
    obtain ⟨u, hu, rfl, hfee⟩ := built_of_received hamount hrequest hresponse
    rw [hfee, mapM_base64Decode] at hsponsor
    obtain rfl := Except.ok.inj hsponsor
    obtain ⟨t'', ht'', hh⟩ := hsigned
    exact ⟨rpc, dest, u, signature, hu, ⟨t'', List.mem_reverse.mp ht'', hh⟩, hjson⟩

end Agreement

section Samples

open Reference

def sponsorKey : Pubkey :=
  ⟨base58 "GyGKxMyg1p9SsHfm15MkNUu1u9TN2JtTspcdmrtGUdse", by decide +kernel⟩

def sponsoredMessage : Bytes :=
  serialize <| newWithBlockhash
    [{ programId := default
       accounts := [.new senderKey true, .new destKey false]
       data := littleEndian 4 2 ++ littleEndian 8 1000000 }] sponsorKey (blockhash false)

def sponsorSignatureText : String :=
  "33x54grRT1pp131k3T7eYjVzRivhgRNqSb4vEV5xht3eyojwokgew7hmpTzWAY4jVp9fd6RNUP8iR3dnaFac9BjF"

def sponsoredSignatureText : String :=
  "5Jp2XqauvtPbi1AGAt8DtcwJFtSJbimp2vjWN91ee8W3Z4JebxUpBViYRZAiviCbMkWa4avYwBwPc9zhxd92hTM7"

def sponsoredSignature : Signature := ⟨base58 sponsoredSignatureText, by decide +kernel⟩

def sponsoredAdapter : SolanaAdapter where
  sdk := sdk (fun _ _ => default) fun signature key message => message == sponsoredMessage &&
    ((key == sponsorKey && signature == base58 sponsorSignatureText) ||
      (key == senderKey && signature == base58 sponsoredSignatureText))
  feePayer := some
    { pubkey := sponsorKey
      signMessage message :=
        if message = sponsoredMessage then base58 sponsorSignatureText else [] }

theorem sponsored_built {u : UnsignedTx}
    (hu : sponsoredAdapter.buildTransfer (buildRpc false) transferIntent = .ok u) :
    u.message = sponsoredMessage := by
  obtain ⟨sender, dest, ixs, bh, hs, hd, hi, hb, rfl⟩ := SolanaAdapter.buildTransfer_eq_ok.mp hu
  have hsender : sponsoredAdapter.sdk.pubkeyFromStr transferIntent.sender = some senderKey :=
    keyFromStr_sender
  have hdest : sponsoredAdapter.sdk.pubkeyFromStr transferIntent.toAddress = some destKey :=
    keyFromStr_dest
  have hblockhash : latestBlockhash sponsoredAdapter.sdk (buildRpc false).latestBlockhash =
      .ok (blockhash false) := by
    rfl
  have hprogram : sponsoredAdapter.sdk.program systemProgramId = default :=
    congrArg (·.getD default) keyFromStr_systemProgram
  obtain rfl := Option.some.inj (hs.symm.trans hsender)
  obtain rfl := Option.some.inj (hd.symm.trans hdest)
  obtain rfl := Except.ok.inj (hb.symm.trans hblockhash)
  simp only [SolanaAdapter.transferInstructions, transferIntent, bind_eq_ok,
    SolanaSdk.systemTransfer_eq_ok, ok_eq_ok, hprogram] at hi
  obtain ⟨_, ⟨-, rfl⟩, rfl⟩ := hi
  rfl

theorem exists_sponsored :
    ∃ u, sponsoredAdapter.buildTransfer (buildRpc false) transferIntent = .ok u := by
  have hbuildable := transferIntent_buildable false
  exact SolanaAdapter.buildTransfer_isOk.mpr ⟨⟨senderKey, keyFromStr_sender⟩,
    ⟨hbuildable.dest, hbuildable.amount, hbuildable.mint, hbuildable.blockhash⟩⟩

/-- A phone that has a key. -/
def sampleDevice : Device :=
  (Device.blank.createKey true).put .ciphertext (.wrapped 0 (List.replicate 32 0))

/-- The phone signs, and the backend answers with its build handler. -/
def sponsoredAnswer (c : Call) : Verdict :=
  { sampleService.answer c with
    signature := some sponsoredSignature
    response :=
      match c with
      | .http (.post _ json) => some (buildEndpoint sponsoredAdapter (buildRpc false) json)
      | _ => none }

theorem answeredBy_sponsored {t : DeviceStep} (h : t.verdict = sponsoredAnswer t.call) :
    AnsweredBy sponsoredAdapter t := by
  intro json response hcall hresponse
  rw [h, hcall] at hresponse
  exact .inr ⟨buildRpc false, (Option.some.inj hresponse).symm⟩

theorem sponsored_posts {u : UnsignedTx}
    (hu : sponsoredAdapter.buildTransfer (buildRpc false) transferIntent = .ok u) :
    ∃ t ∈ (sampleIntent.send sampleKit (some "key")).run.answeredSteps Device.execute
      sponsoredAnswer sampleDevice,
      ∃ json, Posts json t.call := by
  have htime : u.validUntil < 2 ^ 63 := by
    obtain ⟨_, _, _, _, -, -, -, -, rfl⟩ := SolanaAdapter.buildTransfer_eq_ok.mp hu
    change 0 + 90 < 2 ^ 63
    omega
  have hpositive : (0 : Int) < 1000000 := by omega
  obtain ⟨json, hrequest, hjson⟩ := ofJson_buildRequest senderAddress destAddress 1000000 none
  have hparse : u128FromStr (toString (1000000 : Int)) = some 1000000 := by
    rw [toString_of_pos hpositive, u128FromStr_repr, if_pos (by omega)]
    rfl
  obtain ⟨built, hreceived⟩ : ∃ built,
      received (some (buildEndpoint sponsoredAdapter (buildRpc false) json)) =
        .ok (built, u.message) :=
    received_buildEndpoint hjson hparse hu htime
  obtain ⟨u', -, -, hfee⟩ := built_of_received hpositive hrequest hreceived
  have hsponsor : built.feePayerSignature.toList.mapM base64Decode =
      .ok u'.feePayerSignature.toList := by
    rw [hfee, mapM_base64Decode]
  have hsign : ∀ reason, (invoke (.signMessage u.message reason)
      (SecureSigner.signMessage sampleKit u.message reason)).run.answered Device.execute
        sponsoredAnswer sampleDevice =
        (sampleDevice, .ok sponsoredSignature) := fun _ => rfl
  obtain ⟨t, ht, hposts⟩ :
      ∃ t ∈ (signAndSubmit sampleKit sampleIntent (some "key") built u.message).run.answeredSteps
      Device.execute sponsoredAnswer sampleDevice, ∃ json, Posts json t.call := by
    rw [signAndSubmit, answeredSteps_exceptBind (hsign _), hsponsor]
    exact ⟨_, List.mem_append_right _ List.mem_cons_self, _, rfl⟩
  refine ⟨t, ?_, hposts⟩
  have hcall : sampleIntent.request = .post "/v1/tx/build" json := hrequest
  rw [run_send rfl hpositive (by rfl), hcall]
  refine List.mem_cons_of_mem _ ?_
  change t ∈
    (proceed _ ((received (some (buildEndpoint sponsoredAdapter (buildRpc false) json))).mapError
    Halt.thrown)).answeredSteps Device.execute sponsoredAnswer sampleDevice
  rw [hreceived]
  exact ht

theorem assembly_agrees_sponsored :
    (∃ u, sponsoredAdapter.buildTransfer (buildRpc false) transferIntent = .ok u ∧
      (signatures u sponsoredSignature).length = 2 ∧
      sponsoredAdapter.sdk.validateSigned
        (assembleSignedTransaction (signatures u sponsoredSignature) u.message) = .ok ()) ∧
    ∃ vs, ∃ t ∈ (sampleIntent.send sampleKit (some "key")).run.steps Device.execute sampleDevice vs,
      ∃ json, Posts json t.call ∧ ∃ rpc dest u signature,
        sponsoredAdapter.buildTransfer rpc ⟨senderAddress, dest, 1000000, none⟩ = .ok u ∧
        json.field "signed" =
          .str (Base64.encode (assembleSignedTransaction (signatures u signature) u.message)) := by
  have hs : sponsoredAdapter.sdk.pubkeyFromStr transferIntent.sender = some senderKey :=
    keyFromStr_sender
  obtain ⟨u, hu⟩ := exists_sponsored
  have hmessage := sponsored_built hu
  have hne : ∀ k, sponsoredAdapter.feePayer = some k →
      sponsoredAdapter.sdk.pubkeyFromStr transferIntent.sender ≠ some k.pubkey := by
    rintro k ⟨rfl⟩
    rw [hs]
    intro h
    have hkey : base58 senderAddress = base58 "GyGKxMyg1p9SsHfm15MkNUu1u9TN2JtTspcdmrtGUdse" :=
      congrArg Subtype.val (Option.some.inj h)
    exact absurd (base58_inj hkey senderKey.2) (by decide)
  have hsigns : ∀ k, sponsoredAdapter.feePayer = some k →
      k.Signs sponsoredAdapter.sdk u.message := by
    rintro k ⟨rfl⟩
    have hsize : (base58 sponsorSignatureText).length = 64 := by decide +kernel
    rw [hmessage]
    simp [Keypair.Signs, hsize, sponsoredAdapter, sdk]
  obtain ⟨sender, hsender, m, -, -, hall⟩ :=
    (assembly_agrees (documented _ _) (wireFormat _ _)).1
      (buildRpc false) transferIntent u hu hne hsigns
  obtain rfl := Option.some.inj (hsender.symm.trans hs)
  have hverifies : sponsoredAdapter.sdk.verifySignature sponsoredSignature.1 senderKey u.message =
      true := by
    rw [hmessage]
    simp [sponsoredAdapter, sdk, sponsoredSignature]
  obtain ⟨-, hvalid, haccepted⟩ := hall sponsoredSignature hverifies
  refine ⟨⟨u, hu, ?_, haccepted⟩, ?_⟩
  · obtain ⟨_, _, _, _, -, -, -, -, rfl⟩ := SolanaAdapter.buildTransfer_eq_ok.mp hu
    rfl
  · obtain ⟨vs, -, hsteps⟩ := Prog.run_answeredSteps Device.execute sponsoredAnswer
      (sampleIntent.send sampleKit (some "key")).run sampleDevice
    obtain ⟨t, ht, json, hposts⟩ := sponsored_posts hu
    rw [← hsteps] at ht
    have hanswered :
        ∀ t ∈ (sampleIntent.send sampleKit (some "key")).run.steps Device.execute sampleDevice vs,
        AnsweredBy sponsoredAdapter t :=
      fun t ht => answeredBy_sponsored (Prog.verdict_of_answered (hsteps ▸ ht))
    obtain ⟨rpc, dest, u, signature, hu, -, hsigned⟩ :=
      (assembly_agrees (documented _ _) (wireFormat _ _)).2 sampleKit
      sampleIntent.wallet destAddress 1000000 none (some "key") sampleDevice vs
        hanswered t ht json hposts
    exact ⟨vs, t, ht, json, hposts, rpc, dest, u, signature, hu, hsigned⟩

end Samples

end XendWallet

end Sdk

end Xend
