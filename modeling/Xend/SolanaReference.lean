import Mathlib.Data.List.Dedup
import Mathlib.Data.List.Perm.Subperm
import Mathlib.Data.List.Sort
import Xend.AddressText
import Xend.Movement

/-! A reference `solana-sdk`: message compilation and the legacy wire format.
It behaves as documented, whatever the two cryptographic parameters are. -/

namespace Xend.Reference

open Framing

def accountMetas (ixs : List Instruction) (payer : Pubkey) : List AccountMeta :=
  ⟨payer, true, true⟩ :: ixs.flatMap fun ix => ⟨ix.programId, false, false⟩ :: ix.accounts

def lexLe : Bytes → Bytes → Bool
  | [], _ => true
  | _ :: _, [] => false
  | a :: as, b :: bs => a < b || (a == b && lexLe as bs)

/-- The distinct keys other than the payer, in the order of the key map. -/
def otherKeys (metas : List AccountMeta) (payer : Pubkey) : List Pubkey :=
  ((metas.map (·.pubkey)).dedup.filter (· ≠ payer)).insertionSort fun a b => lexLe a.1 b.1

def isSigner (metas : List AccountMeta) (key : Pubkey) : Bool :=
  metas.any fun a => a.pubkey == key && a.isSigner

def isWritable (metas : List AccountMeta) (key : Pubkey) : Bool :=
  metas.any fun a => a.pubkey == key && a.isWritable

def select (metas : List AccountMeta) (payer : Pubkey) (signer writable : Bool) : List Pubkey :=
  (otherKeys metas payer).filter fun key => isSigner metas key == signer &&
    isWritable metas key == writable

def accountKeys (metas : List AccountMeta) (payer : Pubkey) : List Pubkey :=
  (payer :: (select metas payer true true ++ select metas payer true false)) ++
    (select metas payer false true ++ select metas payer false false)

def compileInstruction (keys : List Pubkey) (ix : Instruction) : CompiledInstruction where
  programIdIndex := UInt8.ofNat (keys.idxOf ix.programId)
  accounts := ix.accounts.map fun a => UInt8.ofNat (keys.idxOf a.pubkey)
  data := ix.data

def newWithBlockhash (ixs : List Instruction) (payer : Pubkey) (bh : Hash) : Message :=
  let metas := accountMetas ixs payer
  { header :=
      { numRequiredSignatures := UInt8.ofNat
          (1 + (select metas payer true true).length + (select metas payer true false).length)
        numReadonlySignedAccounts := UInt8.ofNat (select metas payer true false).length
        numReadonlyUnsignedAccounts := UInt8.ofNat (select metas payer false false).length }
    accountKeys := accountKeys metas payer
    recentBlockhash := bh
    instructions := ixs.map (compileInstruction (accountKeys metas payer)) }

def writeInstruction (ix : CompiledInstruction) : Bytes :=
  ix.programIdIndex :: (vec (fun i => [i]) ix.accounts ++ vec (fun b => [b]) ix.data)

def readInstruction : Reader CompiledInstruction := fun bs => do
  let (programIdIndex, bs) ← byte bs
  let (accounts, bs) ← readVec byte bs
  let (data, bs) ← readVec byte bs
  some (⟨programIdIndex, accounts, data⟩, bs)

def readKey : Reader Pubkey := fun bs =>
  if h : 32 ≤ bs.length then some (⟨bs.take 32, by simp [h]⟩, bs.drop 32) else none

def serialize (m : Message) : Bytes :=
  m.header.numRequiredSignatures :: m.header.numReadonlySignedAccounts ::
    m.header.numReadonlyUnsignedAccounts ::
    (vec (fun key => key.1) m.accountKeys ++
      (m.recentBlockhash.1 ++ vec writeInstruction m.instructions))

def readMessage : Reader Message := fun bs => do
  let (required, bs) ← byte bs
  let (readonlySigned, bs) ← byte bs
  let (readonlyUnsigned, bs) ← byte bs
  let (keys, bs) ← readVec readKey bs
  let (blockhash, bs) ← readKey bs
  let (instructions, bs) ← readVec readInstruction bs
  some (⟨⟨required, readonlySigned, readonlyUnsigned⟩, keys, blockhash, instructions⟩, bs)

/-- Bytes left over after the transaction are ignored, as `bincode` does. -/
def deserializeTransaction (bs : Bytes) : Except String Transaction :=
  match readVec (takeBytes 64) bs with
  | none => .error "io error: unexpected end of file"
  | some (signatures, bs) =>
    match readMessage bs with
    | none => .error "io error: unexpected end of file"
    | some (message, _) => .ok ⟨signatures, message⟩

def keyFromStr (s : String) : Option Pubkey := do
  if 44 < (utf8 s).length then none else
  let bytes ← Base58.decode s
  if h : bytes.length = 32 then some ⟨bytes, h⟩ else none

def sdk (findProgramAddress : List Bytes → Pubkey → Pubkey)
    (verifySignature : Bytes → Pubkey → Bytes → Bool) :
    SolanaSdk where
  pubkeyFromStr := keyFromStr
  hashFromStr s := (keyFromStr s).elim (.error "failed to decoded string to hash") .ok
  pubkeyToString key := (Base58.encode key.1).getD ""
  findProgramAddress := findProgramAddress
  newWithBlockhash := newWithBlockhash
  serialize := serialize
  deserializeMessage bs := (readMessage bs).map (·.1)
  deserializeTransaction := deserializeTransaction
  verifySignature := verifySignature

theorem mem_otherKeys {metas : List AccountMeta} {payer key : Pubkey} :
    key ∈ otherKeys metas payer ↔ key ∈ metas.map (·.pubkey) ∧ key ≠ payer := by
  rw [otherKeys, (List.perm_insertionSort _ _).mem_iff]
  simp

theorem otherKeys_nodup (metas : List AccountMeta) (payer : Pubkey) :
    (otherKeys metas payer).Nodup :=
  (List.perm_insertionSort _ _).nodup_iff.mpr ((List.nodup_dedup _).filter _)

theorem mem_select {metas : List AccountMeta} {payer key : Pubkey} {signer writable : Bool} :
    key ∈ select metas payer signer writable ↔ key ∈ otherKeys metas payer ∧
      isSigner metas key = signer ∧ isWritable metas key = writable := by
  simp [select]

theorem select_disjoint {metas : List AccountMeta} {payer : Pubkey} {s w s' w' : Bool}
    (h : (s, w) ≠ (s', w')) : (select metas payer s w).Disjoint (select metas payer s' w') := by
  intro key hk hk'
  have ha := (mem_select.mp hk).2
  have hb := (mem_select.mp hk').2
  exact h (Prod.ext (ha.1.symm.trans hb.1) (ha.2.symm.trans hb.2))

theorem mem_accountKeys {metas : List AccountMeta} {payer key : Pubkey} :
    key ∈ accountKeys metas payer ↔ payer = key ∨ key ∈ otherKeys metas payer := by
  simp only [accountKeys, List.mem_append, List.mem_cons, mem_select, eq_comm (a := key)]
  cases isSigner metas key <;> cases isWritable metas key <;> simp

theorem accountKeys_nodup (metas : List AccountMeta) (payer : Pubkey) :
    (accountKeys metas payer).Nodup := by
  have hs : ∀ s w, (select metas payer s w).Nodup :=
    fun s w => (otherKeys_nodup metas payer).filter _
  have hp : ∀ s w, payer ∉ select metas payer s w := fun s w h =>
    (mem_otherKeys.mp (mem_select.mp h).1).2 rfl
  simp only [accountKeys, List.nodup_append', List.nodup_cons, List.mem_append, not_or,
    List.disjoint_append_left, List.disjoint_append_right, List.disjoint_cons_left,
    hs, hp, not_false_eq_true,
    true_and, and_true]
  have hd : ∀ s w s' w', (s, w) ≠ (s', w') →
      (select metas payer s w).Disjoint (select metas payer s' w') :=
    fun _ _ _ _ h => select_disjoint h
  simp only [hd _ _ _ _ (show (true, true) ≠ (true, false) by simp),
    hd _ _ _ _ (show (false, true) ≠ (false, false) by simp),
    hd _ _ _ _ (show (true, true) ≠ (false, true) by simp),
    hd _ _ _ _ (show (true, false) ≠ (false, true) by simp),
    hd _ _ _ _ (show (true, true) ≠ (false, false) by simp),
    hd _ _ _ _ (show (true, false) ≠ (false, false) by simp), and_self]

theorem mem_accountMetas {ixs : List Instruction} {payer : Pubkey} {a : AccountMeta} :
    a ∈ accountMetas ixs payer ↔ a = ⟨payer, true, true⟩ ∨
      ∃ ix ∈ ixs, a = ⟨ix.programId, false, false⟩ ∨ a ∈ ix.accounts := by
  simp [accountMetas]

theorem isSigner_accountMetas {ixs : List Instruction} {payer key : Pubkey} :
    isSigner (accountMetas ixs payer) key = true ↔ payer = key ∨ ∃ ix ∈ ixs, ix.AsksFor key := by
  simp only [isSigner, List.any_eq_true, Bool.and_eq_true, beq_iff_eq, mem_accountMetas]
  constructor
  · rintro ⟨a, rfl | ⟨ix, hix, rfl | ha⟩, hk, hs⟩
    · exact .inl hk
    · exact absurd hs (by simp)
    · exact .inr ⟨ix, hix, a, ha, hk, hs⟩
  · rintro (rfl | ⟨ix, hix, a, ha, hk, hs⟩)
    · exact ⟨_, .inl rfl, rfl, rfl⟩
    · exact ⟨a, .inr ⟨ix, hix, .inr ha⟩, hk, hs⟩

theorem mem_keys_of_isSigner {metas : List AccountMeta} {key : Pubkey}
    (h : isSigner metas key = true) :
    key ∈ metas.map (·.pubkey) := by
  obtain ⟨a, ha, hk⟩ := List.any_eq_true.mp h
  simp only [Bool.and_eq_true, beq_iff_eq] at hk
  exact List.mem_map.mpr ⟨a, ha, hk.1⟩

theorem accountKeys_subset (ixs : List Instruction) (payer : Pubkey) :
    ∀ key ∈ accountKeys (accountMetas ixs payer) payer,
    key ∈ payer :: ixs.flatMap Instruction.keys := by
  intro key hkey
  rcases mem_accountKeys.mp hkey with rfl | h
  · exact List.mem_cons_self
  · obtain ⟨⟨a, ha, rfl⟩, -⟩ := (mem_otherKeys.mp h).imp_left List.mem_map.mp
    rcases mem_accountMetas.mp ha with rfl | ⟨ix, hix, rfl | hm⟩
    · exact List.mem_cons_self
    · exact List.mem_cons_of_mem _ (List.mem_flatMap.mpr ⟨ix, hix, List.mem_cons_self⟩)
    · exact List.mem_cons_of_mem _
        (List.mem_flatMap.mpr ⟨ix, hix, List.mem_cons_of_mem _ (List.mem_map_of_mem hm)⟩)

theorem mem_accountKeys_of_mem_keys {ixs : List Instruction} {payer key : Pubkey} {ix : Instruction}
    (hix : ix ∈ ixs) (hkey : key ∈ ix.keys) : key ∈ accountKeys (accountMetas ixs payer) payer := by
  rw [mem_accountKeys, mem_otherKeys]
  by_cases hp : payer = key
  · exact .inl hp
  · refine .inr ⟨?_, fun h => hp h.symm⟩
    rcases List.mem_cons.mp hkey with rfl | hm
    · exact List.mem_map.mpr ⟨_, mem_accountMetas.mpr (.inr ⟨ix, hix, .inl rfl⟩), rfl⟩
    · obtain ⟨a, ha, rfl⟩ := List.mem_map.mp hm
      exact List.mem_map_of_mem (mem_accountMetas.mpr (.inr ⟨ix, hix, .inr ha⟩))

theorem accountKeys_length_lt {ixs : List Instruction} {payer : Pubkey} (h : Compilable ixs payer) :
    (accountKeys (accountMetas ixs payer) payer).length < 256 :=
  lt_of_le_of_lt
    (List.subperm_of_subset (accountKeys_nodup _ _) (accountKeys_subset ixs payer)).length_le h.1

theorem signers_newWithBlockhash {ixs : List Instruction} {payer : Pubkey} (bh : Hash)
    (h : Compilable ixs payer) :
    (newWithBlockhash ixs payer bh).signers =
      payer :: (select (accountMetas ixs payer) payer true true ++
        select (accountMetas ixs payer) payer true false) := by
  have hlen := accountKeys_length_lt h
  simp only [accountKeys, List.length_append, List.length_cons] at hlen
  simp only [Message.signers, newWithBlockhash, UInt8.toNat_ofNat', accountKeys]
  rw [Nat.mod_eq_of_lt (by omega), List.take_left']
  simp only [List.length_append, List.length_cons]
  omega

theorem mem_signers {ixs : List Instruction} {payer key : Pubkey} (bh : Hash)
    (h : Compilable ixs payer) :
    key ∈ (newWithBlockhash ixs payer bh).signers ↔ payer = key ∨ ∃ ix ∈ ixs, ix.AsksFor key := by
  rw [signers_newWithBlockhash bh h, ← isSigner_accountMetas]
  simp only [List.mem_cons, List.mem_append, mem_select]
  constructor
  · rintro (rfl | ⟨-, hs, -⟩ | ⟨-, hs, -⟩)
    · exact isSigner_accountMetas.mpr (.inl rfl)
    · exact hs
    · exact hs
  · intro hs
    by_cases hp : key = payer
    · exact .inl hp
    · have hm := mem_otherKeys.mpr ⟨mem_keys_of_isSigner hs, hp⟩
      cases hw : isWritable (accountMetas ixs payer) key
      · exact .inr (.inr ⟨hm, hs, rfl⟩)
      · exact .inr (.inl ⟨hm, hs, rfl⟩)

theorem getElem?_idxOf {keys : List Pubkey} {key : Pubkey}
    (hlen : keys.length < 256) (h : key ∈ keys) :
    keys[(UInt8.ofNat (keys.idxOf key)).toNat]? = some key := by
  have hlt := List.idxOf_lt_length_iff.mpr h
  rw [UInt8.toNat_ofNat', Nat.mod_eq_of_lt (by omega)]
  exact List.getElem?_idxOf h

theorem mapM_map_eq_some {α β γ : Type} {f : α → β} {g : β → Option γ} {k : α → γ} {as : List α}
    (h : ∀ a ∈ as, g (f a) = some (k a)) : (as.map f).mapM g = some (as.map k) := by
  induction as with
  | nil => rfl
  | cons a as ih =>
    simp [List.mapM_cons, h a (by simp), ih (fun b hb => h b (by simp [hb]))]

theorem decompile_newWithBlockhash {ixs : List Instruction} {payer : Pubkey} (bh : Hash)
    (h : Compilable ixs payer) :
    (newWithBlockhash ixs payer bh).decompile = some (ixs.map Instruction.resolved) := by
  have hlen := accountKeys_length_lt h
  apply mapM_map_eq_some
  intro ix hix
  let keys := accountKeys (accountMetas ixs payer) payer
  have hget : ∀ key ∈ ix.keys, keys[(UInt8.ofNat (keys.idxOf key)).toNat]? = some key :=
    fun key hkey => getElem?_idxOf hlen (mem_accountKeys_of_mem_keys hix hkey)
  have haccounts : (ix.accounts.map fun a => UInt8.ofNat (keys.idxOf a.pubkey)).mapM
      (fun i => keys[i.toNat]?) = some (ix.accounts.map (·.pubkey)) :=
    mapM_map_eq_some fun a ha => hget a.pubkey (List.mem_cons_of_mem _ (List.mem_map_of_mem ha))
  have hprogram := hget ix.programId List.mem_cons_self
  simp only [keys] at hprogram haccounts
  simp only [Message.resolve, newWithBlockhash, compileInstruction, hprogram, haccounts,
    Option.bind_eq_bind, Option.bind_some, Instruction.resolved]

theorem reads_key : Reads (fun _ => True) (fun key : Pubkey => key.1) readKey := by
  intro key rest _
  have hlen : 32 ≤ (key.1 ++ rest).length := by simp [key.2]
  simp only [readKey, dif_pos hlen, Option.some.injEq, Prod.mk.injEq]
  exact ⟨Subtype.ext (List.take_left' key.2), List.drop_left' key.2⟩

def CompiledInstruction.Short (ix : CompiledInstruction) : Prop :=
  ix.accounts.length < 0x10000 ∧ ix.data.length < 0x10000

theorem reads_instruction : Reads CompiledInstruction.Short writeInstruction readInstruction := by
  intro ix rest h
  have ha := reads_vec reads_byte ix.accounts (vec (fun b => [b]) ix.data ++ rest) ⟨h.1, by simp⟩
  have hd := reads_vec reads_byte ix.data rest ⟨h.2, by simp⟩
  simp only [writeInstruction, readInstruction, List.cons_append, List.append_assoc, byte, ha, hd,
    Option.bind_eq_bind, Option.bind_some]

theorem reads_message :
    Reads (fun m => m.accountKeys.length < 0x10000 ∧ m.instructions.length < 0x10000 ∧
    ∀ ix ∈ m.instructions, CompiledInstruction.Short ix) serialize readMessage := by
  intro m rest h
  have hi := reads_vec reads_instruction m.instructions rest h.2
  have hb := reads_key m.recentBlockhash (vec writeInstruction m.instructions ++ rest) trivial
  have hk := reads_vec reads_key m.accountKeys
    (m.recentBlockhash.1 ++ (vec writeInstruction m.instructions ++ rest)) ⟨h.1, by simp⟩
  simp only [serialize, readMessage, List.cons_append, List.append_assoc, byte, hk, hb, hi,
    Option.bind_eq_bind, Option.bind_some]

theorem length_le_flatMap_keys (ixs : List Instruction) :
    ixs.length ≤ (ixs.flatMap Instruction.keys).length := by
  induction ixs with
  | nil => simp
  | cons ix ixs ih =>
    simp only [List.flatMap_cons, List.length_append, List.length_cons, Instruction.keys]
    omega

theorem accounts_length_le {ixs : List Instruction} {ix : Instruction} (h : ix ∈ ixs) :
    ix.accounts.length ≤ (ixs.flatMap Instruction.keys).length := by
  induction ixs with
  | nil => simp at h
  | cons a ixs ih =>
    simp only [List.flatMap_cons, List.length_append]
    rcases List.mem_cons.mp h with rfl | hm
    · simp only [Instruction.keys, List.length_cons, List.length_map]
      omega
    · have hh := ih hm
      omega

theorem readMessage_serialize {ixs : List Instruction} {payer : Pubkey} (bh : Hash)
    (h : Compilable ixs payer) :
    readMessage (serialize (newWithBlockhash ixs payer bh)) =
      some (newWithBlockhash ixs payer bh, []) := by
  have hkeys := accountKeys_length_lt h
  have hlen := h.1
  simp only [List.length_cons] at hlen
  have hixs := length_le_flatMap_keys ixs
  have hh := reads_message (newWithBlockhash ixs payer bh) [] (by
    refine ⟨by simp only [newWithBlockhash]; omega,
      by simp only [newWithBlockhash, List.length_map]; omega, ?_⟩
    intro cix hcix
    obtain ⟨ix, hix, rfl⟩ := List.mem_map.mp hcix
    have hacc := accounts_length_le hix
    exact ⟨by simp only [compileInstruction, List.length_map]; omega, h.2 ix hix⟩)
  rwa [List.append_nil] at hh

theorem deserialize_serialize {ixs : List Instruction} {payer : Pubkey} (bh : Hash)
    (h : Compilable ixs payer) :
    (readMessage (serialize (newWithBlockhash ixs payer bh))).map (·.1) =
      some (newWithBlockhash ixs payer bh) := by
  rw [readMessage_serialize bh h]
  rfl

theorem required_le (ixs : List Instruction) (payer : Pubkey) (bh : Hash)
    (h : Compilable ixs payer) :
    (newWithBlockhash ixs payer bh).header.numRequiredSignatures.toNat ≤
      (newWithBlockhash ixs payer bh).accountKeys.length := by
  have hlen := accountKeys_length_lt h
  simp only [accountKeys, List.length_append, List.length_cons] at hlen
  simp only [newWithBlockhash, UInt8.toNat_ofNat', accountKeys,
    List.length_append, List.length_cons]
  omega

theorem deserialize_transaction {ixs : List Instruction} {payer : Pubkey} (bh : Hash)
    {signatures : List Bytes}
    (h : Compilable ixs payer) (hlen : signatures.length < 0x10000)
    (hsize : ∀ s ∈ signatures, s.length = 64) :
    deserializeTransaction (compactU16 signatures.length ++ signatures.flatten ++
        serialize (newWithBlockhash ixs payer bh)) =
      .ok ⟨signatures, newWithBlockhash ixs payer bh⟩ := by
  have hread :=
    reads_vec (reads_takeBytes 64) signatures
      (serialize (newWithBlockhash ixs payer bh)) ⟨hlen, hsize⟩
  rw [vec, List.flatMap_id] at hread
  rw [deserializeTransaction, hread]
  dsimp only
  rw [readMessage_serialize bh h]

/-- A transaction with one signature reads back as it was written. -/
theorem deserialize_signed {ixs : List Instruction} {payer : Pubkey} (bh : Hash) {signature : Bytes}
    (h : Compilable ixs payer) (hsize : signature.length = 64) :
    deserializeTransaction
      (compactU16 1 ++ signature ++ serialize (newWithBlockhash ixs payer bh)) =
      .ok ⟨[signature], newWithBlockhash ixs payer bh⟩ := by
  have hread : deserializeTransaction (compactU16 [signature].length ++ [signature].flatten ++
      serialize (newWithBlockhash ixs payer bh)) = .ok ⟨[signature],
      newWithBlockhash ixs payer bh⟩ :=
    deserialize_transaction bh h (by simp) (by simpa using hsize)
  rwa [List.length_singleton, List.flatten_singleton] at hread

theorem signers_head {ixs : List Instruction} {payer : Pubkey} (bh : Hash)
    (h : Compilable ixs payer) :
    (newWithBlockhash ixs payer bh).signers.head? = some payer := by
  rw [signers_newWithBlockhash bh h, List.head?_cons]

theorem documented (findProgramAddress : List Bytes → Pubkey → Pubkey)
    (verifySignature : Bytes → Pubkey → Bytes → Bool) :
    (sdk findProgramAddress verifySignature).Documented where
  nodup ixs payer _ _ := accountKeys_nodup (accountMetas ixs payer) payer
  payer_first _ _ bh h := signers_head bh h
  mem_signers _ _ bh _ h := mem_signers bh h
  decompile _ _ bh h := decompile_newWithBlockhash bh h
  deserialize_serialize ixs payer bh h := by
    simp only [sdk]
    exact deserialize_serialize bh h

theorem wireFormat (findProgramAddress : List Bytes → Pubkey → Pubkey)
    (verifySignature : Bytes → Pubkey → Bytes → Bool) :
    (sdk findProgramAddress verifySignature).WireFormat where
  required_le ixs payer bh h := required_le ixs payer bh h
  deserialize_transaction _ _ bh _ h hlen hsize := deserialize_transaction bh h hlen hsize

/-! One sender with its signatures over two builds of one transfer, the recipient
with one over a transfer back, and the SDK that accepts exactly these. -/

def base58 (s : String) : Bytes := (Base58.decode s).getD []

theorem base58_spells {s : String} {n : Nat} (h : (base58 s).length = n + 1) :
    Base58.Spells s (base58 s) := by
  rw [← Base58.decode_eq_some_iff]
  cases hd : Base58.decode s with
  | none =>
    rw [base58, hd] at h
    cases h
  | some bytes => rw [base58, hd, Option.getD_some]

/-- Texts that decode to the same bytes are one text. -/
theorem base58_inj {s t : String} {n : Nat} (h : base58 s = base58 t)
    (hs : (base58 s).length = n + 1) : s = t := by
  have ht : Base58.Spells t (base58 t) := base58_spells (h ▸ hs)
  rw [← h] at ht
  exact (base58_spells hs).text_unique ht

theorem encode_of_keyFromStr {s : String} {key : Pubkey} (h : keyFromStr s = some key) :
    Base58.encode key.1 = some s := by
  simp only [keyFromStr] at h
  split at h
  · cases h
  · simp only [Option.bind_eq_bind, Option.bind_eq_some_iff] at h
    obtain ⟨bytes, hdecode, hkey⟩ := h
    split at hkey
    · obtain rfl := Option.some.inj hkey
      exact Base58.encode_eq_some_iff.mpr (Base58.decode_eq_some_iff.mp hdecode)
    · cases hkey

def senderAddress : String := "AKnL4NNf3DGWZJS6cPknBuEGnVsV4A4m5tgebLHaRSZ9"

def destAddress : String := "9hSR6S7WPtxmTojgo6GG3k4yDPecgJY292j7xrsUGWBu"

def senderKey : Pubkey := ⟨base58 senderAddress, by decide +kernel⟩

def destKey : Pubkey := ⟨base58 destAddress, by decide +kernel⟩

theorem keyFromStr_sender : keyFromStr senderAddress = some senderKey := by rfl

theorem keyFromStr_dest : keyFromStr destAddress = some destKey := by rfl

theorem keyFromStr_systemProgram : keyFromStr systemProgramId = some default := by rfl

def blockhashText (rebuilt : Bool) : String :=
  if rebuilt then "4zMMC9srt5Ri5X14GAgXhaHii3GnPAEERYPJgZJDncDU"
  else "4AwPrm7a8cqW8N21Jf66pgjeNgFUoJ7BAXuAw1tSxy76"

def blockhash (rebuilt : Bool) : Hash :=
  ⟨base58 (blockhashText rebuilt), by cases rebuilt <;> decide +kernel⟩

def signatureText (rebuilt : Bool) : String :=
  if rebuilt then
    "5u8Jd8KtLMMFcEVXYDMEQRP7RNKP865bVFWsKLNeqX2qmUwjm5jQmrogShEGmiV44bAHAnmrMuc1JpDRqKqgf2cP"
  else "2jyYuuJ8H36aWTQ23hS7F9rDALmLiKFZLc3ZDfVmK8NyY1HZdkf7uPddQBs8RucCGWiJrzSGE8pMAVTTGEw8L8rB"

def transferMessage (rebuilt : Bool) : Bytes :=
  serialize <| newWithBlockhash
    [{ programId := default
       accounts := [.new senderKey true, .new destKey false]
       data := littleEndian 4 2 ++ littleEndian 8 1000000 }] senderKey (blockhash rebuilt)

def returnMessage : Bytes :=
  serialize <| newWithBlockhash
    [{ programId := default
       accounts := [.new destKey true, .new senderKey false]
       data := littleEndian 4 2 ++ littleEndian 8 250000 }] destKey (blockhash false)

def returnSignatureText : String :=
  "5WFm4TmEXoYKZk74kevAhHj6iZ4Kz3fMbodDxAVuJBuBUPUDQjf6sSJGMK4vUmuFQAUdDtRi16bsMFsvSCEJ3k6a"

def sampleSdk : SolanaSdk :=
  sdk (fun _ _ => default) fun signature key message =>
    (key == senderKey && [false, true].any fun rebuilt =>
      signature == base58 (signatureText rebuilt) && message == transferMessage rebuilt) ||
    (key == destKey && signature == base58 returnSignatureText && message == returnMessage)

def senderKeypair : Keypair where
  pubkey := senderKey
  signMessage message :=
    if message = transferMessage false then base58 (signatureText false)
    else if message = transferMessage true then base58 (signatureText true) else []

def signedTransfer (rebuilt : Bool) : Bytes :=
  compactU16 1 ++ base58 (signatureText rebuilt) ++ transferMessage rebuilt

theorem compilable_transfer (sender dest : Pubkey) (lamports : Nat) :
    Compilable
      [⟨default, [.new sender true, .new dest false], littleEndian 4 2 ++ littleEndian 8 lamports⟩]
        sender :=
  ⟨by simp [Instruction.keys], by simp⟩

def transfer (rebuilt : Bool) : Message :=
  newWithBlockhash [⟨default, [.new senderKey true, .new destKey false], littleEndian 4 2 ++
    littleEndian 8 1000000⟩]
    senderKey (blockhash rebuilt)

theorem transfer_read (rebuilt : Bool) :
    readMessage (transferMessage rebuilt) = some (transfer rebuilt, []) :=
  readMessage_serialize (blockhash rebuilt) (compilable_transfer senderKey destKey 1000000)

theorem deserialize_transfer (rebuilt : Bool) :
    sampleSdk.deserializeMessage (transferMessage rebuilt) = some (transfer rebuilt) := by
  simp only [sampleSdk, sdk, transfer_read, Option.map_some]

theorem transfer_signers (rebuilt : Bool) (key : Pubkey) : key ∈ (transfer rebuilt).signers ↔
    key = senderKey := by
  rw [transfer, mem_signers (blockhash rebuilt) (compilable_transfer senderKey destKey 1000000)]
  simpa [Instruction.AsksFor, AccountMeta.new] using eq_comm

theorem transfer_movements (rebuilt : Bool) :
    (transfer rebuilt).movements sampleSdk = some [.systemTransfer senderKey destKey 1000000] := by
  have hprogram : sampleSdk.program systemProgramId = default :=
    congrArg (·.getD default) keyFromStr_systemProgram
  have hmovement : (Instruction.resolved ⟨default, [.new senderKey true, .new destKey false],
      littleEndian 4 2 ++ littleEndian 8 1000000⟩).movement sampleSdk =
        .systemTransfer senderKey destKey 1000000 := by
    apply SolanaSdk.systemTransfer_movement
    rw [SolanaSdk.systemTransfer_eq_ok, hprogram]
    exact ⟨by omega, rfl⟩
  rw [Message.movements, transfer,
    decompile_newWithBlockhash (blockhash rebuilt) (compilable_transfer senderKey destKey 1000000)]
  simp only [Option.map_some, List.map_cons, List.map_nil, hmovement]

def signedReturn : Bytes := compactU16 1 ++ base58 returnSignatureText ++ returnMessage

def buildRpc (rebuilt : Bool) : BuildRpc where
  latestBlockhash :=
    .body (.obj [("result", .obj [("value", .obj [("blockhash", .str (blockhashText rebuilt))])])])
  tokenSupply _ := .transport "connection refused"
  now := 0

def transferIntent : TransferIntent where
  sender := senderAddress
  toAddress := destAddress
  amount := 1000000
  mint := none

end Xend.Reference
