import Mathlib.Data.List.Basic
import Mathlib.Algebra.Order.Group.Nat

/-! Readers of byte strings, matched with the writers they undo. A reader
returns its value and the bytes it leaves. -/

namespace Framing

abbrev Bytes := List UInt8

abbrev Reader (α : Type) := Bytes → Option (α × Bytes)

/-- `r` undoes `w` on every value satisfying `P`, whatever follows. -/
def Reads {α : Type} (P : α → Prop) (w : α → Bytes) (r : Reader α) : Prop :=
  ∀ a rest, P a → r (w a ++ rest) = some (a, rest)

variable {α β : Type}

def byte : Reader UInt8
  | [] => none
  | b :: bs => some (b, bs)

def takeBytes (n : Nat) : Reader Bytes := fun bs =>
  if n ≤ bs.length then some (bs.take n, bs.drop n) else none

def counted (r : Reader α) : Nat → Reader (List α)
  | 0, bs => some ([], bs)
  | n + 1, bs => do
    let (a, bs) ← r bs
    let (as, bs) ← counted r n bs
    some (a :: as, bs)

/-- Seven bits per byte, low bits first, the high bit marking continuation. -/
def compactU16 (n : Nat) : Bytes :=
  if n < 0x80 then [UInt8.ofNat n]
  else if n < 0x4000 then [UInt8.ofNat (n % 0x80 + 0x80), UInt8.ofNat (n / 0x80)]
  else [UInt8.ofNat (n % 0x80 + 0x80), UInt8.ofNat (n / 0x80 % 0x80 + 0x80),
    UInt8.ofNat (n / 0x4000)]

/-- Rejects a final zero byte after a continuation, and anything over 16 bits. -/
def readCompactU16 : Reader Nat
  | [] => none
  | a :: bs =>
    if a.toNat < 0x80 then some (a.toNat, bs)
    else match bs with
      | [] => none
      | b :: bs =>
        if b.toNat < 0x80 then
          if b.toNat = 0 then none else some (a.toNat % 0x80 + b.toNat * 0x80, bs)
        else match bs with
          | [] => none
          | c :: bs =>
            if c.toNat = 0 ∨ 4 ≤ c.toNat then none
            else some (a.toNat % 0x80 + b.toNat % 0x80 * 0x80 + c.toNat * 0x4000, bs)

def utf8 (s : String) : Bytes := s.toByteArray.data.toList

def ofUtf8 (bs : Bytes) : Option String := String.fromUTF8? ⟨bs.toArray⟩

def littleEndian : Nat → Nat → Bytes
  | 0, _ => []
  | w + 1, n => UInt8.ofNat n :: littleEndian w (n / 256)

def ofLittleEndian : Bytes → Nat
  | [] => 0
  | b :: bs => b.toNat + 256 * ofLittleEndian bs

def vec (w : α → Bytes) (as : List α) : Bytes := compactU16 as.length ++ as.flatMap w

def readVec (r : Reader α) : Reader (List α) := fun bs => do
  let (n, bs) ← readCompactU16 bs
  counted r n bs

theorem bind_eq_ok {ε : Type} {x : Except ε α} {f : α → Except ε β} {b : β} :
    x >>= f = .ok b ↔ ∃ a, x = .ok a ∧ f a = .ok b := by
  cases x <;> simp [bind, Except.bind]

theorem utf8_injective : Function.Injective utf8 := fun _ _ h =>
  String.toByteArray_inj.mp (ByteArray.ext (Array.toList_inj.mp h))

@[simp] theorem ofUtf8_utf8 (s : String) : ofUtf8 (utf8 s) = some s := by
  have h : (⟨(utf8 s).toArray⟩ : ByteArray) = s.toByteArray := by simp [utf8]
  simp only [ofUtf8, String.fromUTF8?, h]
  rw [dif_pos s.isValidUTF8]
  rfl

theorem utf8_of_ofUtf8 {bs : Bytes} {s : String} (h : ofUtf8 bs = some s) : utf8 s = bs := by
  simp only [ofUtf8, String.fromUTF8?] at h
  split at h
  · cases h
    rfl
  · cases h

theorem utf8_ofList (cs : List Char) :
    utf8 (String.ofList cs) = cs.flatMap String.utf8EncodeChar := by
  simp [utf8, String.ofList, List.utf8Encode, List.data_toByteArray]

theorem exists_utf8_of_ascii {bs : Bytes} (h : ∀ b ∈ bs, b.toNat < 128) : ∃ s, utf8 s = bs := by
  refine ⟨String.ofList (bs.map fun b => Char.ofNat b.toNat), ?_⟩
  rw [utf8_ofList, List.flatMap_map]
  induction bs with
  | nil => rfl
  | cons b bs ih =>
    have hb := h b List.mem_cons_self
    have hvalid : b.toNat.isValidChar := by left; omega
    have hval : (Char.ofNat b.toNat).val = UInt32.ofNat b.toNat := by
      have hof : Char.ofNat b.toNat = Char.ofNatAux b.toNat hvalid := dif_pos hvalid
      rw [hof, ← UInt32.toNat_inj, UInt32.toNat_ofNat', Nat.mod_eq_of_lt (by omega)]
      rfl
    have hsize : (Char.ofNat b.toNat).utf8Size = 1 := by
      rw [Char.utf8Size_eq_one_iff, hval, UInt32.le_iff_toNat_le, UInt32.toNat_ofNat']
      have : (127 : UInt32).toNat = 127 := rfl
      omega
    rw [List.flatMap_cons, String.utf8EncodeChar_eq_singleton hsize, hval, List.singleton_append]
    refine congrArg₂ List.cons ?_ (ih fun c hc => h c (List.mem_cons_of_mem _ hc))
    apply UInt8.toNat_inj.mp
    simp

@[simp] theorem littleEndian_length (w n : Nat) : (littleEndian w n).length = w := by
  induction w generalizing n with
  | zero => rfl
  | succ w ih => simp [littleEndian, ih]

theorem ofLittleEndian_littleEndian {w n : Nat} (h : n < 256 ^ w) :
    ofLittleEndian (littleEndian w n) = n := by
  induction w generalizing n with
  | zero => simp only [pow_zero] at h; simp [littleEndian, ofLittleEndian]; omega
  | succ w ih =>
    have hn : n / 256 < 256 ^ w := by rw [pow_succ] at h; omega
    simp only [littleEndian, ofLittleEndian, ih hn, UInt8.toNat_ofNat', Nat.reducePow]
    omega

theorem reads_byte : Reads (fun _ => True) (fun b => [b]) byte := fun _ _ _ => rfl

theorem reads_takeBytes (n : Nat) : Reads (fun bs => bs.length = n) id (takeBytes n) := by
  intro a rest ha
  simp [takeBytes, ← ha]

theorem reads_counted {P : α → Prop} {w : α → Bytes} {r : Reader α} (h : Reads P w r) (as : List α)
    (rest : Bytes) (has : ∀ a ∈ as, P a) :
    counted r as.length (as.flatMap w ++ rest) = some (as, rest) := by
  induction as with
  | nil => rfl
  | cons a as ih =>
    have hh := h a (as.flatMap w ++ rest) (has a (by simp))
    have ht := ih (fun b hb => has b (by simp [hb]))
    simp only [List.length_cons, counted, List.flatMap_cons, List.append_assoc, hh,
      Option.bind_eq_bind, Option.bind_some, ht]

theorem reads_compactU16 : Reads (· < 0x10000) compactU16 readCompactU16 := by
  intro n rest hn
  by_cases h1 : n < 0x80
  · have hm : n % 256 = n := by omega
    simp [compactU16, h1, readCompactU16, hm]
  · by_cases h2 : n < 0x4000
    · have ha : (n % 128 + 128) % 256 = n % 128 + 128 := by omega
      have hb : n / 128 % 256 = n / 128 := by omega
      have hc : n / 128 < 128 := by omega
      have he : n % 128 + n / 128 * 128 = n := by omega
      simp [compactU16, h1, h2, readCompactU16, ha, hb, hc, he]
    · have ha : (n % 128 + 128) % 256 = n % 128 + 128 := by omega
      have hb : (n / 128 % 128 + 128) % 256 = n / 128 % 128 + 128 := by omega
      have hc : n / 16384 % 256 = n / 16384 := by omega
      have hd : ¬ (n / 16384 = 0 ∨ 4 ≤ n / 16384) := by omega
      have he : n % 128 + n / 128 % 128 * 128 + n / 16384 * 16384 = n := by omega
      simp only [compactU16, if_neg h1, if_neg h2, List.cons_append, List.nil_append,
        readCompactU16, UInt8.toNat_ofNat', Nat.reducePow, ha, hb, hc, hd, if_false]
      simp [he]

theorem reads_vec {P : α → Prop} {w : α → Bytes} {r : Reader α} (h : Reads P w r) :
    Reads (fun as => as.length < 0x10000 ∧ ∀ a ∈ as, P a) (vec w) (readVec r) := by
  intro as rest has
  have hh := reads_compactU16 as.length (as.flatMap w ++ rest) has.1
  simp only [vec, readVec, List.append_assoc, hh, Option.bind_eq_bind, Option.bind_some]
  exact reads_counted h as rest has.2

end Framing
