import Xend.Framing

/-! The key derivation function PBKDF2 over a pseudorandom function with outputs of
`hLen` octets. -/

namespace Pbkdf2

open Framing

/-- Four octets, the most significant first. -/
def int32 (i : Nat) : Bytes :=
  [UInt8.ofNat (i / 2 ^ 24), UInt8.ofNat (i / 2 ^ 16), UInt8.ofNat (i / 2 ^ 8), UInt8.ofNat i]

def xorOctets (a b : Bytes) : Bytes := a.zipWith (· ^^^ ·) b

section Definition

variable (prf : Bytes → Bytes → Bytes) (hLen : Nat) (password salt : Bytes)

/-- The iteration `U_(j + 1)` of block `i`. -/
def iteration (i : Nat) : Nat → Bytes
  | 0 => prf password (salt ++ int32 i)
  | j + 1 => prf password (iteration i j)

/-- The block `T_i`, the XOR of its iterations from `U_1` to `U_c`. -/
def block (c i : Nat) : Bytes :=
  ((List.range c).map (iteration prf password salt i)).foldl xorOctets (List.replicate hLen 0)

/-- The blocks `T_1` to `T_n`, one after the other. -/
def stream (c n : Nat) : Bytes :=
  (List.range n).flatMap fun k => block prf hLen password salt c (k + 1)

/-- The first `length` octets of as many blocks as hold them. -/
def derivedKey (c length : Nat) : Bytes :=
  (stream prf hLen password salt c ((length + hLen - 1) / hLen)).take length

end Definition

theorem zeros_xorOctets {n : Nat} {a : Bytes} (h : a.length = n) :
    xorOctets (List.replicate n 0) a = a := by
  induction a generalizing n with
  | nil => simp [xorOctets]
  | cons b a ih =>
    subst h
    have hrest := ih rfl
    rw [xorOctets] at hrest ⊢
    rw [List.length_cons, List.replicate_succ, List.zipWith_cons_cons, hrest, UInt8.zero_xor]

theorem xorOctets_length {n : Nat} {a b : Bytes} (ha : a.length = n) (hb : b.length = n) :
    (xorOctets a b).length = n := by
  rw [xorOctets, List.length_zipWith, ha, hb, min_self]

section Blocks

variable {prf : Bytes → Bytes → Bytes} {hLen : Nat} (password salt : Bytes)

theorem block_succ (c i : Nat) : block prf hLen password salt (c + 1) i =
    xorOctets (block prf hLen password salt c i) (iteration prf password salt i c) := by
  rw [block, List.range_succ, List.map_append, List.foldl_append]
  rfl

theorem stream_succ (c n : Nat) : stream prf hLen password salt c (n + 1) =
    stream prf hLen password salt c n ++ block prf hLen password salt c (n + 1) := by
  rw [stream, List.range_succ, List.flatMap_append, List.flatMap_singleton]
  rfl

theorem stream_prefix {m n : Nat} (h : m ≤ n) (c : Nat) :
    stream prf hLen password salt c m <+: stream prf hLen password salt c n := by
  induction h with
  | refl => exact List.prefix_rfl
  | step h ih =>
    rw [Nat.succ_eq_add_one, stream_succ]
    exact ih.trans (List.prefix_append _ _)

variable (hprf : ∀ key data, (prf key data).length = hLen)
include hprf

theorem iteration_length (i j : Nat) : (iteration prf password salt i j).length = hLen := by
  cases j with
  | zero => exact hprf _ _
  | succ j => exact hprf _ _

theorem block_one (i : Nat) :
    block prf hLen password salt 1 i = iteration prf password salt i 0 := by
  rw [block_succ]
  exact zeros_xorOctets (iteration_length password salt hprf i 0)

theorem block_length (c i : Nat) : (block prf hLen password salt c i).length = hLen := by
  induction c with
  | zero => exact List.length_replicate
  | succ c ih =>
    rw [block_succ]
    exact xorOctets_length ih (iteration_length password salt hprf i c)

theorem stream_length (c n : Nat) : (stream prf hLen password salt c n).length = n * hLen := by
  induction n with
  | zero =>
    rw [Nat.zero_mul]
    rfl
  | succ n ih =>
    rw [stream_succ, List.length_append, ih, block_length password salt hprf, Nat.succ_mul]

/-- More blocks than it takes change nothing. -/
theorem derivedKey_eq (hpos : 0 < hLen) {length n : Nat} (h : length ≤ n * hLen) (c : Nat) :
    derivedKey prf hLen password salt c length =
      (stream prf hLen password salt c n).take length := by
  let needed := (length + hLen - 1) / hLen
  have hmod := Nat.mod_lt (length + hLen - 1) hpos
  have hdiv : hLen * needed + (length + hLen - 1) % hLen = length + hLen - 1 := Nat.div_add_mod _ _
  have hholds : length ≤ needed * hLen := by
    rw [Nat.mul_comm]
    omega
  have hneeded : needed ≤ n := by
    rw [Nat.div_le_iff_le_mul_add_pred hpos, Nat.mul_comm]
    omega
  obtain ⟨rest, hrest⟩ :
      stream prf hLen password salt c needed <+: stream prf hLen password salt c n :=
    stream_prefix password salt hneeded c
  have hlength := stream_length password salt hprf c needed
  rw [← hrest, List.take_append_of_le_length (hlength ▸ hholds)]
  rfl

end Blocks

end Pbkdf2
