import Xend.Base64
import Xend.BuildTransfer

/-! `POST /v1/tx/build`: the request as it is read, the transfer it asks for, and the
answer. -/

namespace Xend

open Framing

namespace AppError

def statusCode : AppError → Nat
  | badRequest _ => 400
  | unauthorized => 401
  | rateLimited _ => 429
  | insufficientFunds => 422
  | invalidRecipient => 422
  | blockhashExpired => 409
  | chainRejected _ => 422
  | network _ => 502
  | database _ => 500
  | internal _ => 500

def code : AppError → String
  | badRequest _ => "bad_request"
  | unauthorized => "unauthorized"
  | rateLimited _ => "rate_limited"
  | insufficientFunds => "insufficient_funds"
  | invalidRecipient => "invalid_recipient"
  | blockhashExpired => "blockhash_expired"
  | chainRejected _ => "chain_rejected"
  | network _ => "network"
  | database _ => "internal"
  | internal _ => "internal"

def publicMessage : AppError → String
  | badRequest message => "invalid request: " ++ message
  | unauthorized => "unauthorized"
  | rateLimited retryAfterSecs => "rate limited; retry after " ++ toString retryAfterSecs ++ "s"
  | insufficientFunds => "insufficient funds"
  | invalidRecipient => "invalid recipient address"
  | blockhashExpired => "blockhash expired"
  | chainRejected reason => "chain rejected: " ++ reason
  | network detail => "upstream/network error: " ++ detail
  | database _ => "internal error"
  | internal _ => "internal error"

def retryAfter : AppError → Json
  | rateLimited retryAfterSecs => .int retryAfterSecs
  | _ => .null

/-- The body of `into_response`. -/
def body (e : AppError) : Json :=
  .obj [("error", .obj [("code", .str e.code), ("message", .str e.publicMessage),
    ("retry_after", e.retryAfter)])]

theorem statusCode_ge (e : AppError) : 400 ≤ e.statusCode := by
  cases e <;> simp [statusCode]

end AppError

/-- `str::parse::<u128>`. -/
def u128FromStr (s : String) : Option Nat :=
  let digits := match s.toList with
    | '+' :: cs => cs
    | cs => cs
  if digits = [] ∨ digits.all Char.isDigit = false then none
  else if Nat.ofDigitChars 10 digits 0 < 2 ^ 128 then some (Nat.ofDigitChars 10 digits 0) else none

structure BuildRequest where
  sender : String
  toAddress : String
  amount : String
  mint : Option String

def BuildRequest.fields : List String := ["from", "to", "amount", "mint"]

def BuildRequest.ofJson (j : Json) : Option BuildRequest := do
  let [sender, toAddress, amount, mint] ← j.record fields | none
  some ⟨← requiredStr sender, ← requiredStr toAddress, ← requiredStr amount, ← optionalStr mint⟩

structure BuildResponse where
  message : String
  validUntil : Nat
  feePayerSignature : Option String

def BuildResponse.toJson (r : BuildResponse) : Json :=
  .obj ([("message", .str r.message), ("valid_until", .int r.validUntil)] ++
    (r.feePayerSignature.map fun s => ("fee_payer_signature", Json.str s)).toList)

def build (adapter : SolanaAdapter) (rpc : BuildRpc) (req : BuildRequest) :
    Except AppError BuildResponse := do
  let amount ← okOr (u128FromStr req.amount) (.badRequest "amount must be a base-unit integer")
  let unsigned ← adapter.buildTransfer rpc ⟨req.sender, req.toAddress, amount, req.mint⟩
  .ok
    { message := Base64.encode unsigned.message
      validUntil := unsigned.validUntil
      feePayerSignature := unsigned.feePayerSignature.map Base64.encode }

theorem u128FromStr_repr (n : Nat) : u128FromStr n.repr = if n < 2 ^ 128 then some n else none := by
  have hdigit : ∀ c ∈ Nat.toDigits 10 n, c.isDigit = true := fun c hc =>
    Nat.isDigit_of_mem_toDigits (by omega) (by omega) hc
  have hdigits : (match n.repr.toList with
      | '+' :: cs => cs
      | cs => cs) = Nat.toDigits 10 n := by
    rw [Nat.toList_repr]
    split
    · rename_i cs hcs
      have hplus := hdigit '+' (hcs ▸ List.mem_cons_self)
      exact absurd hplus (by decide)
    · rfl
  have hwell : ¬ (Nat.toDigits 10 n = [] ∨ (Nat.toDigits 10 n).all Char.isDigit = false) := by
    rintro (hnil | hnot)
    · exact Nat.toDigits_ne_nil hnil
    · rw [List.all_eq_true.mpr hdigit] at hnot
      cases hnot
  simp only [u128FromStr, hdigits, hwell, if_false, Nat.ofDigitChars_ten_toDigits]

theorem build_eq_ok {adapter : SolanaAdapter} {rpc : BuildRpc}
    {req : BuildRequest} {r : BuildResponse}
    (h : build adapter rpc req = .ok r) :
    ∃ amount u, u128FromStr req.amount = some amount ∧
      adapter.buildTransfer rpc ⟨req.sender, req.toAddress, amount, req.mint⟩ = .ok u ∧
      r = ⟨Base64.encode u.message, u.validUntil, u.feePayerSignature.map Base64.encode⟩ := by
  simp only [build, bind_eq_ok, okOr_eq_ok, ok_eq_ok] at h
  obtain ⟨amount, hamount, u, hu, rfl⟩ := h
  exact ⟨amount, u, hamount, hu, rfl⟩

end Xend
