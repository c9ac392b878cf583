import Xend.Framing
import Xend.Json

/-! The chain-agnostic port: errors, intents and unsigned transactions, and what
a JSON-RPC exchange can bring back. -/

namespace Xend

open Framing

inductive AppError where
  | badRequest (message : String)
  | unauthorized
  | rateLimited (retryAfterSecs : Nat)
  | insufficientFunds
  | invalidRecipient
  | blockhashExpired
  | chainRejected (reason : String)
  | network (detail : String)
  | database (detail : String)
  | internal (detail : String)
  deriving DecidableEq

structure TransferIntent where
  sender : String
  toAddress : String
  amount : Nat
  mint : Option String

structure UnsignedTx where
  message : Bytes
  validUntil : Nat
  feePayerSignature : Option Bytes

inductive RpcReply where
  | transport (e : String)
  | undecodable (e : String)
  | body (j : Json)

/-- The two failures every RPC call maps before it looks at the body. -/
def RpcReply.json : RpcReply → Except AppError Json
  | .transport e => .error (.network s!"rpc request failed: {e}")
  | .undecodable e => .error (.network s!"rpc decode failed: {e}")
  | .body j => .ok j

end Xend
