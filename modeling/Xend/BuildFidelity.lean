import Xend.SigningBoundary

/-! What becomes of the amount and the addresses of a build request: from the decimal
text the SDK sends, through `build`, to the instructions as the chain parses them. -/

namespace Xend.Sdk

open BackendClient Framing

section Build

variable {adapter : SolanaAdapter} {rpc : BuildRpc} {mint : Option String}
  {asset : Option (Pubkey × UInt8)} {amount : Nat}

variable {source recipient : String} {sender dest : Pubkey}

end Build

open Reference

end Xend.Sdk
