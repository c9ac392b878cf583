import Xend.AddressText
import Xend.Submit

/-! `POST /v1/wallets` and `GET /v1/wallets/:pubkey/transactions`: registration and
history, one call to the database at a time. -/

namespace Xend

open Framing Interaction

/-- What the handlers use of `bs58` and `chrono`; instants are counted in the
resolution of the database. -/
structure TextFormats where
  bs58 : String → Option Bytes
  parseFromRfc3339 : String → Option Int

inductive WalletRequest where
  | register (pubkey : String)
  | history (pubkey : String) (limit : Option Int) (before : Option String)

inductive WalletResponse where
  | registered (walletId : Nat) (pubkey : String)
  | transactions (records : List Record)
  deriving DecidableEq

/-- `limit.unwrap_or(20).clamp(1, 100)`. -/
def clampLimit (limit : Option Int) : Nat := (max 1 (min (limit.getD 20) 100)).toNat

namespace TextFormats

variable (formats : TextFormats)

def parseCursor : Option String → Except AppError (Option Int)
  | none => .ok none
  | some cursor =>
    match formats.parseFromRfc3339 cursor with
    | some before => .ok (some before)
    | none => .error (.badRequest "before must be an RFC3339 timestamp")

def register (pubkey : String) : Handler WalletResponse := do
  attempt (validateSolanaPubkey formats.bs58 pubkey)
  let walletId ← query (.upsert pubkey)
  return .registered walletId pubkey

def list (walletId limit : Nat) (before : Option Int) : Handler WalletResponse := do
  let records ← query (.listForWallet walletId limit before)
  return .transactions records

def history (pubkey : String) (limit : Option Int) (before : Option String) :
    Handler WalletResponse := do
  attempt (validateSolanaPubkey formats.bs58 pubkey)
  let before ← attempt (formats.parseCursor before)
  match ← query (.findIdByPubkey pubkey) with
  | some walletId => list walletId (clampLimit limit) before
  | none => return .transactions []

def handle : WalletRequest → Handler WalletResponse
  | .register pubkey => formats.register pubkey
  | .history pubkey limit before => formats.history pubkey limit before

end TextFormats

/-- Where one of the two handlers stands. -/
inductive WalletPhase where
  | upsert (pubkey : String)
  | findWallet (pubkey : String) (limit : Nat) (before : Option Int)
  | list (walletId limit : Nat) (before : Option Int)
  | answered (r : Except AppError WalletResponse)

namespace WalletPhase

def afterUpsert (pubkey : String) : Except AppError Nat → WalletPhase
  | .error e => answered (.error e)
  | .ok walletId => answered (.ok (.registered walletId pubkey))

def afterFindWallet (limit : Nat) (before : Option Int) : Except AppError (Option Nat) → WalletPhase
  | .error e => answered (.error e)
  | .ok (some walletId) => list walletId limit before
  | .ok none => answered (.ok (.transactions []))

def afterList : Except AppError (List Record) → WalletPhase
  | .error e => answered (.error e)
  | .ok records => answered (.ok (.transactions records))

def resume : WalletPhase → Prog Call Call.Reply (Except AppError WalletResponse)
  | upsert pubkey => .call (.upsert pubkey) <| proceed fun walletId =>
      pure (.registered walletId pubkey)
  | findWallet pubkey limit before => .call (.findIdByPubkey pubkey) <| proceed fun
    | some walletId => TextFormats.list walletId limit before
    | none => pure (.transactions [])
  | list walletId limit before => (TextFormats.list walletId limit before).run
  | answered r => .done r

end WalletPhase

def WalletRequest.begin (formats : TextFormats) : WalletRequest → WalletPhase
  | register pubkey =>
    match validateSolanaPubkey formats.bs58 pubkey with
    | .ok () => .upsert pubkey
    | .error e => .answered (.error e)
  | history pubkey limit before =>
    match validateSolanaPubkey formats.bs58 pubkey with
    | .ok () =>
      match formats.parseCursor before with
      | .ok before => .findWallet pubkey (clampLimit limit) before
      | .error e => .answered (.error e)
    | .error e => .answered (.error e)

/-- The call made in each phase, and the phase its reply leads to. -/
inductive WalletMoves : WalletPhase → (c : Call) → (c.Reply → WalletPhase) → Prop
  | upsert (pubkey : String) :
      WalletMoves (.upsert pubkey) (.upsert pubkey) (WalletPhase.afterUpsert pubkey)
  | findWallet (pubkey : String) (limit : Nat) (before : Option Int) :
    WalletMoves (.findWallet pubkey limit before) (.findIdByPubkey pubkey)
      (WalletPhase.afterFindWallet limit before)
  | list (walletId limit : Nat) (before : Option Int) :
    WalletMoves (.list walletId limit before) (.listForWallet walletId limit before)
      WalletPhase.afterList

namespace WalletPhase

theorem resume_upsert (pubkey : String) :
    (upsert pubkey).resume = .call (.upsert pubkey) fun r => (afterUpsert pubkey r).resume := by
  refine congrArg (Prog.call _) (funext fun r => ?_)
  cases r <;> rfl

theorem resume_list (walletId limit : Nat) (before : Option Int) :
    (list walletId limit before).resume =
      .call (.listForWallet walletId limit before) fun r => (afterList r).resume := by
  rw [resume, TextFormats.list, run_ask_bind]
  refine congrArg (Prog.call _) (funext fun r => ?_)
  cases r <;> rfl

theorem resume_findWallet (pubkey : String) (limit : Nat) (before : Option Int) :
    (findWallet pubkey limit before).resume =
      .call (.findIdByPubkey pubkey) fun r => (afterFindWallet limit before r).resume := by
  refine congrArg (Prog.call _) (funext fun r => ?_)
  rcases r with e | _ | walletId <;> rfl

theorem resume_call {ph : WalletPhase} {c : Call}
    {k : c.Reply → Prog Call Call.Reply (Except AppError WalletResponse)}
    (h : ph.resume = .call c k) :
    ∃ next, WalletMoves ph c next ∧ k = fun r => (next r).resume := by
  cases ph with
  | upsert pubkey =>
    rw [resume_upsert] at h
    cases h
    exact ⟨_, .upsert pubkey, rfl⟩
  | findWallet pubkey limit before =>
    rw [resume_findWallet] at h
    cases h
    exact ⟨_, .findWallet pubkey limit before, rfl⟩
  | list walletId limit before =>
    rw [resume_list] at h
    cases h
    exact ⟨_, .list walletId limit before, rfl⟩
  | answered r => cases h

theorem eq_answered {ph : WalletPhase} {r : Except AppError WalletResponse}
    (h : ph.resume = .done r) :
    ph = .answered r := by
  cases ph with
  | upsert pubkey => rw [resume_upsert] at h; cases h
  | findWallet pubkey limit before => rw [resume_findWallet] at h; cases h
  | list walletId limit before => rw [resume_list] at h; cases h
  | answered r' => cases h; rfl

end WalletPhase

theorem run_handle (formats : TextFormats) (req : WalletRequest) :
    (formats.handle req).run = (req.begin formats).resume := by
  cases req with
  | register pubkey =>
    simp only [TextFormats.handle, TextFormats.register, run_attempt_bind, WalletRequest.begin]
    cases validateSolanaPubkey formats.bs58 pubkey with
    | error e => rfl
    | ok _ =>
      refine (run_ask_bind _ _).trans (congrArg (Prog.call _) (funext fun r => ?_))
      cases r <;> rfl
  | history pubkey limit before =>
    simp only [TextFormats.handle, TextFormats.history, run_attempt_bind, WalletRequest.begin]
    cases validateSolanaPubkey formats.bs58 pubkey with
    | error e => rfl
    | ok _ =>
      simp only [proceed, run_attempt_bind]
      cases formats.parseCursor before with
      | error e => rfl
      | ok before =>
        refine (run_ask_bind _ _).trans (congrArg (Prog.call _) (funext fun r => ?_))
        rcases r with e | _ | walletId <;> rfl

end Xend
