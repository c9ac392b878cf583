import Mathlib.Data.List.Destutter
import Mathlib.Order.Basic
import Xend.ChainReads
import Xend.XendWallet

/-! Watching a transaction: what a listener is given of the levels that successive
polls report. -/

namespace Xend

/-- What `GET /v1/tx/:signature` reports of a commitment. -/
def statusText : Commitment → String
  | .processed => "processed"
  | .confirmed => "confirmed"
  | .finalized => "finalized"
  | .failed => "failed"

namespace Sdk

inductive TxCommitment where
  | processed
  | confirmed
  | finalized
  deriving DecidableEq

def TxCommitment.index : TxCommitment → Nat
  | processed => 0
  | confirmed => 1
  | finalized => 2

theorem TxCommitment.index_injective : Function.Injective index := by
  intro c c' h
  cases c <;> cases c' <;> simp [index] at h ⊢

instance : LinearOrder TxCommitment :=
  LinearOrder.lift' TxCommitment.index TxCommitment.index_injective

structure TxStatus where
  handle : String
  state : String
  commitment : Option TxCommitment
  signature : Option String
  error : Option XendError

def TxStatus.isFailed (status : TxStatus) : Bool := status.state == "failed"

def txStatusFromBackend (handle raw : String) : TxStatus :=
  if raw = "finalized" then ⟨handle, "finalized", some .finalized, some handle, none⟩
  else if raw = "confirmed" then ⟨handle, "confirmed", some .confirmed, some handle, none⟩
  else if raw = "failed" then ⟨handle, "failed", none, some handle,
    some (.chainRejected "transaction failed on-chain")⟩
  else ⟨handle, "pending", some .processed, some handle, none⟩

/-- What a poll comes back with, and whether the deadline has passed behind it. -/
structure Poll where
  raw : Except DartError String
  late : Bool

abbrev Event := Except DartError TxStatus

/-- The loop of `watch`; the list of polls ends where the subscription is cancelled. -/
def watchLoop (handle : String) : Bool → Option TxCommitment → List Poll → List Event
  | _, _, [] => []
  | hasEmitted, lastEmitted, poll :: rest =>
    match poll.raw with
    | .error e => [.error e]
    | .ok raw =>
      let status := txStatusFromBackend handle raw
      if !hasEmitted || status.commitment != lastEmitted || status.isFailed then
        .ok status :: if status.isFailed || status.state == "finalized" || poll.late then []
          else watchLoop handle true status.commitment rest
      else if status.isFailed || status.state == "finalized" || poll.late then []
        else watchLoop handle hasEmitted lastEmitted rest

def XendWallet.watch (wallet : XendWallet) (handle : String) (polls : List Poll) : List Event :=
  if wallet.chain = .solana then watchLoop handle false none polls
  else [.error (.xend (.notImplementedYet ("XendWallet.watch on " ++ wallet.chain.name)))]

/-- The levels of the statuses, in the order in which they are emitted. -/
def emittedLevels (events : List Event) : List TxCommitment :=
  events.filterMap fun event => event.toOption.bind TxStatus.commitment

/-- The levels only rise, and nothing follows a failure. -/
structure MovesForward (events : List Event) : Prop where
  increasing : (emittedLevels events).Pairwise (· < ·)
  ended : ∀ earlier status later, events = earlier ++ .ok status :: later →
    status.isFailed = true → later = []

def levelOf (raw : String) : Option TxCommitment := (txStatusFromBackend "" raw).commitment

/-- The levels reported to the loop before it ends. -/
def heard : List Poll → List TxCommitment
  | [] => []
  | poll :: rest =>
    match poll.raw with
    | .error _ => []
    | .ok raw =>
      match levelOf raw with
      | none => []
      | some level => level :: if level = .finalized ∨ poll.late = true then [] else heard rest

section Destutter

variable {α : Type} [PartialOrder α] [DecidableEq α]

/-- Without its repetitions, a list increases strictly exactly if it never falls. -/
theorem pairwise_destutter' (a : α) (l : List α) :
    (l.destutter' (· ≠ ·) a).Pairwise (· < ·) ↔ (a :: l).Pairwise (· ≤ ·) := by
  induction l generalizing a with
  | nil => simp
  | cons b l ih =>
    by_cases h : a ≠ b
    · rw [List.destutter'_cons_pos _ h, List.pairwise_cons, List.pairwise_cons, ih b]
      have hmem : b ∈ l.destutter' (· ≠ ·) b := List.mem_destutter' ..
      have hsub : l.destutter' (· ≠ ·) b ⊆ b :: l := (List.destutter'_sublist ..).subset
      constructor
      · intro ⟨hlt, hle⟩
        refine ⟨fun x hx => ?_, hle⟩
        have hab : a < b := hlt b hmem
        rcases List.mem_cons.mp hx with rfl | hx
        · exact hab.le
        · exact hab.le.trans ((List.pairwise_cons.mp hle).1 x hx)
      · intro ⟨hall, hle⟩
        refine ⟨fun x hx => ?_, hle⟩
        have hab : a < b := lt_of_le_of_ne (hall b List.mem_cons_self) h
        rcases List.mem_cons.mp (hsub hx) with rfl | hx
        · exact hab
        · exact hab.trans_le ((List.pairwise_cons.mp hle).1 x hx)
    · rw [List.destutter'_cons_neg _ h, ih a, ← not_not.mp h]
      simp only [List.pairwise_cons, List.mem_cons, forall_eq_or_imp, le_refl, true_and]
      exact ⟨fun hle => ⟨hle.1, hle.1, hle.2⟩, fun hle => hle.2⟩

theorem pairwise_destutter (l : List α) : (l.destutter (· ≠ ·)).Pairwise (· < ·) ↔
    l.Pairwise (· ≤ ·) := by
  cases l with
  | nil => simp
  | cons a l => exact pairwise_destutter' a l

end Destutter

section Levels

variable {handle raw : String}

theorem txStatus_cases (handle raw : String) :
    ((txStatusFromBackend handle raw).isFailed = true ∧
      (txStatusFromBackend handle raw).commitment = none ∧ levelOf raw = none) ∨
    ∃ level, (txStatusFromBackend handle raw).isFailed = false ∧
      (txStatusFromBackend handle raw).commitment = some level ∧
      levelOf raw = some level ∧
      ((txStatusFromBackend handle raw).state == "finalized") = decide (level = .finalized) := by
  by_cases hfinalized : raw = "finalized"
  · subst hfinalized
    exact .inr ⟨.finalized, rfl, rfl, rfl, rfl⟩
  by_cases hconfirmed : raw = "confirmed"
  · subst hconfirmed
    exact .inr ⟨.confirmed, rfl, rfl, rfl, rfl⟩
  by_cases hfailed : raw = "failed"
  · subst hfailed
    exact .inl ⟨rfl, rfl, rfl⟩
  · have hstatus : ∀ h, txStatusFromBackend h raw =
        ⟨h, "pending", some .processed, some h, none⟩ := by
      intro h
      simp only [txStatusFromBackend, hfinalized, hconfirmed, hfailed, if_false]
    refine .inr ⟨.processed, ?_⟩
    rw [levelOf, hstatus, hstatus]
    exact ⟨rfl, rfl, rfl, rfl⟩

theorem watchLoop_failed {late : Bool} {rest : List Poll}
    (h : (txStatusFromBackend handle raw).isFailed = true)
    (hasEmitted : Bool) (lastEmitted : Option TxCommitment) :
    watchLoop handle hasEmitted lastEmitted (⟨.ok raw, late⟩ :: rest) =
      [.ok (txStatusFromBackend handle raw)] := by
  simp [watchLoop, h]

theorem watchLoop_level {late : Bool} {rest : List Poll} {level : TxCommitment}
    (hfailed : (txStatusFromBackend handle raw).isFailed = false)
    (hlevel : (txStatusFromBackend handle raw).commitment = some level)
    (hstate : ((txStatusFromBackend handle raw).state == "finalized") = decide (level = .finalized))
    (hasEmitted : Bool) (lastEmitted : Option TxCommitment) :
    watchLoop handle hasEmitted lastEmitted (⟨.ok raw, late⟩ :: rest) =
      if hasEmitted = false ∨ lastEmitted ≠ some level then
        .ok (txStatusFromBackend handle raw) ::
          if level = .finalized ∨ late = true then [] else watchLoop handle true (some level) rest
      else if level = .finalized ∨ late = true then []
        else watchLoop handle hasEmitted lastEmitted rest := by
  simp only [watchLoop, hfailed, hlevel, hstate]
  cases hasEmitted with
  | false => simp
  | true =>
    by_cases hlast : lastEmitted = some level
    · simp [hlast]
    · have hne : ¬ some level = lastEmitted := fun h => hlast h.symm
      simp [hlast, hne]

theorem heard_failed {late : Bool} {rest : List Poll} (h : levelOf raw = none) :
    heard (⟨.ok raw, late⟩ :: rest) = [] := by
  simp only [heard, h]

theorem heard_level {late : Bool} {rest : List Poll} {level : TxCommitment}
    (h : levelOf raw = some level) :
    heard (⟨.ok raw, late⟩ :: rest) =
      level :: if level = .finalized ∨ late = true then [] else heard rest := by
  simp only [heard, h]

theorem emittedLevels_cons_ok (status : TxStatus) (events : List Event) :
    emittedLevels (.ok status :: events) = status.commitment.toList ++ emittedLevels events := by
  cases h : status.commitment <;> simp [emittedLevels, Except.toOption, h]

/-- Behind its first status, the loop emits what differs from the last level. -/
theorem emittedLevels_loop (handle : String) (last : TxCommitment) (polls : List Poll) :
    last :: emittedLevels (watchLoop handle true (some last) polls) =
      (heard polls).destutter' (· ≠ ·) last := by
  induction polls generalizing last with
  | nil => rfl
  | cons poll rest ih =>
    obtain ⟨raw, late⟩ := poll
    cases raw with
    | error e => rfl
    | ok raw =>
      obtain ⟨hfailed, hnone, hlevel⟩ | ⟨level, hfailed, hsome, hlevel, hstate⟩ :=
        txStatus_cases handle raw
      · rw [watchLoop_failed hfailed, heard_failed hlevel, emittedLevels_cons_ok, hnone]
        rfl
      · rw [watchLoop_level hfailed hsome hstate, heard_level hlevel]
        by_cases hsame : last = level
        · subst hsame
          rw [if_neg (by simp), List.destutter'_cons_neg _ (by simp)]
          by_cases hend : last = .finalized ∨ late = true
          · rw [if_pos hend, if_pos hend]
            rfl
          · rw [if_neg hend, if_neg hend]
            exact ih last
        · rw [if_pos (.inr (by simpa using hsame)), List.destutter'_cons_pos _ hsame,
            emittedLevels_cons_ok, hsome]
          by_cases hend : level = .finalized ∨ late = true
          · rw [if_pos hend, if_pos hend]
            rfl
          · rw [if_neg hend, if_neg hend]
            exact congrArg (last :: ·) (ih level)

theorem emittedLevels_watch (handle : String) (polls : List Poll) :
    emittedLevels (watchLoop handle false none polls) = (heard polls).destutter (· ≠ ·) := by
  cases polls with
  | nil => rfl
  | cons poll rest =>
    obtain ⟨raw, late⟩ := poll
    cases raw with
    | error e => rfl
    | ok raw =>
      obtain ⟨hfailed, hnone, hlevel⟩ | ⟨level, hfailed, hsome, hlevel, hstate⟩ :=
        txStatus_cases handle raw
      · rw [watchLoop_failed hfailed, heard_failed hlevel, emittedLevels_cons_ok, hnone]
        rfl
      · rw [watchLoop_level hfailed hsome hstate, heard_level hlevel, if_pos (.inl rfl),
          emittedLevels_cons_ok, hsome]
        by_cases hend : level = .finalized ∨ late = true
        · rw [if_pos hend, if_pos hend]
          rfl
        · rw [if_neg hend, if_neg hend]
          exact emittedLevels_loop handle level rest

theorem loop_ended (handle : String) (hasEmitted : Bool) (lastEmitted : Option TxCommitment)
    (polls : List Poll)
    {earlier later : List Event} {status : TxStatus}
    (h : watchLoop handle hasEmitted lastEmitted polls = earlier ++ .ok status :: later)
    (hfailed : status.isFailed = true) : later = [] := by
  induction polls generalizing hasEmitted lastEmitted earlier with
  | nil => simp [watchLoop] at h
  | cons poll rest ih =>
    obtain ⟨raw, late⟩ := poll
    cases raw with
    | error e =>
      cases earlier <;> simp [watchLoop] at h
    | ok raw =>
      obtain ⟨hfailed', -⟩ | ⟨level, hfailed', hsome, -, hstate⟩ := txStatus_cases handle raw
      · rw [watchLoop_failed hfailed'] at h
        cases earlier with
        | nil => exact (List.cons.inj h).2.symm
        | cons event earlier => simp at h
      · have hmore : ∀ {emitted : Bool} {last : Option TxCommitment} {earlier : List Event},
            (if level = .finalized ∨ late = true then [] else watchLoop handle emitted last rest) =
              earlier ++ .ok status :: later → later = [] := by
          intro emitted last earlier h
          by_cases hend : level = .finalized ∨ late = true
          · simp [hend] at h
          · rw [if_neg hend] at h
            exact ih emitted last h
        rw [watchLoop_level hfailed' hsome hstate] at h
        by_cases hemits : hasEmitted = false ∨ lastEmitted ≠ some level
        · rw [if_pos hemits] at h
          cases earlier with
          | nil =>
            obtain ⟨rfl, -⟩ : txStatusFromBackend handle raw = status ∧ _ := by simpa using h
            rw [hfailed'] at hfailed
            cases hfailed
          | cons event earlier => exact hmore (List.cons.inj h).2
        · rw [if_neg hemits] at h
          exact hmore h

end Levels

/-- What is emitted moves forward exactly if no poll, up to the one that ends the loop,
reports a lower level than one before it. -/
theorem movesForward_iff (wallet : XendWallet) (handle : String) (polls : List Poll) :
    MovesForward (wallet.watch handle polls) ↔
    (wallet.chain = .solana → (heard polls).Pairwise (· ≤ ·)) := by
  by_cases hchain : wallet.chain = .solana
  · rw [XendWallet.watch, if_pos hchain]
    constructor
    · intro h _
      have hincreasing := h.increasing
      rwa [emittedLevels_watch, pairwise_destutter] at hincreasing
    · intro h
      refine ⟨?_,
        fun earlier status later heq hfailed => loop_ended handle false none polls heq hfailed⟩
      rw [emittedLevels_watch, pairwise_destutter]
      exact h hchain
  · rw [XendWallet.watch, if_neg hchain]
    refine iff_of_true
      ⟨by simp [emittedLevels, Except.toOption], fun earlier status later heq _ => ?_⟩ fun h =>
        absurd h hchain
    cases earlier <;> simp at heq

def nodeReply (value : Json) : RpcReply := .body (.obj [("result", .obj [("value", .arr [value])])])

/-- One node has confirmed the transaction, the next one asked has no record of it. -/
def laggingReplies : List RpcReply :=
  [nodeReply (.obj [("err", .null), ("confirmationStatus", .str "confirmed")]), nodeReply .null]

/-- The listener is told of a lower level after a higher one. -/
theorem laggingNode_movesBack :
    laggingReplies.mapM (fun reply => (commitmentOf reply).toOption.map statusText) =
      some ["confirmed", "processed"] ∧
      emittedLevels
        (XendWallet.watch ⟨"AKnL4NNf3DGWZJS6cPknBuEGnVsV4A4m5tgebLHaRSZ9", .solana⟩ "sig123"
        [⟨.ok "confirmed", false⟩, ⟨.ok "processed", false⟩]) = [.confirmed, .processed] ∧
      ¬ ∀ (wallet : XendWallet) (handle : String) (polls : List Poll),
      MovesForward (wallet.watch handle polls) := by
  have hemitted :
      emittedLevels
        (XendWallet.watch ⟨"AKnL4NNf3DGWZJS6cPknBuEGnVsV4A4m5tgebLHaRSZ9", .solana⟩ "sig123"
      [⟨.ok "confirmed", false⟩, ⟨.ok "processed", false⟩]) = [.confirmed, .processed] := by rfl
  refine ⟨by rfl, hemitted, fun h => ?_⟩
  have hincreasing := (h ⟨"AKnL4NNf3DGWZJS6cPknBuEGnVsV4A4m5tgebLHaRSZ9", .solana⟩ "sig123"
    [⟨.ok "confirmed", false⟩, ⟨.ok "processed", false⟩]).increasing
  rw [hemitted] at hincreasing
  exact absurd hincreasing (by decide)

end Sdk

end Xend
