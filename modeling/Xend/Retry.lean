import Xend.History

/-! A payment that is sent again under its key, after it has been made: it is found, and
nothing else is paid. -/

namespace Xend.Sdk.XendWallet

open Framing Interaction BackendClient

section Retry

variable {b : Backend} {apiKey apiKey' : Option String} {kit kit' : Kit} {s s' s₁ s₂ : Deployment}
    {vs ws us : List Circumstance}

theorem replayed_of_accounted {sdk : SolanaSdk} {req : SubmitRequest} {l l' : Ledger}
    {handle handle' status : String}
    (h : Accounted sdk req l ⟨handle', status⟩ l')
    (hsigned : l.signatureOf req.idempotencyKey = some handle) :
    handle' = handle ∧ l' = l := by
  cases h with
  | replayed hfound =>
    rw [Ledger.signatureOf, hfound] at hsigned
    exact ⟨Option.some.inj hsigned, rfl⟩
  | marked _ _ hrow _ _ _ =>
    obtain ⟨row, hlookup, hrowSigned⟩ := Ledger.signatureOf_eq_some.mp hsigned
    rcases hrow with ⟨hclaimed, hunsigned⟩ | ⟨hnone, -⟩
    · obtain rfl := Option.some.inj (hclaimed.symm.trans hlookup)
      rw [hunsigned] at hrowSigned
      cases hrowSigned
    · rw [hnone] at hlookup
      cases hlookup

/-- Once a payment under a key has returned, whatever is sent under this key later, from
whichever phone, returns the same signature, and its submission only looks the key up.
The server serves one request at a time. -/
theorem retry_replays {keys : Option String} (hgateway : b.gateway = .fromEnv keys)
    (hdoc : b.adapter.sdk.Documented)
    {intent intent' : Intent} {key handle handle' : String}
    (hclock : ∀ t ∈ (intent.send kit (some key)).run.steps (Deployment.execute b apiKey) s vs,
      t.verdict.Timely)
    (hsend : (intent.send kit (some key)).run.run (Deployment.execute b apiKey) s vs =
      (s', some (.ok handle)))
    {α : Type} (meanwhile : Dart α)
    (hmeanwhile : s₁.server = (meanwhile.run.run (Deployment.execute b apiKey) s' ws).1.server)
    (hclock' : ∀ t ∈ (intent'.send kit' (some key)).run.steps (Deployment.execute b apiKey') s₁ us,
      t.verdict.Timely)
    (hretry : (intent'.send kit' (some key)).run.run (Deployment.execute b apiKey') s₁ us =
      (s₂, some (.ok handle'))) :
    handle' = handle ∧ ∃ earlier t recipient u signature,
      (intent'.send kit' (some key)).run.steps (Deployment.execute b apiKey') s₁ us =
        earlier ++ [t] ∧
      t.call = .http (intent'.submission recipient u signature key).request ∧
      s₂.server.ledger = (t.before.met b t.verdict).ledger ∧
      ∀ c ∈ (submit b.adapter.sdk (intent'.submitted recipient u signature key)).run.steps
        Ledger.execute
        (t.before.met b t.verdict).ledger t.verdict.verdicts, c.call = .findByIdempotency key := by
  obtain ⟨_, _, _, _, _, _, key₁, _, -, hprepared, haccounted⟩ :=
    paid_of_run hgateway hdoc hclock hsend
  obtain rfl := hprepared.key_eq key rfl
  obtain ⟨earlier, d, v, recipient, u, signature, key₂, status, hsteps, hprepared', haccounted'⟩ :=
    paid_of_run hgateway hdoc hclock' hretry
  obtain rfl := hprepared'.key_eq key₁ rfl
  obtain ⟨row, hrow, hsigned⟩ := Ledger.signatureOf_eq_some.mp haccounted.signed
  have hbetween : s'.server.ledger.Preserves s₁.server.ledger :=
    hmeanwhile ▸ preserves_run b apiKey meanwhile s' ws
  have hstep : ⟨d, .http (intent'.submission recipient u signature key₂).request, v⟩ ∈
      (intent'.send kit' (some key₂)).run.steps (Deployment.execute b apiKey') s₁ us := by
    rw [hsteps]
    exact List.mem_append_right _ List.mem_cons_self
  have hpreserves : ∀ t : Step Call Deployment Circumstance, True →
      s₁.server.ledger.Preserves t.before.server.ledger →
      s₁.server.ledger.Preserves (t.before.execute b apiKey' t.call t.verdict).1.server.ledger :=
    fun t _ h => preserves_step t h
  have hretrying : s₁.server.ledger.Preserves d.server.ledger :=
    Prog.steps_preserve (J := fun d : Deployment => s₁.server.ledger.Preserves d.server.ledger)
      hpreserves _ (.refl _)
      us (fun _ _ => trivial) _ hstep
  have hkept :=
    ((hbetween.trans hretrying).trans (d.preserves_met b v)).rows _ row hrow
      (hsigned ▸ Option.some_ne_none handle)
  have hfound : (d.met b v).ledger.signatureOf key₂ = some handle :=
    Ledger.signatureOf_eq_some.mpr ⟨row, hkept, hsigned⟩
  have hquiet :
      ∀ c ∈ (submit b.adapter.sdk (intent'.submitted recipient u signature key₂)).run.steps
        Ledger.execute
      (d.met b v).ledger v.verdicts, c.call = .findByIdempotency key₂ :=
        (submit_signed b.adapter.sdk hfound v.verdicts).2
  obtain ⟨hhandle, hledger⟩ := replayed_of_accounted haccounted' hfound
  exact ⟨hhandle, earlier, _, recipient, u, signature, hsteps, rfl, hledger, hquiet⟩

end Retry

section Sample

open Reference

theorem resubmitted_sample :
    ∃ l, (submit sampleSdk (submitTransfer true "key")).run.run Ledger.execute (.empty ∅)
      (List.replicate 5 (landed true)) =
        (l, some (.ok ⟨signatureText true, "submitted"⟩)) ∧
      (submit sampleSdk (submitTransfer true "key")).run.run Ledger.execute l
        (List.replicate 5 (landed true)) =
        (l, some (.ok ⟨signatureText true, "submitted"⟩)) := by
  rw [run_submitTransfer]
  exact ⟨_, rfl, rfl⟩

/-- The payment is sent twice, and made once. -/
theorem retry_replays_sample :
    ∃ vs us s' s₂,
    (sampleIntent.send sampleKit (some "key")).run.run
      (Deployment.execute (backendOn sampleWeb) none)
        ⟨sampleDevice, ⟨∅, .empty ∅⟩⟩ vs = (s', some (.ok (signatureText true))) ∧
      (sampleIntent.send sampleKit (some "key")).run.run
        (Deployment.execute (backendOn sampleWeb) none) s' us =
        (s₂, some (.ok (signatureText true))) ∧
      ∃ earlier t,
      (sampleIntent.send sampleKit (some "key")).run.steps
        (Deployment.execute (backendOn sampleWeb) none) s' us =
          earlier ++ [t] ∧
          s₂.server.ledger = (t.before.met (backendOn sampleWeb) t.verdict).ledger := by
  obtain ⟨l, hsubmit, hresubmit⟩ := resubmitted_sample
  have hsent : (sampleIntent.send sampleKit (some "key")).run.answered
      (Deployment.execute (backendOn sampleWeb) none)
      (fun _ => sampleCircumstance) ⟨sampleDevice, ⟨∅, .empty ∅⟩⟩ =
        (⟨sampleDevice, ⟨sampleWindows 2, l⟩⟩, .ok (signatureText true)) :=
          send_sample hsubmit sampleWeb (n := 0) rfl rfl
  have hresent : (sampleIntent.send sampleKit (some "key")).run.answered
      (Deployment.execute (backendOn sampleWeb) none)
      (fun _ => sampleCircumstance) ⟨sampleDevice, ⟨sampleWindows 2, l⟩⟩ =
        (⟨sampleDevice, ⟨sampleWindows 4, l⟩⟩, .ok (signatureText true)) :=
          send_sample hresubmit sampleWeb rfl rfl
  obtain ⟨vs, hrun, hsteps⟩ :=
    Prog.run_answered (Deployment.execute (backendOn sampleWeb) none) (fun _ => sampleCircumstance)
    (sampleIntent.send sampleKit (some "key")).run ⟨sampleDevice, ⟨∅, .empty ∅⟩⟩
  obtain ⟨us, hrun', hsteps'⟩ :=
    Prog.run_answered (Deployment.execute (backendOn sampleWeb) none) (fun _ => sampleCircumstance)
    (sampleIntent.send sampleKit (some "key")).run ⟨sampleDevice, ⟨sampleWindows 2, l⟩⟩
  rw [hsent] at hrun
  rw [hresent] at hrun'
  have htimely : sampleCircumstance.Timely := show 0 + 90 < 2 ^ 63 by omega
  obtain ⟨-, earlier, t, -, -, -, hlast, -, hledger, -⟩ := retry_replays
    (show (backendOn sampleWeb).gateway = .fromEnv none from rfl) sampleSdk_documented
    (fun t ht => hsteps t ht ▸ htimely) hrun (pure () : Dart Unit)
    (show _ =
      ((pure () : Dart Unit).run.run (Deployment.execute (backendOn sampleWeb) none) _
        []).1.server from rfl)
    (fun t ht => hsteps' t ht ▸ htimely) hrun'
  exact ⟨vs, us, _, _, hrun, hrun', earlier, t, hlast, hledger⟩

end Sample

end Xend.Sdk.XendWallet
