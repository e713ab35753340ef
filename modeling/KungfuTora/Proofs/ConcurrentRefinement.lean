import KungfuTora.Proofs.CancelAtomicity
import KungfuTora.Proofs.LedgerRefinement

/-!
# The interrupted adapter refines the ledger

The three refinements one above the other: the desk, in which inserts and cancels can be
interrupted, the gateway with atomic cancels, the adapter with atomic calls, the ledger
without keys. What a run of the desk sends about orders and what it journals about each order
is what the ledger makes of the atomic calls that the run comes to.
-/

namespace KungfuTora

open TraderTora

section Channels

variable {c : Channel}

/-- What Kungfu is answered goes to neither the counter nor an order's journal. -/
theorem onChannel_answering (hc : c ≠ .rest) (os : List Output) :
    onChannel c (answering false os) = onChannel c os := by
  unfold onChannel answering
  rw [List.filter_filter]
  congr 1
  apply List.filter_congr
  intro o _
  by_cases ho : o.channel = c
  · have hanswer : o.answersKungfu = false := by
      cases o <;> first | rfl | exact absurd ho.symm hc
    simp [ho, hanswer]
  · simp [ho]

/-- What goes there is about orders. -/
theorem onChannel_businessOf (hc : c ≠ .rest) (os : List Output) :
    onChannel c (businessOf os) = onChannel c os := by
  have hidem : ∀ o : Output, o.withoutId.withoutId = o.withoutId := by
    intro o
    cases o <;> rfl
  unfold onChannel businessOf
  rw [List.filter_map, List.map_map, List.filter_filter]
  have hfilter : os.filter (fun o =>
      ((fun o : Output => decide (o.channel = c)) ∘ Output.withoutId) o && !o.isSession) =
        os.filter fun o => o.channel = c := by
    apply List.filter_congr
    intro o _
    by_cases ho : o.channel = c
    · have hsession : o.isSession = false := by
        by_contra hsession
        rw [← ho, Output.channel_of_isSession (by simpa using hsession)] at hc
        exact hc rfl
      simp [Output.withoutId_channel, ho, hsession]
    · simp [Output.withoutId_channel, ho]
  rw [hfilter]
  apply List.map_congr_left
  intro o _
  exact hidem o

theorem onChannel_nil : onChannel c [] = [] := rfl

end Channels

section Layers

variable {core : Core} {c : Channel}

/-- The desk and the gateway with atomic cancels. -/
theorem desk_onChannel (hc : c ≠ .rest) (ts : List DeskTick) :
    (desk core).log (fun d t => onChannel c (deskStep core d t).2) ts =
      (gateway core).log (fun g t => onChannel c (gatewayStep core g t).2) (deskRun core ts) := by
  have hanswer : answering false (((desk core).exec ts).toAnswer core) = [] := by
    refine List.filter_eq_nil_iff.mpr fun o ho => ?_
    have : o.answersKungfu = true := by
      unfold Desk.toAnswer at ho
      cases hcancelling : ((desk core).exec ts).cancelling with
      | none => simp [hcancelling] at ho
      | some call =>
        rw [hcancelling] at ho
        exact settleCancel_outputs call _ o ho
    simp [this]
  have hlogs := (desk_settles core ts false).2
  rw [hanswer, List.append_nil] at hlogs
  have hlogs := congrArg (onChannel c) hlogs
  unfold Machine.log at hlogs
  rw [← Machine.logFrom_hom _ _ onChannel_nil (onChannel_append c),
    ← Machine.logFrom_hom _ _ onChannel_nil (onChannel_append c)] at hlogs
  simp only [onChannel_answering hc] at hlogs
  exact hlogs

/-- The adapter with atomic calls and the ledger. -/
theorem ledger_onChannel (hcore : core.KeepsOrderId) (hc : c ≠ .rest) {es : List Event}
    (hrefs : RefsHashApart core es) (hsessions : SessionsApart core es)
    (hnumbers : NumbersHashApart core es) :
    (adapter core).log (fun s e => onChannel c (step core s e).2) es =
      (ledger core).log (fun l e => onChannel c (l.step core e).2) es := by
  have hlogs := congrArg (onChannel c) (ledger_keeps hcore hrefs hsessions hnumbers).2
  unfold Machine.log at hlogs
  rw [← Machine.logFrom_hom _ _ onChannel_nil (onChannel_append c),
    ← Machine.logFrom_hom _ _ onChannel_nil (onChannel_append c)] at hlogs
  simp only [onChannel_businessOf hc] at hlogs
  exact hlogs

end Layers

/-- Whatever comes between the effects of inserts and cancels, once no insert is under way: the
requests about orders and the journal of each order are, in the same order, what the ledger
makes of the atomic calls that the run comes to, and the tables hold the states and records
that it says. -/
theorem interrupted_refines_ledger (core : Core) (hcore : core.KeepsOrderId) (ts : List DeskTick)
    (hfresh : ((insertCalls core (deskRun core ts)).map fun call => call.input.orderId).Nodup)
    (hundisturbed : Undisturbed core (deskRun core ts))
    (hrefs : RefsHashApart core (atomicRun core (deskRun core ts)))
    (hsessions : SessionsApart core (atomicRun core (deskRun core ts)))
    (hnumbers : NumbersHashApart core (atomicRun core (deskRun core ts)))
    (hreturned : ((desk core).exec ts).gateway.inserting = none) :
    let es := atomicRun core (deskRun core ts)
    let s := ((desk core).exec ts).gateway.trader
    let facts := ((ledger core).exec es).facts
    (∀ c, c ≠ .rest → (desk core).log (fun d t => onChannel c (deskStep core d t).2) ts =
        (ledger core).log (fun l e => onChannel c (l.step core e).2) es) ∧
      ∀ orderId, s.orders orderId = Fact.stateOf core orderId facts ∧
        s.outboundOrders orderId = Fact.recordOf orderId facts := by
  intro es s facts
  have hsettles := (desk_settles core ts true).1
  have hidle : ((gateway core).exec (deskRun core ts)).inserting = none :=
    hsettles.inserting.trans hreturned
  have hahead := fun c => gateway_ahead hcore hfresh hundisturbed c
  constructor
  · intro c hc
    rw [desk_onChannel hc, (hahead c).2, ← ledger_onChannel hcore hc hrefs hsessions hnumbers]
    unfold Gateway.putOut
    rw [hidle]
    exact List.append_nil _
  · intro orderId
    -- what a cancel does when it returns leaves these tables alone
    have htrader : ((gateway core).exec (deskRun core ts)).trader = (adapter core).exec es := by
      have h := (hahead .rest).1.trader
      rw [hidle] at h
      exact h
    have htables : s.orders = ((adapter core).exec es).orders ∧
        s.outboundOrders = ((adapter core).exec es).outboundOrders := by
      rw [← htrader, hsettles.trader]
      cases ((desk core).exec ts).cancelling <;> exact ⟨rfl, rfl⟩
    have hkeeps := (ledger_keeps hcore hrefs hsessions hnumbers).1
    rw [htables.1, htables.2]
    exact ⟨hkeeps.orders orderId, hkeeps.records orderId⟩

/-- A return comes in between the effects of an insert, an answer before a cancel returns. -/
theorem interrupted_refines_ledger_two :
    let before : List Tick := [.event (sampleLogin 3 7 10)] ++
      uninterrupted (.insertOrder (.sample 1 100)) ++
      [.event (.insertOrder (.sample 2 101)), .event (.onRtnOrder (.sample 3 7 11 65) 5),
        .resume, .resume, .resume, .event (.cancelOrder (.sample 100)),
        .event (.onRspOrderInsert (.sample 12 66) none)]
    let ts : List DeskTick :=
      before.map .tick ++ [.settle, .tick (.event (.onRtnTrade (.sample 11 65) 1 7))]
    let es := atomicRun .sample (deskRun .sample ts)
    ∀ c, c ≠ .rest → (desk .sample).log (fun d t => onChannel c (deskStep .sample d t).2) ts =
      (ledger .sample).log (fun l e => onChannel c (l.step .sample e).2) es := by
  intro before ts
  exact (interrupted_refines_ledger .sample Core.sample_keepsOrderId ts (by decide) (by decide)
    (by decide) (by decide) (by decide) (by decide)).1

end KungfuTora
