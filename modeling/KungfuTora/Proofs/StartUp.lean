import KungfuTora.Proofs.Signals
import KungfuTora.Trader.Sample

/-!
# The start-up does not stall

Each call of the start-up chain either sends the next request or sets a final broker state,
apart from some that do neither (`Event.deadEnd`) or take the state back (`Event.setsBack`).
Over a live connection the adapter comes to a halt in these calls and in no others.
-/

namespace KungfuTora

/-- The broker states in which nothing of the start-up is left to do. -/
def BrokerState.Final (state : BrokerState) : Prop := state = .ready ∨ state = .loginFailed

/-- Over a live connection the start-up has come to an end or a request of it is in flight. -/
def Link.Moving (link : Link) : Prop :=
  link.connected = true → link.trader.brokerState.Final ∨ link.inFlight ≠ []

instance (link : Link) : Decidable link.Moving :=
  inferInstanceAs (Decidable (_ = true → (_ ∨ _) ∨ _ ≠ []))

/-- The call ends a request with neither another request nor a broker state: an
error-free login answer without a record, a last answer with an error, a last shareholder
answer whose query for securities is refused. -/
def Event.deadEnd : Event → Bool
  | .onRspUserLogin field info _ => !isError info && field.isNone
  | .onRspQryShareholderAccount _ info bIsLast stored ret =>
    bIsLast && (isError info || (!stored && ret ≠ 0))
  | .onRspQrySecurity _ info bIsLast _ => bIsLast && isError info
  | _ => false

/-- The call sets a broker state that is not final and leaves it at that: a login whose query
for shareholder accounts is refused, a refused query for positions or the account. -/
def Event.setsBack : Event → Bool
  | .onRspUserLogin field info ret => !isError info && field.isSome && ret ≠ 0
  | .reqPosition ret => ret ≠ 0
  | .reqAccount ret => ret ≠ 0
  | _ => false

/-- A dead end over a live connection comes in a final state or with another request in
flight, a setback with another request in flight. -/
def KeepsMoving (core : Core) (before : List LinkTick) (t : LinkTick) : Prop :=
  ∀ e connection, t = .call e connection →
    let link := (linkMachine core).exec before
    link.delivers e connection = true → link.connected = true →
      (e.deadEnd = true → link.trader.brokerState.Final ∨ link.remaining e connection ≠ []) ∧
      (e.setsBack = true → link.remaining e connection ≠ [])

/-- The connection event that a tick is. -/
def LinkTick.connects : LinkTick → Option Bool
  | .call e _ => e.connects
  | .lose _ => none

/-- Over a live connection the call is neither a dead end nor a setback. -/
def GoesOn (before : List LinkTick) (t : LinkTick) : Prop :=
  ∀ e connection, t = .call e connection →
    (before.filterMap LinkTick.connects).getLastD false = true →
      e.deadEnd = false ∧ e.setsBack = false

section Moving

variable {core : Core} {link : Link} {e : Event} {connection : Nat}

/-- What the link has to do with the broker state after a call that is no connection event. -/
theorem moving_after (hconnects : e.connects = none) :
    (link.after core e connection).Moving ↔
      (link.connected = true →
        (e.states.getLastD link.trader.brokerState).Final ∨
          link.remaining e connection ≠ [] ∨ (e.accepted = true ∧ e.requests ≠ [])) := by
  have hconnected : (link.after core e connection).connected = link.connected := by
    simp [Link.after, hconnects]
  have hsends : link.sends core e connection ≠ [] ↔ e.accepted = true ∧ e.requests ≠ [] := by
    rw [sends_eq]
    cases e.accepted <;> simp
  have hinFlight : (link.after core e connection).inFlight ≠ [] ↔
      link.remaining e connection ≠ [] ∨ link.sends core e connection ≠ [] := by
    show _ ++ _ ≠ _ ↔ _
    rw [ne_eq, List.append_eq_nil_iff, not_and_or]
  unfold Link.Moving
  rw [hconnected, after_brokerState, hinFlight, hsends]

/-- A connection event leaves the login in flight or refused, or no connection. -/
theorem moving_after_connects (core : Core) (link : Link) (connection : Nat) {up : Bool}
    (hconnects : e.connects = some up) : (link.after core e connection).Moving := by
  cases e with
  | onFrontConnected ret =>
    intro _
    rw [after_brokerState]
    by_cases hret : ret = 0
    · right
      show _ ++ link.sends core _ connection ≠ []
      rw [sends_eq]
      simp [Event.accepted, Event.requests, hret]
    · left
      have hstates : (Event.onFrontConnected ret).states = [.connected, .loginFailed] := if_pos hret
      rw [hstates]
      exact Or.inr rfl
  | onFrontDisconnected nReason =>
    intro hconnected
    simp [Link.after, Event.connects] at hconnected
  | _ => simp [Event.connects] at hconnects

/-- A periodic query that is refused sets the broker state back. -/
theorem setBack_iff {ret : Int32} (hmoving : link.trader.brokerState.Final ∨ link.inFlight ≠ []) :
    ((if ret ≠ 0 then [BrokerState.disConnected] else []).getLastD link.trader.brokerState).Final ∨
        link.inFlight ≠ [] ↔ (ret ≠ 0 → link.inFlight ≠ []) := by
  by_cases hret : ret = 0
  · simp [hret, hmoving]
  · simp [hret, BrokerState.Final]

/-- Where the link was moving, it still is unless the call is a dead end or a setback that
nothing else in flight makes up for. -/
theorem moving_after_iff (hmoving : link.Moving) (hdelivers : link.delivers e connection = true) :
    (link.after core e connection).Moving ↔
      (link.connected = true →
        (e.deadEnd = true → link.trader.brokerState.Final ∨ link.remaining e connection ≠ []) ∧
        (e.setsBack = true → link.remaining e connection ≠ [])) := by
  cases hconnects : e.connects with
  | some up =>
    refine iff_of_true (moving_after_connects core link connection hconnects) ?_
    cases e with
    | onFrontConnected ret => simp [Event.deadEnd, Event.setsBack]
    | onFrontDisconnected nReason => simp [Event.deadEnd, Event.setsBack]
    | _ => simp [Event.connects] at hconnects
  | none =>
    rw [moving_after hconnects]
    apply imp_congr_right
    intro hconnected
    have hstill := hmoving hconnected
    cases e with
    | onFrontConnected ret => simp [Event.connects] at hconnects
    | onFrontDisconnected nReason => simp [Event.connects] at hconnects
    | onRspUserLogin field info ret =>
      dsimp only [Event.states, Event.requests, Event.accepted, Event.deadEnd, Event.setsBack]
      cases isError info with
      | true => simp [BrokerState.Final]
      | false =>
        cases field with
        | none => simp
        | some login => by_cases hret : ret = 0 <;> simp [hret, BrokerState.Final]
    | onRspQryShareholderAccount account info bIsLast stored ret =>
      cases bIsLast with
      | false => simp [remaining_ne_nil hdelivers rfl, Event.deadEnd, Event.setsBack]
      | true =>
        dsimp only [Event.states, Event.requests, Event.accepted, Event.deadEnd, Event.setsBack]
        cases isError info with
        | true => simp
        | false =>
          cases stored with
          | true => simp [BrokerState.Final]
          | false => by_cases hret : ret = 0 <;> simp [hret]
    | onRspQrySecurity security info bIsLast frame =>
      cases bIsLast with
      | false => simp [remaining_ne_nil hdelivers rfl, Event.deadEnd, Event.setsBack]
      | true =>
        dsimp only [Event.states, Event.requests, Event.accepted, Event.deadEnd, Event.setsBack]
        cases isError info with
        | true => simp
        | false => simp [BrokerState.Final]
    | reqPosition ret =>
      simpa [Event.states, Event.requests, Event.deadEnd, Event.setsBack, Link.remaining,
        Event.answers] using setBack_iff hstill
    | reqAccount ret =>
      simpa [Event.states, Event.requests, Event.deadEnd, Event.setsBack, Link.remaining,
        Event.answers] using setBack_iff hstill
    | _ =>
      simpa [Event.states, Event.requests, Event.deadEnd, Event.setsBack, Link.remaining,
        Event.answers] using hstill

/-- What is lost is lost without a connection. -/
theorem moving_lose (hmoving : link.Moving) (sent : Sent) :
    (linkStep core link (.lose sent)).1.Moving := by
  dsimp only [linkStep]
  by_cases hconnected : link.connected = true
  · rw [if_pos hconnected]
    exact hmoving
  · rw [if_neg hconnected]
    exact fun h => absurd h hconnected

/-- One tick on, the link is moving if and only if the tick keeps it so. -/
theorem moving_concat_iff {before : List LinkTick} {t : LinkTick}
    (hmoving : ((linkMachine core).exec before).Moving) :
    ((linkMachine core).exec (before ++ [t])).Moving ↔ KeepsMoving core before t := by
  rw [Machine.exec_concat]
  show (linkStep core _ t).1.Moving ↔ _
  unfold KeepsMoving
  cases t with
  | call e connection =>
    cases hdelivers : ((linkMachine core).exec before).delivers e connection with
    | true =>
      rw [linkStep_call hdelivers, moving_after_iff hmoving hdelivers]
      constructor
      · intro h e' connection' heq link _ hconnected
        cases heq
        exact h hconnected
      · intro h hconnected
        exact h e connection rfl hdelivers hconnected
    | false =>
      rw [linkStep_undelivered hdelivers]
      refine iff_of_true hmoving ?_
      intro e' connection' heq link hdelivers'
      cases heq
      exact absurd hdelivers' (by simp [link, hdelivers])
  | lose sent =>
    exact iff_of_true (moving_lose hmoving sent) (by simp)

/-- Where every step keeps the link moving it is moving at the end. -/
theorem link_moving {ts : List LinkTick} (hkeeps : Along (KeepsMoving core) ts) :
    ((linkMachine core).exec ts).Moving := by
  have hinit : ((linkMachine core).init).Moving := by
    intro hconnected
    simp [linkMachine] at hconnected
  apply (linkMachine core).invariant (I := fun _ link => link.Moving) hinit ?_ ts hkeeps
  intro before t hmoving hkeep
  have hafter := (moving_concat_iff hmoving).mpr hkeep
  rw [Machine.exec_concat] at hafter
  exact hafter

/-- Only a connection event changes whether the front is connected. -/
theorem linkStep_connected (t : LinkTick) :
    (linkStep core link t).1.connected = t.connects.getD link.connected := by
  cases t with
  | call e connection =>
    cases hdelivers : link.delivers e connection with
    | true =>
      rw [linkStep_call hdelivers]
      rfl
    | false =>
      -- a connection event answers nothing and always comes
      have hnone : e.connects = none := by
        cases e <;> first | rfl | simp [Link.delivers, Event.answers] at hdelivers
      rw [linkStep_undelivered hdelivers]
      simp [LinkTick.connects, hnone]
  | lose sent =>
    dsimp only [linkStep]
    split <;> rfl

/-- The front is connected if the latest connection event says so. -/
theorem link_connected (core : Core) (ts : List LinkTick) :
    ((linkMachine core).exec ts).connected = (ts.filterMap LinkTick.connects).getLastD false := by
  induction ts using List.reverseRecOn with
  | nil => rfl
  | append_singleton ts t ih =>
    rw [Machine.exec_concat, List.filterMap_append]
    refine Eq.trans (linkStep_connected t) ?_
    rw [ih]
    cases hconnects : t.connects <;> simp [hconnects]

/-- By the messages alone: a run that brings neither a dead end nor a setback over a live
connection does not come to a halt. -/
theorem moving_of_goesOn {ts : List LinkTick} (h : Along GoesOn ts) :
    ((linkMachine core).exec ts).Moving := by
  apply link_moving
  rintro before t after hts e connection rfl link - hconnected
  rw [link_connected] at hconnected
  obtain ⟨hdeadEnd, hsetsBack⟩ := h before _ after hts e connection rfl hconnected
  exact ⟨fun hend => by simp [hdeadEnd] at hend, fun hback => by simp [hsetsBack] at hback⟩

end Moving

/-- The start-up never comes to a halt over a live connection exactly in the runs in which
every dead end and every setback over one is made up for by another request in flight, or,
a dead end, by a final state that was there before. -/
theorem start_up_moves_iff (core : Core) (ts : List LinkTick) :
    (∀ before after, ts = before ++ after → ((linkMachine core).exec before).Moving) ↔
      Along (KeepsMoving core) ts := by
  constructor
  · intro hmoving before t after hts
    have hbefore := hmoving before (t :: after) hts
    exact (moving_concat_iff hbefore).mp (hmoving (before ++ [t]) after (by simp [hts]))
  · intro hkeeps before after hts
    rw [hts] at hkeeps
    exact link_moving hkeeps.of_append

/-- The login succeeds and its query for shareholder accounts is refused: the adapter stays
in LoggedIn. Ready, it is set back to DisConnected by a refused query for positions. -/
theorem refused_query_stalls :
    let refused := [.call (.onFrontConnected 0) 0,
      .call (.onRspUserLogin (some ⟨3, 7, 10, cstr "20240102"⟩) none (-1)) 1]
    let ready := [.call (.onFrontConnected 0) 0,
      .call (.onRspUserLogin (some ⟨3, 7, 10, cstr "20240102"⟩) none 0) 1,
      .call (.onRspQryShareholderAccount none none true true 0) 1, .call (.reqPosition (-2)) 0]
    ¬ ((linkMachine .sample).exec refused).Moving ∧
      ¬ ((linkMachine .sample).exec ready).Moving := by
  intro refused ready
  exact ⟨by decide, by decide⟩

end KungfuTora
