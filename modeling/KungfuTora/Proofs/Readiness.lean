import KungfuTora.Proofs.Signals
import KungfuTora.Trader.Sample

/-!
# Ready over a connection that is logged in on

The answers that set the adapter to Ready say nothing about the connection, so one to a
request of a lost connection counts like any other. An answer of the chain that the
latest connection event began does come over a live connection, after its login, so Ready
means what it says in the runs that only such answers complete.
-/

namespace KungfuTora

open TraderTora

/-- The call is the answer that completes the start-up. -/
def Event.completes : Event → Bool
  | .onRspQryShareholderAccount _ info bIsLast stored _ => !isError info && bIsLast && stored
  | .onRspQrySecurity _ info bIsLast _ => !isError info && bIsLast
  | _ => false

/-- The front is connected, and a login has been processed since it was. -/
def Link.Live (link : Link) : Prop := link.connected = true ∧ link.loggedIn = true

/-- Whenever a run sets the adapter to Ready, the link is live. -/
def ReadyLive (core : Core) (ts : List LinkTick) : Prop :=
  ∀ before t after, ts = before ++ t :: after →
    .brokerState .ready ∈ (linkMachine core).outputs before t →
      ((linkMachine core).exec before).Live

/-- An answer that completes the start-up belongs to the chain of requests that the latest
connection event began. -/
def CompletesChain (core : Core) (before : List LinkTick) : LinkTick → Prop
  | .call e connection =>
    let link := (linkMachine core).exec before
    link.delivers e connection = true → e.completes = true → connection = link.connection
  | .lose _ => True

instance (core : Core) (before : List LinkTick) :
    (t : LinkTick) → Decidable (CompletesChain core before t)
  | .call _ _ => inferInstanceAs (Decidable (_ → _ → _ = _))
  | .lose _ => .isTrue trivial

/-- What the requests in flight say about the link: a chain begins upon a connection event,
with a login if the event was `OnFrontConnected`, and goes on after that login's answer. -/
def Link.Chained (link : Link) : Prop :=
  ∀ sent ∈ link.inFlight, sent.connection ≤ link.connection ∧
    (sent.connection = link.connection →
      link.connected = true ∧ (sent.request ≠ .login → link.loggedIn = true))

section Ready

variable {core : Core} {link : Link} {e : Event} {connection : Nat}

/-- What is still in flight was in flight. -/
theorem mem_of_remaining {sent : Sent} (h : sent ∈ link.remaining e connection) :
    sent ∈ link.inFlight := by
  unfold Link.remaining at h
  split at h
  · exact List.mem_of_mem_erase h
  · exact h

/-- Only the answer to a login or to the query for accounts leads to another request of its
chain, the former by logging in. -/
theorem chain_of_requests {request : Request} (hconnects : e.connects = none)
    (hrequest : request ∈ e.requests) :
    (∃ bIsLast, e.answers = some (.login, bIsLast) ∧ (loginOf e).isSome = true) ∨
      ∃ bIsLast, e.answers = some (.shareholders, bIsLast) := by
  cases e with
  | onFrontConnected ret => simp [Event.connects] at hconnects
  | onRspUserLogin field info ret =>
    left
    refine ⟨true, rfl, ?_⟩
    simp only [Event.requests] at hrequest
    split at hrequest
    · rename_i hlogin
      simp only [loginOf, hlogin.1, Bool.false_eq_true, if_false]
      exact hlogin.2
    · simp at hrequest
  | onRspQryShareholderAccount account info bIsLast stored ret => exact Or.inr ⟨bIsLast, rfl⟩
  | _ => simp [Event.requests] at hrequest

theorem chained_after (h : link.Chained) (hdelivers : link.delivers e connection = true) :
    (link.after core e connection).Chained := by
  intro sent hsent
  have hsent : sent ∈ link.remaining e connection ++ link.sends core e connection := hsent
  rw [List.mem_append, sends_eq] at hsent
  cases hconnects : e.connects with
  | some up =>
    have hnext : (link.after core e connection).connection = link.connection + 1 := by
      simp [Link.after, Link.connectionAfter, hconnects]
    rw [hnext]
    rcases hsent with hsent | hsent
    · have hle := (h sent (mem_of_remaining hsent)).1
      exact ⟨by omega, fun heq => by omega⟩
    · -- the event is `OnFrontConnected` and the request its login
      cases e with
      | onFrontConnected ret =>
        split at hsent
        · simp only [Event.requests, List.map_cons, List.map_nil, List.mem_singleton] at hsent
          rw [hsent]
          refine ⟨?_, fun _ => ⟨rfl, fun hlogin => absurd rfl hlogin⟩⟩
          simp [Event.connects, Link.connectionAfter]
        · simp at hsent
      | onFrontDisconnected nReason => simp [Event.accepted] at hsent
      | _ => simp [Event.connects] at hconnects
  | none =>
    have hafter : (link.after core e connection).connection = link.connection ∧
        (link.after core e connection).connected = link.connected ∧
        (link.after core e connection).loggedIn = (link.loggedIn || (loginOf e).isSome) := by
      simp [Link.after, Link.connectionAfter, hconnects]
    obtain ⟨hconnection, hconnected, hloggedIn⟩ := hafter
    rw [hconnection, hconnected, hloggedIn]
    rcases hsent with hsent | hsent
    · obtain ⟨hle, hcurrent⟩ := h sent (mem_of_remaining hsent)
      refine ⟨hle, fun heq => ⟨(hcurrent heq).1, fun hlogin => ?_⟩⟩
      rw [(hcurrent heq).2 hlogin, Bool.true_or]
    · split at hsent
      · simp only [hconnects, Option.isSome_none, Bool.false_eq_true, if_false,
          List.mem_map] at hsent
        obtain ⟨request, hrequest, rfl⟩ := hsent
        -- the new request belongs to the chain of the answered one
        rcases chain_of_requests hconnects hrequest with
          ⟨bIsLast, hanswers, hlogin⟩ | ⟨bIsLast, hanswers⟩
        · obtain ⟨hle, hcurrent⟩ := h _ (sent_of_delivers hdelivers hanswers)
          refine ⟨hle, fun heq => ⟨(hcurrent heq).1, fun _ => ?_⟩⟩
          rw [hlogin, Bool.or_true]
        · obtain ⟨hle, hcurrent⟩ := h _ (sent_of_delivers hdelivers hanswers)
          refine ⟨hle, fun heq => ⟨(hcurrent heq).1, fun _ => ?_⟩⟩
          rw [(hcurrent heq).2 (by simp), Bool.true_or]
      · simp at hsent

theorem chained_step (h : link.Chained) (t : LinkTick) : (linkStep core link t).1.Chained := by
  cases t with
  | call e connection =>
    cases hdelivers : link.delivers e connection with
    | true =>
      rw [linkStep_call hdelivers]
      exact chained_after h hdelivers
    | false =>
      rw [linkStep_undelivered hdelivers]
      exact h
  | lose sent =>
    dsimp only [linkStep]
    split
    · exact h
    · exact fun sent' hsent' => h sent' (List.mem_of_mem_erase hsent')

theorem link_chained (core : Core) (ts : List LinkTick) :
    ((linkMachine core).exec ts).Chained := by
  have hinit : ((linkMachine core).init).Chained := by
    intro sent hsent
    simp [linkMachine] at hsent
  apply (linkMachine core).always (I := fun _ link => link.Chained) hinit
  intro ts t h
  exact chained_step h t

/-- An answer of the chain that the latest connection event began comes over a live connection
that has been logged in on. -/
theorem live_of_chain (h : link.Chained) (hdelivers : link.delivers e connection = true)
    (hcompletes : e.completes = true) (hcurrent : connection = link.connection) : link.Live := by
  have hanswers : ∃ request bIsLast, e.answers = some (request, bIsLast) ∧ request ≠ .login := by
    cases e with
    | onRspQryShareholderAccount account info bIsLast stored ret =>
      exact ⟨.shareholders, bIsLast, rfl, by simp⟩
    | onRspQrySecurity security info bIsLast frame => exact ⟨.security, bIsLast, rfl, by simp⟩
    | _ => simp [Event.completes] at hcompletes
  obtain ⟨request, bIsLast, hanswers, hlogin⟩ := hanswers
  obtain ⟨-, hsent⟩ := h _ (sent_of_delivers hdelivers hanswers)
  obtain ⟨hconnected, hloggedIn⟩ := hsent hcurrent
  exact ⟨hconnected, hloggedIn hlogin⟩

/-- Ready is set by the answers that complete the start-up, and by no other call. -/
theorem ready_mem_iff (core : Core) (s : TraderTora) (e : Event) :
    .brokerState .ready ∈ (step core s e).2 ↔ e.completes = true := by
  have hsets : .brokerState .ready ∈ (step core s e).2 ↔ BrokerState.ready ∈ e.states := by
    rw [← (step_signals core s e).sets, List.mem_filterMap]
    constructor
    · exact fun h => ⟨_, h, rfl⟩
    · rintro ⟨o, ho, hstate⟩
      cases o with
      | brokerState state =>
        rw [← Option.some.inj hstate]
        exact ho
      | _ => simp [Output.setsState] at hstate
  rw [hsets]
  cases e with
  | onFrontConnected ret => simp only [Event.states, Event.completes]; split <;> simp
  | onRspUserLogin field info ret =>
    simp only [Event.states, Event.completes]
    split
    · simp
    · split <;> simp
  | onRspQryShareholderAccount account info bIsLast stored ret =>
    simp [Event.states, Event.completes, and_assoc]
  | onRspQrySecurity security info bIsLast frame => simp [Event.states, Event.completes]
  | reqPosition ret => simp [Event.states, Event.completes]
  | reqAccount ret => simp [Event.states, Event.completes]
  | _ => simp [Event.states, Event.completes]

end Ready

/-- In a run that only answers of the chain begun by the latest connection event complete, Ready
is set only over a live connection that has been logged in on. -/
theorem ready_live (core : Core) (ts : List LinkTick) (hchain : Along (CompletesChain core) ts) :
    ReadyLive core ts := by
  intro before t after hts hout
  have hout : .brokerState .ready ∈ (linkStep core ((linkMachine core).exec before) t).2 := hout
  cases t with
  | call e connection =>
    cases hdelivers : ((linkMachine core).exec before).delivers e connection with
    | true =>
      rw [linkStep_call hdelivers] at hout
      have hcompletes := (ready_mem_iff core _ e).mp hout
      have hcurrent := hchain before _ after hts hdelivers hcompletes
      exact live_of_chain (link_chained core before) hdelivers hcompletes hcurrent
    | false =>
      rw [linkStep_undelivered hdelivers] at hout
      simp at hout
  | lose sent =>
    dsimp only [linkStep] at hout
    split at hout <;> simp at hout

/-- After a reconnection the old query for accounts is answered with an error, then the new
connection's login and its query. -/
theorem ready_live_reconnected :
    ReadyLive .sample
      [.call (.onFrontConnected 0) 0,
        .call (.onRspUserLogin (some ⟨3, 7, 10, cstr "20240102"⟩) none 0) 1,
        .call (.onFrontDisconnected 0) 0, .call (.onFrontConnected 0) 0,
        .call (.onRspQryShareholderAccount none (some ⟨9, cstr "no"⟩) true true 0) 1,
        .call (.onRspUserLogin (some ⟨3, 8, 10, cstr "20240102"⟩) none 0) 3,
        .call (.onRspQryShareholderAccount none none true true 0) 3] :=
  ready_live .sample _ (by decide)

/-- The connection is lost while the accounts are queried; after the next one has been made,
and before its login is answered, the old answer sets the adapter to Ready. -/
theorem stale_answer_sets_ready :
    let before := [.call (.onFrontConnected 0) 0,
      .call (.onRspUserLogin (some ⟨3, 7, 10, cstr "20240102"⟩) none 0) 1,
      .call (.onFrontDisconnected 0) 0, .call (.onFrontConnected 0) 0]
    let answer := .call (.onRspQryShareholderAccount none none true true 0) 1
    ¬ ReadyLive .sample (before ++ [answer]) := by
  intro before answer h
  have hlive := h before answer [] rfl (by decide)
  exact absurd hlive.2 (by decide)

end KungfuTora
