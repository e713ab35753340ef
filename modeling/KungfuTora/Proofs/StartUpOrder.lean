import KungfuTora.Misc.Relay
import KungfuTora.Proofs.Readiness

/-!
# The start-up of a connection is a relay

The callbacks that carry the start-up on check neither the connection nor what was asked
before. All the same each connection asks for its login, its accounts and its securities at
most once and in this order, and comes to Ready at most once, after either query: a request is
made only in answer to the one before, so each chain has at most one request in flight,
whatever is lost and whichever connections' answers cross.
-/

namespace KungfuTora

/-- What the start-up of a connection comes to. -/
inductive Milestone where
  /-- The API has taken a request. -/
  | asked (request : Request)
  | ready
  deriving DecidableEq, Repr

namespace Milestone

def First (m : Milestone) : Prop := m = .asked .login

/-- What the answer to a request may lead to. -/
def Follows : Milestone → Milestone → Prop
  | .asked .login, m => m = .asked .shareholders
  | .asked .shareholders, m => m = .asked .security ∨ m = .ready
  | .asked .security, m => m = .ready
  | .ready, _ => False

/-- The two ways to Ready: through the query for securities, or past it. -/
theorem courses_of_isPath {ms : List Milestone} (h : IsPath First Follows ms) :
    ms <+: [.asked .login, .asked .shareholders, .asked .security, .ready] ∨
      ms <+: [.asked .login, .asked .shareholders, .ready] := by
  obtain ⟨hhead, hchain⟩ := h
  cases ms with
  | nil => exact Or.inl List.nil_prefix
  | cons m ms =>
    obtain rfl : m = .asked .login := hhead m rfl
    cases ms with
    | nil => exact Or.inl ⟨_, rfl⟩
    | cons m ms =>
      obtain ⟨hm, hchain⟩ := List.isChain_cons_cons.mp hchain
      obtain rfl : m = .asked .shareholders := hm
      cases ms with
      | nil => exact Or.inl ⟨_, rfl⟩
      | cons m ms =>
        obtain ⟨hm, hchain⟩ := List.isChain_cons_cons.mp hchain
        obtain rfl | rfl : m = .asked .security ∨ m = .ready := hm
        · cases ms with
          | nil => exact Or.inl ⟨_, rfl⟩
          | cons m ms =>
            obtain ⟨hm, hchain⟩ := List.isChain_cons_cons.mp hchain
            obtain rfl : m = .ready := hm
            cases ms with
            | nil => exact Or.inl ⟨_, rfl⟩
            | cons m ms => exact (List.isChain_cons_cons.mp hchain).1.elim
        · cases ms with
          | nil => exact Or.inr ⟨_, rfl⟩
          | cons m ms => exact (List.isChain_cons_cons.mp hchain).1.elim

end Milestone

open Milestone

/-- The requests of the chain that a connection event began. -/
def askedBy (connection : Nat) (sents : List Sent) : List Milestone :=
  (sents.filter fun sent => sent.connection = connection).map fun sent => .asked sent.request

/-- What a tick brings the start-up of a connection: the requests that the API takes, and the
broker state Ready, which a call that answers a request of the connection sets. -/
def milestones (core : Core) (connection : Nat) (link : Link) : LinkTick → List Milestone
  | .call e answered =>
    if link.delivers e answered then
      askedBy connection (link.sends core e answered) ++
        if answered = connection then
          (((step core link.trader e).2.filterMap Output.setsState).filter
            (· = .ready)).map fun _ => .ready
        else []
    else []
  | .lose _ => []

/-! ## One call -/

/-- The start-up requests that the API takes in the course of a call. -/
def Event.asks (e : Event) : List Milestone := if e.accepted then e.requests.map .asked else []

/-- A milestone for each time that a call sets the broker state to Ready. -/
def Event.readies (e : Event) : List Milestone :=
  (e.states.filter (· = .ready)).map fun _ => .ready

/-- What a call brings a start-up, by its arguments. -/
def Event.reached (e : Event) : List Milestone := e.asks ++ e.readies

/-- An answer leads to at most one milestone, the last answer only, and to one that follows on
what was asked. -/
theorem reached_of_answers {e : Event} {request : Request} {bIsLast : Bool}
    (hanswers : e.answers = some (request, bIsLast)) :
    e.reached = [] ∨ bIsLast = true ∧ ∃ m, Follows (.asked request) m ∧ e.reached = [m] := by
  cases e with
  | onRspUserLogin field info ret =>
    obtain ⟨rfl, rfl⟩ := Prod.ext_iff.mp (Option.some.inj hanswers)
    dsimp only [Event.reached, Event.asks, Event.readies, Event.accepted, Event.requests,
      Event.states]
    cases isError info with
    | true => exact Or.inl (by simp)
    | false =>
      cases field with
      | none => exact Or.inl (by simp)
      | some login =>
        by_cases hret : ret = 0
        · exact Or.inr ⟨rfl, .asked .shareholders, rfl, by simp [hret]⟩
        · exact Or.inl (by simp [hret])
  | onRspQryShareholderAccount account info isLast stored ret =>
    obtain ⟨rfl, rfl⟩ := Prod.ext_iff.mp (Option.some.inj hanswers)
    dsimp only [Event.reached, Event.asks, Event.readies, Event.accepted, Event.requests,
      Event.states]
    cases isError info with
    | true => exact Or.inl (by simp)
    | false =>
      cases isLast with
      | false => exact Or.inl (by simp)
      | true =>
        cases stored with
        | true => exact Or.inr ⟨rfl, .ready, Or.inr rfl, by simp⟩
        | false =>
          by_cases hret : ret = 0
          · exact Or.inr ⟨rfl, .asked .security, Or.inl rfl, by simp [hret]⟩
          · exact Or.inl (by simp [hret])
  | onRspQrySecurity security info isLast frame =>
    obtain ⟨rfl, rfl⟩ := Prod.ext_iff.mp (Option.some.inj hanswers)
    dsimp only [Event.reached, Event.asks, Event.readies, Event.accepted, Event.requests,
      Event.states]
    cases isError info with
    | true => exact Or.inl (by simp)
    | false =>
      cases isLast with
      | false => exact Or.inl (by simp)
      | true => exact Or.inr ⟨rfl, .ready, rfl, by simp⟩
  | _ => simp [Event.answers] at hanswers

/-- A call that neither answers a request nor is about the connection brings a start-up
nothing. -/
theorem reached_of_other {e : Event} (hanswers : e.answers = none) (hconnects : e.connects = none) :
    e.reached = [] := by
  cases e with
  | onFrontConnected ret => simp [Event.connects] at hconnects
  | onFrontDisconnected nReason => simp [Event.connects] at hconnects
  | onRspUserLogin field info ret => simp [Event.answers] at hanswers
  | onRspQryShareholderAccount account info bIsLast stored ret => simp [Event.answers] at hanswers
  | onRspQrySecurity security info bIsLast frame => simp [Event.answers] at hanswers
  | reqPosition ret => by_cases hret : ret = 0 <;> simp [Event.reached, Event.asks, Event.readies,
      Event.accepted, Event.states, hret]
  | reqAccount ret => by_cases hret : ret = 0 <;> simp [Event.reached, Event.asks, Event.readies,
      Event.accepted, Event.states, hret]
  | _ => rfl

/-- A connection event takes up a start-up with its login, or brings it nothing. -/
theorem reached_of_connects {e : Event} {up : Bool} (hconnects : e.connects = some up) :
    e.reached = [] ∨ e.reached = [.asked .login] := by
  cases e with
  | onFrontConnected ret =>
    dsimp only [Event.reached, Event.asks, Event.readies, Event.accepted, Event.requests,
      Event.states]
    by_cases hret : ret = 0
    · exact Or.inr (by simp [hret])
    · exact Or.inl (by simp [hret])
  | onFrontDisconnected nReason => exact Or.inl rfl
  | _ => simp [Event.connects] at hconnects

/-! ## One tick -/

section Tick

variable {core : Core} {link : Link} {e : Event} {answered connection : Nat}

theorem askedBy_append (sents sents' : List Sent) :
    askedBy connection (sents ++ sents') =
      askedBy connection sents ++ askedBy connection sents' := by
  unfold askedBy
  rw [List.filter_append, List.map_append]

/-- The chain that the requests of a call belong to. -/
def Link.chainOf (link : Link) (e : Event) (answered : Nat) : Nat :=
  if e.connects.isSome then link.connection + 1 else answered

theorem askedBy_sends :
    askedBy connection (link.sends core e answered) =
      if link.chainOf e answered = connection then e.asks else [] := by
  have hsends : link.sends core e answered =
      if e.accepted then e.requests.map fun request => ⟨request, link.chainOf e answered⟩
      else [] := by
    rw [sends_eq]
    unfold Link.chainOf Link.connectionAfter
    cases e.connects <;> rfl
  rw [hsends]
  unfold askedBy Event.asks
  cases e.accepted with
  | false => simp
  | true => by_cases h : link.chainOf e answered = connection <;>
    simp [h, List.filter_map, Function.comp_def]

theorem askedBy_after :
    askedBy connection (link.after core e answered).inFlight =
      askedBy connection (link.remaining e answered) ++
        if link.chainOf e answered = connection then e.asks else [] := by
  show askedBy connection (_ ++ link.sends core e answered) = _
  rw [askedBy_append, askedBy_sends]

theorem milestones_call (hdelivers : link.delivers e answered = true) :
    milestones core connection link (.call e answered) =
      (if link.chainOf e answered = connection then e.asks else []) ++
        if answered = connection then e.readies else [] := by
  show (if link.delivers e answered = true then _ else _) = _
  rw [if_pos hdelivers, askedBy_sends, (step_signals core link.trader e).sets]
  rfl

/-- Losing or answering a request of another chain. -/
theorem askedBy_erase_other {sent : Sent} (h : sent.connection ≠ connection) :
    askedBy connection (link.inFlight.erase sent) = askedBy connection link.inFlight := by
  unfold askedBy
  rw [← List.erase_filter, List.erase_of_not_mem]
  simp [h]

/-- The only request of a chain in flight. -/
theorem filter_eq_single (hone : (askedBy connection link.inFlight).length ≤ 1) {sent : Sent}
    (hsent : sent ∈ link.inFlight) (h : sent.connection = connection) :
    link.inFlight.filter (fun sent => sent.connection = connection) = [sent] := by
  have hmem : sent ∈ link.inFlight.filter fun sent => sent.connection = connection :=
    List.mem_filter.mpr ⟨hsent, by simpa using h⟩
  unfold askedBy at hone
  rw [List.length_map] at hone
  cases hchain : link.inFlight.filter fun sent => sent.connection = connection with
  | nil => simp [hchain] at hmem
  | cons first rest =>
    rw [hchain, List.length_cons] at hone
    obtain rfl : rest = [] := List.eq_nil_of_length_eq_zero (by omega)
    rw [hchain, List.mem_singleton] at hmem
    rw [hmem]

theorem askedBy_eq_single (hone : (askedBy connection link.inFlight).length ≤ 1) {sent : Sent}
    (hsent : sent ∈ link.inFlight) (h : sent.connection = connection) :
    askedBy connection link.inFlight = [.asked sent.request] := by
  unfold askedBy
  rw [filter_eq_single hone hsent h]
  rfl

theorem askedBy_erase_single (hone : (askedBy connection link.inFlight).length ≤ 1) {sent : Sent}
    (hsent : sent ∈ link.inFlight) (h : sent.connection = connection) :
    askedBy connection (link.inFlight.erase sent) = [] := by
  unfold askedBy
  rw [← List.erase_filter, filter_eq_single hone hsent h]
  simp

/-- A connection event takes up the start-up of the connection it begins. -/
theorem hands_connects {up : Bool} (hconnects : e.connects = some up)
    (hdelivers : link.delivers e answered = true)
    (hfresh : link.connection < connection → askedBy connection link.inFlight = []) :
    Hands First Follows (link.connection < connection)
      ((link.after core e answered).connection < connection) (askedBy connection link.inFlight)
      (askedBy connection (link.after core e answered).inFlight)
      (milestones core connection link (.call e answered)) := by
  have hanswers : e.answers = none := by
    cases e <;> first | rfl | simp [Event.connects] at hconnects
  have hchain : link.chainOf e answered = link.connection + 1 := by
    simp [Link.chainOf, hconnects]
  have hafter : (link.after core e answered).connection = link.connection + 1 := by
    simp [Link.after, Link.connectionAfter, hconnects]
  have hremaining : link.remaining e answered = link.inFlight := by
    simp [Link.remaining, hanswers]
  have hreached := reached_of_connects hconnects
  have hreadies : e.readies = [] := by
    cases e with
    | onFrontConnected ret =>
      by_cases hret : ret = 0 <;> simp [Event.readies, Event.states, hret]
    | onFrontDisconnected nReason => rfl
    | _ => simp [Event.connects] at hconnects
  unfold Event.reached at hreached
  rw [hreadies, List.append_nil] at hreached
  rw [milestones_call hdelivers, askedBy_after, hchain, hafter, hremaining, hreadies, ite_self,
    List.append_nil]
  rcases hreached with hasks | hasks
  · rw [hasks, ite_self, List.append_nil]
    exact .rests fun h => by omega
  · by_cases hnext : link.connection + 1 = connection
    · rw [if_pos hnext, hasks, hfresh (by omega)]
      exact .takes (by omega) (by omega) rfl (List.suffix_refl _)
    · rw [if_neg hnext, List.append_nil]
      exact .rests fun h => by omega

/-- An answer hands on the start-up that it belongs to, drops it or leaves it alone. -/
theorem hands_answers {request : Request} {bIsLast : Bool}
    (hanswers : e.answers = some (request, bIsLast)) (hdelivers : link.delivers e answered = true)
    (hone : (askedBy connection link.inFlight).length ≤ 1) :
    Hands First Follows (link.connection < connection)
      ((link.after core e answered).connection < connection) (askedBy connection link.inFlight)
      (askedBy connection (link.after core e answered).inFlight)
      (milestones core connection link (.call e answered)) := by
  have hconnects : e.connects = none := by
    cases e <;> first | rfl | simp [Event.answers] at hanswers
  have hchain : link.chainOf e answered = answered := by simp [Link.chainOf, hconnects]
  have hafter : (link.after core e answered).connection = link.connection := by
    simp [Link.after, Link.connectionAfter, hconnects]
  have hsent : ⟨request, answered⟩ ∈ link.inFlight := sent_of_delivers hdelivers hanswers
  rw [milestones_call hdelivers, askedBy_after, hchain, hafter]
  by_cases hours : answered = connection
  · rw [if_pos hours, if_pos hours]
    have hheld := askedBy_eq_single hone hsent hours
    have hlast : bIsLast = true → askedBy connection (link.remaining e answered) = [] := by
      rintro rfl
      simp only [Link.remaining, hanswers]
      exact askedBy_erase_single hone hsent hours
    rcases reached_of_answers hanswers with hnone | ⟨rfl, m, hm, hreached⟩
    · obtain ⟨hasks, hreadies⟩ := List.append_eq_nil_iff.mp hnone
      rw [hasks, hreadies, List.append_nil]
      cases bIsLast with
      | true =>
        rw [hlast rfl]
        exact .drops id hheld
      | false =>
        simp only [Link.remaining, hanswers]
        exact .rests id
    · rw [hlast rfl, List.nil_append]
      have hasks : e.asks <:+ [m] := by
        rcases List.append_eq_singleton_iff.mp hreached with ⟨hasks, -⟩ | ⟨hasks, -⟩
        · simp [hasks]
        · simp [hasks]
      have hreached' : e.asks ++ e.readies = [m] := hreached
      rw [hreached']
      exact .hands id hheld hm hasks
  · rw [if_neg hours, if_neg hours, List.append_nil]
    have hother : askedBy connection (link.remaining e answered) =
        askedBy connection link.inFlight := by
      unfold Link.remaining
      split
      · exact askedBy_erase_other hours
      · rfl
    rw [hother]
    exact .rests id

/-- What a tick does with the start-up of a connection. -/
theorem hands_step (core : Core) (connection : Nat) (link : Link) (t : LinkTick)
    (hone : (askedBy connection link.inFlight).length ≤ 1)
    (hfresh : link.connection < connection → askedBy connection link.inFlight = []) :
    Hands First Follows (link.connection < connection)
      ((linkStep core link t).1.connection < connection) (askedBy connection link.inFlight)
      (askedBy connection (linkStep core link t).1.inFlight)
      (milestones core connection link t) := by
  cases t with
  | lose sent =>
    dsimp only [linkStep, milestones]
    by_cases hconnected : link.connected = true
    · rw [if_pos hconnected]
      exact .rests id
    · rw [if_neg hconnected]
      by_cases hsent : sent ∈ link.inFlight ∧ sent.connection = connection
      · show Hands _ _ _ _ _ (askedBy connection (link.inFlight.erase sent)) _
        rw [askedBy_erase_single hone hsent.1 hsent.2]
        exact .drops id (askedBy_eq_single hone hsent.1 hsent.2)
      · have hother : askedBy connection (link.inFlight.erase sent) =
            askedBy connection link.inFlight := by
          by_cases hmem : sent ∈ link.inFlight
          · exact askedBy_erase_other fun h => hsent ⟨hmem, h⟩
          · rw [List.erase_of_not_mem hmem]
        show Hands _ _ _ _ _ (askedBy connection (link.inFlight.erase sent)) _
        rw [hother]
        exact .rests id
  | call e answered =>
    cases hdelivers : link.delivers e answered with
    | false =>
      rw [linkStep_undelivered hdelivers]
      simp only [milestones, hdelivers, Bool.false_eq_true, if_false]
      exact .rests id
    | true =>
      rw [linkStep_call hdelivers]
      cases hconnects : e.connects with
      | some up => exact hands_connects hconnects hdelivers hfresh
      | none =>
        cases hanswers : e.answers with
        | some answer => exact hands_answers hanswers hdelivers hone
        | none =>
          obtain ⟨hasks, hreadies⟩ := List.append_eq_nil_iff.mp
            (reached_of_other hanswers hconnects)
          have hafter : (link.after core e answered).connection = link.connection := by
            simp [Link.after, Link.connectionAfter, hconnects]
          have hremaining : link.remaining e answered = link.inFlight := by
            simp [Link.remaining, hanswers]
          rw [milestones_call hdelivers, askedBy_after, hafter, hremaining, hasks, hreadies,
            ite_self, ite_self, List.append_nil, List.append_nil]
          exact .rests id

end Tick

end KungfuTora
