import KungfuTora.MarketData
import KungfuTora.Trader.Sample

/-!
# Subscriptions

`subscribe` sorts its list into one list for each exchange and makes up to three calls. The
calls form a chain: one that fails ends it, also where its list is empty, so an exchange
behind it is not served, and a failure that concerns no instrument is reported. What is lost
is decided by the first call that fails.
-/

namespace KungfuTora

namespace Market

open MarketDataTora

/-- The exchanges, in the order of the calls. -/
def exchanges : List CStr := [exchangeSSE, exchangeSZE, exchangeBSE]

/-- The code under which an exchange is served. -/
def exchangeCode (exchange : CStr) : TTORATstpExchangeIDType := toToraExchange exchange 0

/-- The entries of a list that are of an exchange, in list order. -/
def tickersOf (instruments : List InstrumentKey) (exchange : CStr) : List CStr :=
  (instruments.filter fun ins => ins.exchangeId = exchange).map InstrumentKey.instrumentId

/-- A call of the vendor's function for subscriptions. -/
def Output.subscribes : Output → Option (List CStr × TTORATstpExchangeIDType)
  | .subscribeMarketData tickers exchangeId => some (tickers, exchangeId)
  | _ => none

/-- A call of the vendor's function that ends subscriptions. -/
def Output.unsubscribes : Output → Option (List CStr × TTORATstpExchangeIDType)
  | .unSubscribeMarketData tickers exchangeId => some (tickers, exchangeId)
  | _ => none

/-- What calls pass on under an exchange code. -/
def passed (calls : List (List CStr × TTORATstpExchangeIDType)) (code : TTORATstpExchangeIDType) :
    List CStr :=
  calls.flatMap fun call => if call.2 = code then call.1 else []

/-- The calls that `pick` recognises among `outputs` pass on every entry of a known exchange
once, in list order and under its own exchange code, and true is returned exactly if the call
succeeded for every exchange that has entries. -/
structure ServesAll (pick : Output → Option (List CStr × TTORATstpExchangeIDType))
    (instruments : List InstrumentKey) (ret : ReturnCodes) (outputs : List Output) : Prop where
  passes : ∀ exchange ∈ exchanges,
    passed (outputs.filterMap pick) (exchangeCode exchange) = tickersOf instruments exchange
  known : ∀ call ∈ outputs.filterMap pick, ∃ exchange ∈ exchanges, call.2 = exchangeCode exchange
  result : .returned true ∈ outputs ↔ ∀ exchange ∈ exchanges,
    tickersOf instruments exchange ≠ [] → ret (exchangeCode exchange) = 0

/-- Whether the call for an exchange succeeds. -/
def succeeds (ret : ReturnCodes) (exchange : CStr) : Bool := ret (exchangeCode exchange) = 0

/-- The first of the three calls to fail, if one does, is for an exchange with entries, and
no exchange behind it has any. -/
def FailsLast (instruments : List InstrumentKey) (ret : ReturnCodes) : Prop :=
  Chain.EndsWell (succeeds ret) (fun exchange => tickersOf instruments exchange ≠ []) exchanges

instance (instruments : List InstrumentKey) (ret : ReturnCodes) :
    Decidable (FailsLast instruments ret) :=
  inferInstanceAs (Decidable (Chain.EndsWell _ _ _))

/-! ## The loop -/

theorem tickersOf_append (instruments instruments' : List InstrumentKey) (exchange : CStr) :
    tickersOf (instruments ++ instruments') exchange =
      tickersOf instruments exchange ++ tickersOf instruments' exchange := by
  rw [tickersOf, List.filter_append, List.map_append]
  rfl

theorem tickersOf_singleton (ins : InstrumentKey) (exchange : CStr) :
    tickersOf [ins] exchange = if ins.exchangeId = exchange then [ins.instrumentId] else [] := by
  by_cases h : ins.exchangeId = exchange
  · simp [tickersOf, h]
  · simp [tickersOf, h]

/-- The lists that the loop is to leave. -/
def tickersFor (instruments : List InstrumentKey) : Tickers where
  sh := tickersOf instruments exchangeSSE
  sz := tickersOf instruments exchangeSZE
  bse := tickersOf instruments exchangeBSE

theorem push_tickersFor (instruments : List InstrumentKey) (ins : InstrumentKey) :
    (tickersFor instruments).push ins = tickersFor (instruments ++ [ins]) := by
  have hsze : exchangeSZE ≠ exchangeSSE := by decide
  have hbse : exchangeBSE ≠ exchangeSSE ∧ exchangeBSE ≠ exchangeSZE := by decide
  simp only [tickersFor, tickersOf_append, tickersOf_singleton]
  unfold Tickers.push
  by_cases h1 : ins.exchangeId = exchangeSSE
  · simp [h1, hsze.symm, hbse.1.symm]
  · by_cases h2 : ins.exchangeId = exchangeSZE
    · simp [h2, hsze, hbse.2.symm]
    · by_cases h3 : ins.exchangeId = exchangeBSE
      · simp [h3, hbse]
      · simp [h1, h2, h3]

/-- The loop sorts the entries by exchange and keeps their order. -/
theorem sortTickers_eq (instruments : List InstrumentKey) :
    sortTickers instruments = tickersFor instruments := by
  induction instruments using List.reverseRecOn with
  | nil => rfl
  | append_singleton instruments ins ih =>
    rw [sortTickers, List.foldl_append, ← push_tickersFor, ← ih]
    rfl

/-! ## The three calls -/

theorem exchanges_nodup : exchanges.Nodup := by decide

theorem exchangeCode_inj {e e' : CStr} (he : e ∈ exchanges) (he' : e' ∈ exchanges) :
    exchangeCode e = exchangeCode e' ↔ e = e' := by
  have hall : ∀ a ∈ exchanges, ∀ b ∈ exchanges, exchangeCode a = exchangeCode b → a = b := by
    decide
  exact ⟨hall e he e' he', congrArg exchangeCode⟩

section Calls

variable (request : List CStr → TTORATstpExchangeIDType → Output)
  (instruments : List InstrumentKey) (ret : ReturnCodes)

def call (exchange : CStr) : Output :=
  request (tickersOf instruments exchange) (exchangeCode exchange)

/-- The end of `subscribe` and `unsubscribe` is a chain of calls over the exchanges. -/
theorem forward_eq :
    forward request ret (sortTickers instruments) =
      ((Chain.called (succeeds ret) exchanges).flatMap fun exchange =>
        [call request instruments exchange]) ++ [.returned (exchanges.all (succeeds ret))] := by
  have hchain := Chain.foldl_andAlso (succeeds ret)
    (fun exchange => [call request instruments exchange]) (true, []) exchanges
  rw [if_pos rfl, List.nil_append] at hchain
  have hforward : ∀ done,
      exchanges.foldl (fun r exchange =>
        andAlso r (succeeds ret exchange, [call request instruments exchange])) (true, []) = done →
      forward request ret (tickersFor instruments) = done.2 ++ [.returned done.1] := by
    rintro done rfl
    rfl
  rw [sortTickers_eq, hforward _ hchain]

end Calls

/-- `pick` recognises the calls of the vendor's function `request` and no return value. -/
structure Recognises (pick : Output → Option (List CStr × TTORATstpExchangeIDType))
    (request : List CStr → TTORATstpExchangeIDType → Output) : Prop where
  request : ∀ tickers code, pick (request tickers code) = some (tickers, code)
  returned : ∀ ok, pick (.returned ok) = none

theorem subscribes_recognises : Recognises Output.subscribes .subscribeMarketData :=
  ⟨fun _ _ => rfl, fun _ => rfl⟩

theorem unsubscribes_recognises : Recognises Output.unsubscribes .unSubscribeMarketData :=
  ⟨fun _ _ => rfl, fun _ => rfl⟩

section Recognised

variable {request : List CStr → TTORATstpExchangeIDType → Output}
  {pick : Output → Option (List CStr × TTORATstpExchangeIDType)}
  (hpick : Recognises pick request) (instruments : List InstrumentKey) (ret : ReturnCodes)

include hpick

theorem filterMap_forward :
    (forward request ret (sortTickers instruments)).filterMap pick =
      (Chain.called (succeeds ret) exchanges).flatMap fun exchange =>
        [(tickersOf instruments exchange, exchangeCode exchange)] := by
  have hend : [Output.returned (exchanges.all (succeeds ret))].filterMap pick = [] := by
    simp [hpick.returned]
  rw [forward_eq, List.filterMap_append, List.filterMap_flatMap, hend, List.append_nil]
  apply List.flatMap_congr
  intro exchange _
  simp [call, hpick.request]

/-- An exchange gets its entries if its call is made, and nothing otherwise. -/
theorem passed_forward {exchange : CStr} (h : exchange ∈ exchanges) :
    passed ((forward request ret (sortTickers instruments)).filterMap pick)
        (exchangeCode exchange) =
      if exchange ∈ Chain.called (succeeds ret) exchanges then tickersOf instruments exchange
      else [] := by
  rw [filterMap_forward hpick, passed, List.flatMap_assoc,
    ← Chain.flatMap_called (succeeds ret) exchanges_nodup]
  apply List.flatMap_congr
  intro e he
  have hmem : e ∈ exchanges := (Chain.called_sublist (succeeds ret) exchanges).subset he
  simp [exchangeCode_inj hmem h]

theorem passes_iff_called {exchange : CStr} (h : exchange ∈ exchanges) :
    passed ((forward request ret (sortTickers instruments)).filterMap pick)
        (exchangeCode exchange) = tickersOf instruments exchange ↔
      (tickersOf instruments exchange ≠ [] → exchange ∈ Chain.called (succeeds ret) exchanges) := by
  rw [passed_forward hpick instruments ret h]
  by_cases hcalled : exchange ∈ Chain.called (succeeds ret) exchanges
  · simp [hcalled]
  · rw [if_neg hcalled]
    constructor
    · intro hnil hentries
      exact absurd hnil.symm hentries
    · intro hentries
      by_contra hne
      exact hcalled (hentries (Ne.symm hne))

theorem known_forward :
    ∀ call ∈ (forward request ret (sortTickers instruments)).filterMap pick,
      ∃ exchange ∈ exchanges, call.2 = exchangeCode exchange := by
  rw [filterMap_forward hpick]
  intro call hcall
  obtain ⟨exchange, hexchange, heq⟩ := List.mem_flatMap.mp hcall
  refine ⟨exchange, (Chain.called_sublist (succeeds ret) exchanges).subset hexchange, ?_⟩
  rw [List.mem_singleton.mp heq]

theorem returned_forward :
    .returned true ∈ forward request ret (sortTickers instruments) ↔
      exchanges.all (succeeds ret) = true := by
  have hcall : ∀ exchange, call request instruments exchange ≠ .returned true := by
    intro exchange heq
    have hpicked := congrArg pick heq
    rw [call, hpick.request, hpick.returned] at hpicked
    exact Option.some_ne_none _ hpicked
  rw [forward_eq]
  constructor
  · intro h
    rcases List.mem_append.mp h with h | h
    · obtain ⟨exchange, -, heq⟩ := List.mem_flatMap.mp h
      exact absurd (List.mem_singleton.mp heq).symm (hcall exchange)
    · exact (Output.returned.inj (List.mem_singleton.mp h)).symm
  · intro h
    rw [h]
    exact List.mem_append_right _ (List.mem_singleton_self _)

/-- The calls serve everything if and only if the first to fail is for the last exchange with
entries. -/
theorem forward_servesAll_iff :
    ServesAll pick instruments ret (forward request ret (sortTickers instruments)) ↔
      FailsLast instruments ret := by
  rw [FailsLast, ← Chain.complete_iff_endsWell exchanges_nodup]
  have hsucceeds : ∀ exchange,
      succeeds ret exchange = true ↔ ret (exchangeCode exchange) = 0 := by
    intro exchange
    exact decide_eq_true_iff
  constructor
  · rintro ⟨hpasses, -, hresult⟩
    constructor
    · intro exchange h
      exact (passes_iff_called hpick instruments ret h).mp (hpasses exchange h)
    · rw [← returned_forward hpick, hresult]
      simp only [hsucceeds]
  · rintro ⟨hmade, hresult⟩
    refine ⟨?_, known_forward hpick instruments ret, ?_⟩
    · intro exchange h
      exact (passes_iff_called hpick instruments ret h).mpr (hmade exchange h)
    · rw [returned_forward hpick, hresult]
      simp only [hsucceeds]

end Recognised

/-- Every subscription, and every end of one, is passed on and reported if and only if the
first call that fails, if one does, is for an exchange with entries and none behind it has
any. -/
theorem subscriptions_served_iff (core : MarketCore) (s : MarketDataTora)
    (instruments : List InstrumentKey) (ret : ReturnCodes) :
    (ServesAll Output.subscribes instruments ret (step core s (.subscribe instruments ret)).2 ↔
        FailsLast instruments ret) ∧
      (ServesAll Output.unsubscribes instruments ret
          (step core s (.unsubscribe instruments ret)).2 ↔
        FailsLast instruments ret) :=
  ⟨forward_servesAll_iff subscribes_recognises instruments ret,
    forward_servesAll_iff unsubscribes_recognises instruments ret⟩

example : FailsLast [⟨cstr "600000", exchangeSSE⟩, ⟨cstr "000001", exchangeSZE⟩]
    (fun exchangeId => if exchangeId = toraTstpExdSZSE then -1 else 0) := by
  decide

/-- The counter refuses what comes for SSE: an entry for SZE is not passed on, whether the list
for SSE has an entry or is empty. -/
theorem subscription_lost :
    let refused : ReturnCodes := fun exchangeId => if exchangeId = toraTstpExdSSE then -1 else 0
    let served := fun instruments => ServesAll Output.subscribes instruments refused
      (step .sample .initial (.subscribe instruments refused)).2
    ¬ served [⟨cstr "600000", exchangeSSE⟩, ⟨cstr "000001", exchangeSZE⟩] ∧
      ¬ served [⟨cstr "000001", exchangeSZE⟩] := by
  intro refused served
  constructor
  · intro h
    exact absurd (h.passes exchangeSZE (by decide)) (by decide)
  · intro h
    exact absurd (h.passes exchangeSZE (by decide)) (by decide)

end Market

end KungfuTora
