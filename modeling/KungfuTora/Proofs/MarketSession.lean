import Mathlib.Algebra.Ring.Nat
import KungfuTora.MarketData
import KungfuTora.Misc.Counter

/-!
# The market data gateway over whole runs

What the gateway asks of the vendor is determined by the configurations and the connections
of a run: the first configuration creates the API, once and for all; the latest one gives the
credentials of a login. A restart with another front address is registered nowhere. Quotes
are the vendor's messages, converted one by one.
-/

namespace KungfuTora

namespace Market

open MarketDataTora

def Event.config : Event → Option Config
  | .onStart config => some config
  | _ => none

def Event.message : Event → Option MarketDataField
  | .onRtnMarketData field => some field
  | _ => none

/-- The API that a configuration asks for. -/
def Config.registration (config : Config) : Output :=
  if config.protocol.getD (cstr "tcp") = cstr "tcp" then .registerFront config.mdFront
  else .registerMulticast config.mdFront (cstr "10.166.33.1")

def Config.credentials (config : Config) : ReqUserLoginField := ⟨config.accountId, config.password⟩

def Output.registers : Output → Option Output
  | o@(.registerFront _) | o@(.registerMulticast _ _) => some o
  | _ => none

def Output.login : Output → Option (ReqUserLoginField × Int32)
  | .reqUserLogin req nRequestID => some (req, nRequestID)
  | _ => none

def Output.quoted : Output → Option Quote
  | .quote data => some data
  | _ => none

/-- What a run has put out of one kind. -/
def history {τ : Type} (core : MarketCore) (kind : Output → Option τ) (s : MarketDataTora)
    (es : List Event) : List τ :=
  (gateway core).logFrom (fun s e => (step core s e).2.filterMap kind) s es

/-- The logins that the events after a configuration lead to. -/
def loginsFrom : Option Config → List Event → List ReqUserLoginField
  | _, [] => []
  | _, .onStart config :: es => loginsFrom (some config) es
  | current, .onFrontConnected _ :: es =>
    (current.map Config.credentials).toList ++ loginsFrom current es
  | current, _ :: es => loginsFrom current es

/-- The number of the login that comes after `n` others. -/
def loginNumber (n : Nat) : Int32 := Int32.ofNat (n % 2 ^ 31 + 1)

/-- The gateway is set up as `current` says. -/
structure Configured (current : Option Config) (s : MarketDataTora) : Prop where
  api : s.api = current.isSome
  credentials : ∀ config ∈ current, config.credentials = ⟨s.accountId, s.password⟩

section Step

variable (core : MarketCore) (s : MarketDataTora)

/-- Calls for subscriptions put out requests for subscriptions and a result. -/
theorem forward_kind {τ : Type} (kind : Output → Option τ)
    (request : List CStr → TTORATstpExchangeIDType → Output) (ret : ReturnCodes)
    (tickers : Tickers) (hrequest : ∀ l x, kind (request l x) = none)
    (hreturned : ∀ ok, kind (.returned ok) = none) :
    (forward request ret tickers).filterMap kind = [] := by
  unfold forward func andAlso
  dsimp only
  generalize decide (ret (toToraExchange exchangeSSE 0) = 0) = sh
  generalize decide (ret (toToraExchange exchangeSZE 0) = 0) = sz
  cases sh <;> cases sz <;> simp [hrequest, hreturned]

theorem step_registers (e : Event) :
    (step core s e).2.filterMap Output.registers =
        (if s.api then none else e.config.map Config.registration).toList ∧
      (step core s e).1.api = (s.api || e.config.isSome) := by
  cases e with
  | onStart config =>
    dsimp only [step, onStart, Event.config]
    cases s.api with
    | true => exact ⟨rfl, rfl⟩
    | false =>
      refine ⟨?_, rfl⟩
      rw [Option.map_some]
      unfold Config.registration
      by_cases htcp : config.protocol.getD (cstr "tcp") = cstr "tcp"
      · simp only [htcp, if_true]
        rfl
      · simp only [htcp, if_false]
        rfl
  | onFrontConnected ret =>
    dsimp only [step, onFrontConnected, login, updateBrokerState]
    cases s.api with
    | true =>
      by_cases hret : ret ≠ 0
      · simp only [if_true, if_pos hret]
        exact ⟨rfl, rfl⟩
      · simp only [if_true, if_neg hret]
        exact ⟨rfl, rfl⟩
    | false => exact ⟨rfl, rfl⟩
  | onRspUserLogin info =>
    dsimp only [step, onRspUserLogin, updateBrokerState]
    by_cases herror : info.errorId = 0 <;> simp [herror, Output.registers, Event.config]
  | onFrontDisconnected | onRtnMarketData | onRspSubMarketData =>
    cases hapi : s.api <;>
      simp [step, onFrontDisconnected, updateBrokerState, onRtnMarketData, hapi,
        Output.registers, Event.config]
  | subscribe | subscribeAll | unsubscribe =>
    refine ⟨?_, by simp [step, subscribe, subscribeAll, unsubscribe, Event.config]⟩
    refine Eq.trans (forward_kind Output.registers _ _ _ (fun _ _ => rfl) fun _ => rfl) ?_
    cases s.api <;> rfl

def Event.connects : Event → Bool
  | .onFrontConnected _ => true
  | _ => false

/-- What a step logs in with, and the number it takes for it. -/
theorem step_login (e : Event) :
    (step core s e).2.filterMap Output.login =
        (if e.connects && s.api then [(⟨s.accountId, s.password⟩, getReqId s.reqId)] else []) ∧
      (step core s e).1.reqId = if e.connects && s.api then getReqId s.reqId else s.reqId := by
  cases e with
  | onFrontConnected ret =>
    dsimp only [step, onFrontConnected, login, updateBrokerState]
    cases s.api with
    | true =>
      by_cases hret : ret ≠ 0
      · simp only [if_true, if_pos hret]
        exact ⟨rfl, rfl⟩
      · simp only [if_true, if_neg hret]
        exact ⟨rfl, rfl⟩
    | false => exact ⟨rfl, rfl⟩
  | onStart config =>
    dsimp only [step, onStart]
    cases s.api with
    | true => exact ⟨rfl, rfl⟩
    | false =>
      by_cases htcp : config.protocol.getD (cstr "tcp") = cstr "tcp" <;>
        simp [htcp, Output.login, Event.connects]
  | onRspUserLogin info =>
    dsimp only [step, onRspUserLogin, updateBrokerState]
    by_cases herror : info.errorId = 0 <;> simp [herror, Output.login, Event.connects]
  | onFrontDisconnected | onRtnMarketData | onRspSubMarketData => exact ⟨rfl, rfl⟩
  | subscribe | subscribeAll | unsubscribe =>
    exact ⟨forward_kind Output.login _ _ _ (fun _ _ => rfl) fun _ => rfl, rfl⟩

/-- Only `on_start` changes the credentials. -/
theorem step_credentials (e : Event) :
    (⟨(step core s e).1.accountId, (step core s e).1.password⟩ : ReqUserLoginField) =
      (e.config.map Config.credentials).getD ⟨s.accountId, s.password⟩ := by
  cases e with
  | onFrontConnected ret =>
    dsimp only [step, onFrontConnected, login, updateBrokerState]
    cases s.api with
    | true => by_cases hret : ret ≠ 0 <;> simp [hret, Event.config]
    | false => rfl
  | onRspUserLogin info =>
    dsimp only [step, onRspUserLogin, updateBrokerState]
    by_cases herror : info.errorId = 0 <;> simp [herror, Event.config]
  | _ => rfl

/-- What a step makes of a quote. -/
theorem step_quoted (e : Event) :
    (step core s e).2.filterMap Output.quoted =
      (e.message.map (fromToraMarketData core)).toList := by
  cases e with
  | onFrontConnected ret =>
    dsimp only [step, onFrontConnected, login, updateBrokerState]
    cases s.api with
    | true => by_cases hret : ret ≠ 0 <;> simp [hret, Event.message, Output.quoted]
    | false => rfl
  | onStart config =>
    dsimp only [step, onStart]
    cases s.api with
    | true => rfl
    | false =>
      by_cases htcp : config.protocol.getD (cstr "tcp") = cstr "tcp" <;>
        simp [htcp, Output.quoted, Event.message]
  | onRspUserLogin info =>
    dsimp only [step, onRspUserLogin, updateBrokerState]
    by_cases herror : info.errorId = 0 <;> simp [herror, Output.quoted, Event.message]
  | onFrontDisconnected | onRtnMarketData | onRspSubMarketData => rfl
  | subscribe | subscribeAll | unsubscribe =>
    exact forward_kind Output.quoted _ _ _ (fun _ _ => rfl) fun _ => rfl

end Step

section Run

variable (core : MarketCore) {s : MarketDataTora} {current : Option Config}

theorem history_cons {τ : Type} (kind : Output → Option τ) (s : MarketDataTora) (e : Event)
    (es : List Event) :
    history core kind s (e :: es) =
      (step core s e).2.filterMap kind ++ history core kind (step core s e).1 es := rfl

theorem Configured.step (h : Configured current s) (e : Event) :
    Configured (e.config.or current) (step core s e).1 where
  api := by
    rw [(step_registers core s e).2, h.api]
    cases e.config <;> cases current <;> rfl
  credentials := by
    intro config hconfig
    rw [step_credentials]
    cases he : e.config with
    | some started =>
      rw [he] at hconfig
      obtain rfl : started = config := Option.some.inj hconfig
      rfl
    | none =>
      rw [he] at hconfig
      exact h.credentials config hconfig

/-- A gateway registers with the first configuration, and only if it has no API yet. -/
theorem registers_from (s : MarketDataTora) (es : List Event) :
    history core Output.registers s es =
      (if s.api then none
        else (es.filterMap Event.config).head?.map Config.registration).toList := by
  induction es generalizing s with
  | nil => cases s.api <;> rfl
  | cons e es ih =>
    obtain ⟨hfirst, hapi⟩ := step_registers core s e
    rw [history_cons, ih, hfirst, hapi]
    cases s.api with
    | true => rfl
    | false => cases he : e.config <;> simp [he]

/-- What a gateway that is set up as `current` says logs in with from then on. -/
theorem credentials_from (h : Configured current s) (es : List Event) :
    (history core Output.login s es).map Prod.fst = loginsFrom current es := by
  induction es generalizing s current with
  | nil => rfl
  | cons e es ih =>
    rw [history_cons, List.map_append, ih (h.step core e), (step_login core s e).1, h.api]
    cases e with
    | onFrontConnected ret =>
      cases current with
      | none => rfl
      | some config =>
        have hsame := h.credentials config rfl
        show ⟨s.accountId, s.password⟩ :: loginsFrom (some config) es = _
        rw [← hsame]
        rfl
    | _ => rfl

/-- A step takes no login number, or the next one. -/
theorem step_counts_logins (s : MarketDataTora) (e : Event) :
    (gateway core).Counts MarketDataTora.reqId getReqId getReqId
      (fun s e => ((step core s e).2.filterMap Output.login).map Prod.snd) s e := by
  obtain ⟨hlog, hreqId⟩ := step_login core s e
  by_cases hlogin : (e.connects && s.api) = true
  · rw [if_pos hlogin] at hlog hreqId
    exact .one (by rw [hlog]; rfl) hreqId
  · rw [if_neg hlogin] at hlog hreqId
    exact .none (by rw [hlog]; rfl) hreqId

theorem quotes_from (s : MarketDataTora) (es : List Event) :
    history core Output.quoted s es =
      (es.filterMap Event.message).map (fromToraMarketData core) := by
  induction es generalizing s with
  | nil => rfl
  | cons e es ih =>
    rw [history_cons, ih, step_quoted]
    cases he : e.message <;> simp [he]

end Run

theorem getReqId_loginNumber (n : Nat) : getReqId (loginNumber n) = loginNumber (n + 1) := by
  have hlt : n % 2 ^ 31 < 2 ^ 31 := Nat.mod_lt _ (by decide)
  unfold getReqId loginNumber
  by_cases hlast : n % 2 ^ 31 = 2 ^ 31 - 1
  · have hnext : (n + 1) % 2 ^ 31 = 0 := by omega
    rw [hlast, hnext]
    decide
  · have hnext : (n + 1) % 2 ^ 31 = n % 2 ^ 31 + 1 := by omega
    have hpositive : ¬ Int32.ofNat (n % 2 ^ 31 + 1) < 0 := by
      rw [Int32.lt_iff_toInt_lt, Int32.toInt_ofNat_of_lt (by omega)]
      simp
      omega
    rw [if_neg hpositive, hnext, Int32.ofNat_add (n % 2 ^ 31 + 1) 1]
    rfl

theorem getReqId_iterate (n : Nat) : getReqId (getReqId^[n] 0) = loginNumber n := by
  induction n with
  | zero => decide
  | succ n ih => rw [Function.iterate_succ_apply', ih, getReqId_loginNumber]

/-- For every run of the gateway: the API is created once, as the first configuration says; the
gateway logs in upon every later connection with the credentials of the latest configuration,
the requests numbered from 1 on, and again from 1 behind the number that does not fit; the
quotes are the messages, each converted. -/
theorem market_run (core : MarketCore) (es : List Event) :
    history core Output.registers .initial es =
        ((es.filterMap Event.config).head?.map Config.registration).toList ∧
      (history core Output.login .initial es).map Prod.fst = loginsFrom none es ∧
      (history core Output.login .initial es).map Prod.snd =
        (List.range (loginsFrom none es).length).map loginNumber ∧
      history core Output.quoted .initial es =
        (es.filterMap Event.message).map (fromToraMarketData core) := by
  have hinit : Configured none .initial := ⟨rfl, by simp⟩
  have hcredentials := credentials_from core hinit es
  refine ⟨registers_from core .initial es, hcredentials, ?_, quotes_from core .initial es⟩
  have hids := (Machine.counted (s := MarketDataTora.initial)
    fun s e (_ : e ∈ es) => step_counts_logins core s e).1
  rw [← (gateway core).map_logFrom (fun s e => (step core s e).2.filterMap Output.login)
    Prod.snd] at hids
  have hlength : (history core Output.login .initial es).length = (loginsFrom none es).length := by
    rw [← hcredentials, List.length_map]
  refine hids.trans ?_
  rw [List.length_map, show ((gateway core).logFrom _ _ _).length = _ from hlength]
  refine List.map_congr_left ?_
  intro i _
  exact getReqId_iterate i

end Market

end KungfuTora
