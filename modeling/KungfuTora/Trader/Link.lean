import KungfuTora.Trader.Run

/-!
# The link to the counter

A login, the query for shareholder accounts and the query for securities follow on one
another after the front has connected. The vendor's API takes such a request or refuses
it, and answers one it took in one or more calls, the last of which is marked. `Link` puts
beside the adapter what is true of the link: whether the front is connected, whether a login
has been processed since it was, and which requests are in flight. Answers may come
at any time after the request, also after the connection it was sent on was lost; the
requests of a lost connection may also never be answered.
-/

namespace KungfuTora

open TraderTora

/-- A request of the start-up chain. -/
inductive Request where
  | login
  | shareholders
  | security
  deriving DecidableEq, Repr

/-- An accepted request that its last answer has not come to yet. `connection` is the
connection event that began its chain: a login is sent upon the event itself, and what an
answer leads to belongs to the chain of what it answers. -/
structure Sent where
  request : Request
  connection : Nat
  deriving DecidableEq, Repr

structure Link where
  trader : TraderTora
  /-- The number of connection events so far. -/
  connection : Nat
  /-- The latest connection event was `OnFrontConnected`. -/
  connected : Bool
  /-- A login has been processed since the latest connection event. -/
  loggedIn : Bool
  inFlight : List Sent

/-- What a connection event makes of `connected`. -/
def Event.connects : Event → Option Bool
  | .onFrontConnected _ => some true
  | .onFrontDisconnected _ => some false
  | _ => none

/-- The start-up request that a call answers, and whether this is the last answer to it.
A login has one answer. -/
def Event.answers : Event → Option (Request × Bool)
  | .onRspUserLogin .. => some (.login, true)
  | .onRspQryShareholderAccount _ _ bIsLast _ _ => some (.shareholders, bIsLast)
  | .onRspQrySecurity _ _ bIsLast _ => some (.security, bIsLast)
  | _ => none

/-- Whether the API takes the start-up request made in the course of a call. -/
def Event.accepted : Event → Bool
  | .onFrontConnected ret => ret = 0
  | .onRspUserLogin _ _ ret => ret = 0
  | .onRspQryShareholderAccount _ _ _ _ ret => ret = 0
  | _ => false

def Output.startUp : Output → Option Request
  | .reqUserLogin .. => some .login
  | .reqQryShareholderAccount .. => some .shareholders
  | .reqQrySecurity _ => some .security
  | _ => none

inductive LinkTick where
  /-- A call on the adapter. If it answers a start-up request, `connection` says which. -/
  | call (e : Event) (connection : Nat)
  /-- A request in flight is lost. -/
  | lose (sent : Sent)

namespace Link

/-- Only what is in flight is answered. -/
def delivers (link : Link) (e : Event) (connection : Nat) : Bool :=
  match e.answers with
  | none => true
  | some (request, _) => ⟨request, connection⟩ ∈ link.inFlight

/-- What of the requests in flight is still to be answered after the call. -/
def remaining (link : Link) (e : Event) (connection : Nat) : List Sent :=
  match e.answers with
  | some (request, true) => link.inFlight.erase ⟨request, connection⟩
  | _ => link.inFlight

/-- The number of connection events once the call has come. -/
def connectionAfter (link : Link) (e : Event) : Nat :=
  if e.connects.isSome then link.connection + 1 else link.connection

/-- The requests that the call puts in flight. -/
def sends (core : Core) (link : Link) (e : Event) (connection : Nat) : List Sent :=
  if e.accepted then
    ((step core link.trader e).2.filterMap Output.startUp).map fun request =>
      ⟨request, if e.connects.isSome then link.connectionAfter e else connection⟩
  else []

def after (core : Core) (link : Link) (e : Event) (connection : Nat) : Link where
  trader := (step core link.trader e).1
  connection := link.connectionAfter e
  connected := e.connects.getD link.connected
  loggedIn := if e.connects.isSome then false else link.loggedIn || (loginOf e).isSome
  inFlight := link.remaining e connection ++ link.sends core e connection

end Link

/-- A call that answers nothing in flight does not come. Requests are lost only while
the front is not connected. -/
def linkStep (core : Core) (link : Link) : LinkTick → Link × List Output
  | .call e connection =>
    if link.delivers e connection then
      (link.after core e connection, (step core link.trader e).2)
    else (link, [])
  | .lose sent =>
    if link.connected then (link, [])
    else ({ link with inFlight := link.inFlight.erase sent }, [])

/-- The adapter on its link, from its construction on. -/
def linkMachine (core : Core) : Machine Link LinkTick Output where
  init := ⟨.initial, 0, false, false, []⟩
  step := linkStep core

end KungfuTora
