import KungfuTora.Proofs.History
import KungfuTora.Trader.Sample

/-!
# The shareholder account on an order

`on_start` assigns to the shareholder map, an account answer inserts if absent, and
`insert_order` reads it through `operator[]`, which inserts the empty string if absent. So
an exchange that is not configured keeps the first entry that an answer or an order
makes for it, and an order that is first leaves it without an account for good.
-/

namespace KungfuTora

open TraderTora

/-- The shareholder id that the configuration has for an exchange. -/
def configuredShareholder (config : Config) (exchangeId : CStr) : Option CStr :=
  if exchangeId = exchangeSSE ∧ config.shShareholderId ≠ [] then some config.shShareholderId
  else if exchangeId = exchangeSZE ∧ config.szShareholderId ≠ [] then some config.szShareholderId
  else none

/-- The exchange and shareholder id that an error-free account answer delivers. -/
def deliveredShareholder : Event → Option (CStr × CStr)
  | .onRspQryShareholderAccount account info _ _ _ =>
    if isError info then none
    else account.map fun account => (fromToraExchange account.exchangeId, account.shareholderId)
  | _ => none

/-- The entry that an event makes in the shareholder map, if there is none yet. -/
def shareholderEntry : Event → Option (CStr × CStr)
  | .insertOrder call => some (call.input.exchangeId, [])
  | e => deliveredShareholder e

/-- The configured id of an exchange, or else the first non-empty one delivered for it. -/
def expectedShareholder (config : Config) (es : List Event) (exchangeId : CStr) : Option CStr :=
  (configuredShareholder config exchangeId).or
    (((es.filterMap deliveredShareholder).find? fun d => d.1 = exchangeId && d.2 ≠ []).map Prod.snd)

section Map

variable (core : Core) (s : TraderTora)

theorem configureShareholders_apply (config : Config) (m : Store CStr CStr) (exchangeId : CStr) :
    configureShareholders config m exchangeId =
      (configuredShareholder config exchangeId).or (m exchangeId) := by
  have hne : exchangeSZE ≠ exchangeSSE := by decide
  unfold configureShareholders configuredShareholder
  rw [Store.ite_set_apply, Store.ite_set_apply]
  by_cases hx : exchangeId = exchangeSZE
  · rw [hx]
    by_cases hsz : config.szShareholderId ≠ [] <;> simp [hne, hsz]
  · by_cases hx' : exchangeId = exchangeSSE ∧ config.shShareholderId ≠ []
    · rw [if_neg (by simp [hx]), if_pos hx', if_pos hx', Option.some_or]
    · simp [hx, hx']

/-- Apart from a start, a step makes at most its own entry, if the exchange has none. -/
theorem step_shareholder {e : Event} (hstart : ∀ config, e ≠ .onStart config) :
    (step core s e).1.exchange2Shareholder =
      (shareholderEntry e).elim s.exchange2Shareholder fun entry =>
        s.exchange2Shareholder.emplace entry.1 entry.2 := by
  cases e with
  | onStart config => exact absurd rfl (hstart config)
  | onRspQryShareholderAccount account info bIsLast stored _ =>
    refine Eq.trans (onRspQryShareholderAccount_spec s account info bIsLast stored).2.1 ?_
    simp only [shareholderEntry, deliveredShareholder]
    cases isError info <;> cases account <;> rfl
  | insertOrder call => exact insertOrder_shareholder core s call
  | cancelOrder call => exact cancelOrder_shareholder core s call
  | onRspUserLogin field info _ => exact (onRspUserLogin_spec core s field info).2.1
  | onRspOrderInsert field info =>
    dsimp only [step]
    rcases onRspOrderInsert_eq core s field info with ⟨-, h⟩ | ⟨_, -, h⟩ <;> rw [h] <;> rfl
  | onRtnOrder field now =>
    dsimp only [step]
    rcases onRtnOrder_eq core s field now with ⟨-, h⟩ | ⟨_, _, -, -, h⟩ <;> rw [h] <;> rfl
  | onErrRtnOrderInsert field info now =>
    dsimp only [step]
    rcases onErrRtnOrderInsert_eq core s field info now with
      h | ⟨_, -, ⟨-, h⟩ | ⟨_, _, -, h⟩⟩ <;> rw [h] <;> rfl
  | onRtnTrade field frameUid now =>
    dsimp only [step]
    rcases onRtnTrade_eq core s field frameUid now with h | ⟨_, _, -, -, h⟩ <;> rw [h] <;> rfl
  | _ => exact (step_sessionOnly core s rfl).shareholder

/-- After a start and any calls the map holds what is configured and, for another
exchange, the first entry made for it. -/
theorem exchange2Shareholder_eq (config : Config) (es : List Event)
    (hstart : ∀ config', .onStart config' ∈ es → config' = config) (exchangeId : CStr) :
    ((adapter core).exec (.onStart config :: es)).exchange2Shareholder exchangeId =
      (configuredShareholder config exchangeId).or
        (((es.filterMap shareholderEntry).find? fun d => d.1 = exchangeId).map Prod.snd) := by
  induction es using List.reverseRecOn with
  | nil => exact configureShareholders_apply config .empty exchangeId
  | append_singleton es e ih =>
    specialize ih fun config' h => hstart config' (List.mem_append_left _ h)
    rw [← List.cons_append, Machine.exec_concat]
    generalize (adapter core).exec (.onStart config :: es) = s at ih ⊢
    rw [List.filterMap_append, List.find?_append]
    by_cases hstarted : ∃ config', e = .onStart config'
    · obtain ⟨config', rfl⟩ := hstarted
      rw [hstart config' (by simp)]
      refine Eq.trans (configureShareholders_apply config _ exchangeId) ?_
      rw [ih, ← Option.or_assoc, Option.or_self]
      simp [shareholderEntry, deliveredShareholder]
    · refine Eq.trans (congrFun (step_shareholder core s fun config h => hstarted ⟨config, h⟩)
        exchangeId) ?_
      cases hentry : shareholderEntry e with
      | none => simp [hentry, ih]
      | some entry =>
        have hsingle : [e].filterMap shareholderEntry = [entry] := by simp [hentry]
        rw [hsingle, Option.elim_some, Store.emplace_apply]
        generalize (es.filterMap shareholderEntry).find? _ = first at ih ⊢
        by_cases hx : exchangeId = entry.1
        · rw [if_pos hx, ← hx, ih, List.find?_cons_of_pos (by simp [hx])]
          cases configuredShareholder config exchangeId <;> cases first <;> rfl
        · rw [if_neg hx, ih, List.find?_cons_of_neg (by simp [Ne.symm hx])]
          simp

end Map

/-! ## The shareholder id that is sent -/

theorem configuredShareholder_ne_nil {config : Config} {exchangeId shareholderId : CStr}
    (h : configuredShareholder config exchangeId = some shareholderId) : shareholderId ≠ [] := by
  unfold configuredShareholder at h
  split at h
  · rename_i hsh
    rw [← Option.some.inj h]
    exact hsh.2
  · split at h
    · rename_i hsz
      rw [← Option.some.inj h]
      exact hsz.2
    · simp at h

/-- If the first element with `p` also has `q`, it is the first one with both. -/
theorem find?_and_of_find? {α : Type} {p : α → Bool} (q : α → Bool) {xs : List α} {x : α}
    (h : xs.find? p = some x) (hq : q x = true) : xs.find? (fun y => p y && q y) = some x := by
  induction xs with
  | nil => simp at h
  | cons y ys ih =>
    rw [List.find?_cons] at h ⊢
    cases hp : p y with
    | true =>
      simp only [hp, Option.some.injEq] at h
      rw [h, hq]
      rfl
    | false =>
      simp only [hp] at h
      simpa [hp] using ih h

/-- Only answers make non-empty entries. -/
theorem find?_delivered (es : List Event) (exchangeId : CStr) :
    (es.filterMap shareholderEntry).find? (fun d => d.1 = exchangeId && d.2 ≠ []) =
      (es.filterMap deliveredShareholder).find? fun d => d.1 = exchangeId && d.2 ≠ [] := by
  induction es with
  | nil => rfl
  | cons e es ih =>
    cases e with
    | insertOrder call => simpa [shareholderEntry, deliveredShareholder] using ih
    | onRspQryShareholderAccount account info bIsLast stored ret =>
      rw [List.filterMap_cons, List.filterMap_cons]
      dsimp only [shareholderEntry]
      cases deliveredShareholder (.onRspQryShareholderAccount account info bIsLast stored ret) with
      | none => exact ih
      | some d => rw [List.find?_cons, List.find?_cons, ih]
    | _ => exact ih

/-- An order on an exchange that has an id to send sends that id exactly if the exchange is
configured or the first call that makes an entry for it is an answer with a non-empty id. -/
theorem shareholder_sent_iff (core : Core) (config : Config) (es : List Event) (call : InsertCall)
    (hstart : ∀ config', .onStart config' ∈ es → config' = config) (shareholderId : CStr)
    (hexpected : expectedShareholder config es call.input.exchangeId = some shareholderId) :
    (∃ req rid, .reqOrderInsert req rid ∈
        (adapter core).outputs (.onStart config :: es) (.insertOrder call) ∧
      req.shareholderId ≠ [] ∧ req.shareholderId = shareholderId) ↔
    (configuredShareholder config call.input.exchangeId).isSome ∨
      ((es.filterMap shareholderEntry).find? fun d => d.1 = call.input.exchangeId).map Prod.snd ≠
        some [] := by
  generalize hx : call.input.exchangeId = exchangeId at *
  have hmap := exchange2Shareholder_eq core config es hstart exchangeId
  generalize hs : (adapter core).exec (.onStart config :: es) = s at hmap
  -- the one request sends what the map holds
  have hsent : (∃ req rid, .reqOrderInsert req rid ∈
        (adapter core).outputs (.onStart config :: es) (.insertOrder call) ∧
      req.shareholderId ≠ [] ∧ req.shareholderId = shareholderId) ↔
      (s.exchange2Shareholder exchangeId).getD [] ≠ [] ∧
        (s.exchange2Shareholder exchangeId).getD [] = shareholderId := by
    have hid : (insertRequest core call.input s).shareholderId =
        (s.exchange2Shareholder exchangeId).getD [] := by
      rw [← hx]
      rfl
    rw [← hid, Machine.outputs, hs]
    constructor
    · rintro ⟨req, rid, hreq, h⟩
      rw [← ((insertOrder_request core s call req rid).mp hreq).1]
      exact h
    · intro h
      exact ⟨_, _, (insertOrder_request core s call _ _).mpr ⟨rfl, rfl⟩, h⟩
  rw [hsent, hmap]
  unfold expectedShareholder at hexpected
  rw [← find?_delivered] at hexpected
  cases hconfig : configuredShareholder config exchangeId with
  | some configured =>
    rw [hconfig, Option.some_or, Option.some.injEq] at hexpected
    have hne : configured ≠ [] := configuredShareholder_ne_nil hconfig
    simp [hexpected ▸ hne, hexpected]
  | none =>
    rw [hconfig, Option.none_or, Option.map_eq_some_iff] at hexpected
    obtain ⟨d, hd, hid⟩ := hexpected
    have hfirst :
        ∃ f, (es.filterMap shareholderEntry).find? (fun d => d.1 = exchangeId) = some f := by
      rw [← Option.isSome_iff_exists, List.find?_isSome]
      have hprop := List.find?_some hd
      exact ⟨d, List.mem_of_find?_eq_some hd, (Bool.and_eq_true _ _ ▸ hprop).1⟩
    obtain ⟨f, hf⟩ := hfirst
    rw [hf]
    by_cases hempty : f.2 = []
    · simp [hempty]
    · have heq : f = d := by
        have hboth := find?_and_of_find? (fun d => d.2 ≠ []) hf (by simpa using hempty)
        exact Option.some.inj (hboth.symm.trans hd)
      simp [heq, hid]

/-- A configuration without shareholder ids. -/
def Config.sample : Config where
  tdFront := cstr "tcp://127.0.0.1:6500"
  password := cstr "secret"
  dynamicPassword := []
  shShareholderId := []
  szShareholderId := []
  accountId := cstr "00010001"

/-- The account that an error-free answer delivers. -/
def sampleAnswer (exchangeId : TTORATstpExchangeIDType) (shareholderId : CStr) : Event :=
  .onRspQryShareholderAccount (some ⟨exchangeId, shareholderId⟩) none false false 0

/-- An order on BSE before the account answer: the orders after it have no account. -/
theorem shareholder_lost_to_early_order :
    let call := { InsertCall.sample 1 100 with
      input := { OrderInput.sample 100 with exchangeId := exchangeBSE } }
    let es := [.insertOrder call, sampleAnswer toraTstpExdBSE (cstr "B001")]
    expectedShareholder .sample es exchangeBSE = some (cstr "B001") ∧
      ¬ ∃ req rid, .reqOrderInsert req rid ∈
          (adapter .sample).outputs (.onStart .sample :: es) (.insertOrder call) ∧
        req.shareholderId ≠ [] ∧ req.shareholderId = cstr "B001" := by
  intro call es
  refine ⟨by decide, ?_⟩
  rintro ⟨req, rid, hreq, hne, -⟩
  obtain ⟨rfl, -⟩ := (insertOrder_request .sample _ call req rid).mp hreq
  exact hne (by decide)

/-- The account answer comes before the first order. -/
theorem shareholder_sent_after_answer :
    let es := [sampleAnswer toraTstpExdSSE (cstr "A001"), .insertOrder (.sample 1 100),
      sampleAnswer toraTstpExdSSE (cstr "A002")]
    (∃ req rid, .reqOrderInsert req rid ∈
        (adapter .sample).outputs (.onStart .sample :: es) (.insertOrder (.sample 1 101)) ∧
      req.shareholderId ≠ [] ∧ req.shareholderId = cstr "A001") ↔
    (configuredShareholder .sample exchangeSSE).isSome ∨
      ((es.filterMap shareholderEntry).find? fun d => d.1 = exchangeSSE).map Prod.snd ≠
        some [] :=
  shareholder_sent_iff .sample .sample _ (.sample 1 101) (by simp [sampleAnswer]) (cstr "A001")
    (by decide)

end KungfuTora
