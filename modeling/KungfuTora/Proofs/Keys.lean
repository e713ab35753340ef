import KungfuTora.Proofs.Interleaving

/-!
# What the keys of the order maps identify

A reference key keeps 16 bits of the front id and 16 of the session id, so it tells apart
the orders of sessions whose ids differ in these. A number key is made from every byte of
the number's buffer, so it depends on what stands behind the terminator as well.
-/

namespace KungfuTora

/-! ## Order references -/

theorem low16_eq_iff {x y : Int32} : low16 x = low16 y ↔ x.toInt % 2 ^ 16 = y.toInt % 2 ^ 16 := by
  rw [← low16_toNat, ← low16_toNat, Int.ofNat_inj, UInt16.toNat_inj]

/-- Reference keys are equal if and only if the references are and the ids agree modulo 2^16. So
they identify the order among sessions whose front ids, and whose session ids, are less than
2^16 apart. -/
theorem order_ref_keys_iff (core : Core) (f s r f' s' r' : Int32)
    (hhash : hashOrderRef core r = hashOrderRef core r' → r = r') :
    (getOrderRefKey core f s r = getOrderRefKey core f' s' r' ↔
      f.toInt % 2 ^ 16 = f'.toInt % 2 ^ 16 ∧ s.toInt % 2 ^ 16 = s'.toInt % 2 ^ 16 ∧ r = r') ∧
    ((f.toInt - f'.toInt).natAbs < 2 ^ 16 → (s.toInt - s'.toInt).natAbs < 2 ^ 16 →
      getOrderRefKey core f s r = getOrderRefKey core f' s' r' → (f, s, r) = (f', s', r')) := by
  have hkeys : getOrderRefKey core f s r = getOrderRefKey core f' s' r' ↔
      f.toInt % 2 ^ 16 = f'.toInt % 2 ^ 16 ∧ s.toInt % 2 ^ 16 = s'.toInt % 2 ^ 16 ∧ r = r' := by
    have hrefs : hashOrderRef core r = hashOrderRef core r' ↔ r = r' :=
      ⟨hhash, fun heq => congrArg (hashOrderRef core) heq⟩
    rw [getOrderRefKey_inj, low16_eq_iff, low16_eq_iff, and_assoc, hrefs]
  refine ⟨hkeys, ?_⟩
  intro hfront hsession hkey
  obtain ⟨hf, hs, rfl⟩ := hkeys.mp hkey
  have hf : f = f' := Int32.toInt_inj.mp (by omega)
  have hs : s = s' := Int32.toInt_inj.mp (by omega)
  rw [hf, hs]

/-- Whatever the hash, two sessions whose ids differ by 2^16 share their keys. -/
theorem sessions_share_keys :
    (∀ core : Core, getOrderRefKey core 3 7 11 = getOrderRefKey core 3 65543 11) ∧
      ((3, 7, 11) : Int32 × Int32 × Int32) ≠ (3, 65543, 11) := by
  refine ⟨?_, by decide⟩
  intro core
  rw [getOrderRefKey_inj]
  exact ⟨by decide, rfl⟩

/-- Two orders of one session. -/
theorem order_ref_keys_of_session :
    (getOrderRefKey .sample 3 7 11 = getOrderRefKey .sample 3 7 12 ↔
      (3 : Int32).toInt % 2 ^ 16 = (3 : Int32).toInt % 2 ^ 16 ∧
        (7 : Int32).toInt % 2 ^ 16 = (7 : Int32).toInt % 2 ^ 16 ∧ (11 : Int32) = 12) ∧
    (((3 : Int32).toInt - (3 : Int32).toInt).natAbs < 2 ^ 16 →
      ((7 : Int32).toInt - (7 : Int32).toInt).natAbs < 2 ^ 16 →
      getOrderRefKey .sample 3 7 11 = getOrderRefKey .sample 3 7 12 →
        ((3, 7, 11) : Int32 × Int32 × Int32) = (3, 7, 12)) :=
  order_ref_keys_iff .sample 3 7 11 3 7 12 (by decide)

/-! ## Exchange numbers -/

/-- Whatever the hash, the two buffers are one number of the exchange: they have one key, and
a trade with the second one is published under the order that the first one leads to. -/
structure NumberFound (exchangeId : TTORATstpExchangeIDType) (number number' : CharBuf) :
    Prop where
  key : ∀ core : Core,
    getOrderSysIdKey core exchangeId number = getOrderSysIdKey core exchangeId number'
  trade : ∀ core : Core, core.KeepsOrderId → ∀ es orderId,
    ((adapter core).exec es).inboundOrderSysids (getOrderSysIdKey core exchangeId number) =
      some orderId →
    ∀ field frameUid now, (field.exchangeId, field.orderSysId) = (exchangeId, number') →
      TradesUnder core ((adapter core).exec es) field frameUid now orderId

/-- Two buffers are one number if and only if they hold the same bytes, behind the terminator
too. -/
theorem number_found_iff (exchangeId : TTORATstpExchangeIDType) (number number' : CharBuf) :
    NumberFound exchangeId number number' ↔ number = number' := by
  constructor
  · intro h
    -- a hash that tells the first buffer from all others
    let core : Core := { Core.sample with hash32 := fun bytes => if bytes = number then 1 else 0 }
    have hhash := (getOrderSysIdKey_inj.mp (h.key core)).2
    by_contra hne
    have hne' : number' ≠ number := fun heq => hne heq.symm
    simp [core, hne'] at hhash
  · rintro rfl
    refine ⟨fun core => rfl, ?_⟩
    intro core hcore es orderId hfind field frameUid now hnumber
    simp only [Prod.mk.injEq] at hnumber
    apply ((adapter_integrity hcore es).tradesUnder_iff field frameUid now orderId).mpr
    rw [hnumber.1, hnumber.2]
    exact hfind

/-- The answer and the trade bring the same string with another byte behind its terminator: the
trade is dropped. -/
theorem number_lost_behind_terminator :
    let number := sampleNumber 66
    let number' : CharBuf := [66, 0, 1, 0, 0, 0, 0, 0]
    let es := [sampleLogin 3 7 10, .insertOrder (.sample 1 100),
      .onRspOrderInsert (.sample 11 66) none]
    (number.length = number'.length ∧ number.text = number'.text) ∧
      ¬ NumberFound toraTstpExdSSE number number' ∧
      (adapter .sample).outputs es
        (.onRtnTrade { TradeField.sample 11 66 with orderSysId := number' } 1 5) = [] := by
  intro number number' es
  refine ⟨by decide, ?_, by decide⟩
  intro h
  exact absurd (h.key .sample) (by decide)

end KungfuTora
