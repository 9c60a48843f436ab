import SoraParachain.BondingCurvePool.Pallet

/-!
# Successful exchanges with the pool

Every function of the pool is inverted once: what it read, what it decided and
which moves of the currency it made.  What follows cites these lemmas and does
not unfold the pool again.
-/

namespace SoraParachain
namespace BondingCurvePool

variable {T : Config} {P : Pool T} {s s' : Storage T}

namespace Pool

/-! ## Prices -/

section Prices

variable {mainAssetId : T.AssetId} {quantity : ℕ} {kind : SwapKind}
variable {x : FixedNumber}

theorem priceForMainAsset_eq_ok :
    P.priceForMainAsset s mainAssetId quantity kind = .ok x ↔
      Assets.Exists s mainAssetId ∧
        P.curve.priceForMainAsset (s.issuance mainAssetId) quantity kind =
          .ok x := by
  rw [priceForMainAsset, Tx.except_bind_eq_ok]
  constructor
  · intro h
    obtain ⟨n, hn, h⟩ := h
    obtain ⟨hex, rfl⟩ := Assets.totalIssuance_eq_ok.mp hn
    exact ⟨hex, h⟩
  · intro h
    exact ⟨_, Assets.totalIssuance_eq_ok.mpr ⟨h.1, rfl⟩, h.2⟩

theorem priceForCollateralAsset_eq_ok :
    P.priceForCollateralAsset s mainAssetId quantity kind = .ok x ↔
      Assets.Exists s mainAssetId ∧
        P.curve.priceForCollateralAsset (s.issuance mainAssetId) quantity
          kind = .ok x := by
  rw [priceForCollateralAsset, Tx.except_bind_eq_ok]
  constructor
  · intro h
    obtain ⟨n, hn, h⟩ := h
    obtain ⟨hex, rfl⟩ := Assets.totalIssuance_eq_ok.mp hn
    exact ⟨hex, h⟩
  · intro h
    exact ⟨_, Assets.totalIssuance_eq_ok.mpr ⟨h.1, rfl⟩, h.2⟩

end Prices

section Decisions

variable {r : Result FixedNumber} {mainAssetId : T.AssetId}
variable {desired limit input output : ℕ}

/-- What is made of a price that is a balance. -/
theorem of_price_eq_ok {α : Type} {f : ℕ → α} {a : α} :
    (do
      let x ← r
      let n ← tryIntoBalance x
      pure (f n)) = (.ok a : Result α) ↔ ∃ n, Priced r n ∧ f n = a := by
  rw [Tx.except_bind_eq_ok]
  constructor
  · intro h
    obtain ⟨x, hx, h⟩ := h
    obtain ⟨n, hn, h⟩ := Tx.except_bind_eq_ok.mp h
    exact ⟨n, ⟨x, hx, tryIntoBalance_eq_ok.mp hn⟩, Except.ok.inj h⟩
  · intro h
    obtain ⟨n, ⟨x, hx, hn⟩, rfl⟩ := h
    exact ⟨x, hx, Tx.except_bind_eq_ok.mpr ⟨n, tryIntoBalance_eq_ok.mpr hn, rfl⟩⟩

/-- The amount that is asked for, beside a price that is a balance. -/
theorem pair_of_price_eq_ok :
    (do
      let x ← r
      let n ← tryIntoBalance x
      pure (desired, n)) = .ok (input, output) ↔
      input = desired ∧ Priced r output := by
  rw [of_price_eq_ok (f := fun n => (desired, n))]
  constructor
  · intro h
    obtain ⟨n, hpriced, heq⟩ := h
    cases heq
    exact ⟨rfl, hpriced⟩
  · intro h
    exact ⟨output, h.2, by rw [h.1]⟩

/-- A price that is a balance, beside the amount that is asked for. -/
theorem price_pair_eq_ok :
    (do
      let x ← r
      let n ← tryIntoBalance x
      pure (n, desired)) = .ok (input, output) ↔
      output = desired ∧ Priced r input := by
  rw [of_price_eq_ok (f := fun n => (n, desired))]
  constructor
  · intro h
    obtain ⟨n, hpriced, heq⟩ := h
    cases heq
    exact ⟨rfl, hpriced⟩
  · intro h
    exact ⟨input, h.2, by rw [h.1]⟩

theorem decideBuyAmounts_input_eq_ok :
    P.decideBuyAmounts s mainAssetId (.withDesiredInput desired limit) =
        .ok (input, output) ↔
      input = desired ∧
        Priced (P.priceForCollateralAsset s mainAssetId desired .buy) output :=
  pair_of_price_eq_ok

theorem decideBuyAmounts_output_eq_ok :
    P.decideBuyAmounts s mainAssetId (.withDesiredOutput desired limit) =
        .ok (input, output) ↔
      output = desired ∧
        Priced (P.priceForMainAsset s mainAssetId desired .buy) input :=
  price_pair_eq_ok

theorem decideSellAmounts_input_eq_ok :
    P.decideSellAmounts s mainAssetId (.withDesiredInput desired limit) =
        .ok (input, output) ↔
      input = desired ∧
        Priced (P.priceForMainAsset s mainAssetId desired .sell) output :=
  pair_of_price_eq_ok

theorem decideSellAmounts_output_eq_ok :
    P.decideSellAmounts s mainAssetId (.withDesiredOutput desired limit) =
        .ok (input, output) ↔
      output = desired ∧
        Priced (P.priceForCollateralAsset s mainAssetId desired .sell) input :=
  price_pair_eq_ok

end Decisions

theorem totalBalance_eq_ok {assetId : T.AssetId} {who : T.AccountId}
    {n : ℕ} :
    P.totalBalance s assetId who = .ok n ↔
      Assets.Exists s assetId ∧ n = P.total s assetId who := by
  rw [totalBalance, Tx.except_bind_eq_ok]
  constructor
  · intro h
    obtain ⟨_, hex, h⟩ := h
    exact ⟨Assets.ensureAssetExists_eq_ok.mp hex, (Except.ok.inj h).symm⟩
  · intro h
    obtain ⟨hex, rfl⟩ := h
    exact ⟨(), Assets.ensureAssetExists_eq_ok.mpr hex, rfl⟩

/-! ## Quotes -/

theorem quoted_eq_ok {x : FixedNumber} {o : SwapOutcome} :
    P.quoted x = .ok o ↔
      x.bits = o.amount ∧ P.curve.Charges o.amount o.fee := by
  rw [quoted, Tx.except_bind_eq_ok]
  constructor
  · intro h
    obtain ⟨y, hy, h⟩ := h
    obtain ⟨a, ha, h⟩ := Tx.except_bind_eq_ok.mp h
    obtain ⟨f, hf, h⟩ := Tx.except_bind_eq_ok.mp h
    cases h
    rw [tryIntoBalance_eq_ok] at ha hf
    rw [orCalculatePriceFailed_eq_ok] at hy
    have hheld := FixedWrapper.holds_mulFixed.mp ⟨y, hy, hf⟩
    obtain ⟨_, _, hx, hc, hz, hfits⟩ := FixedWrapper.holds_mul.mp hheld
    rw [FixedWrapper.holds_ofFixed] at hx hc
    rw [hx, hc, ha, Int.mul_comm] at hz
    have hlt := x.fits
    rw [ha] at hlt
    refine ⟨ha, (FixedFormat.fits_natCast fixedFormat).mp hlt, hz, ?_⟩
    exact FixedWrapper.Holds.lt hheld
  · intro h
    obtain ⟨ha, hcharges⟩ := h
    have hheld : ((FixedWrapper.ofFixed x).mulFixed P.curve.fee).Holds
        o.fee := by
      have hfee : (o.fee : ℤ) =
          (x.bits * P.curve.fee.bits).fdiv fixedFormat.scale := by
        rw [ha, Int.mul_comm]
        exact hcharges.fee_eq
      refine FixedWrapper.holds_mulFixed.mpr (FixedWrapper.holds_mul.mpr ?_)
      refine ⟨x.bits, P.curve.fee.bits, FixedWrapper.holds_ofFixed.mpr rfl,
        FixedWrapper.holds_ofFixed.mpr rfl, hfee, ?_⟩
      rw [← hfee]
      exact (FixedFormat.fits_natCast fixedFormat).mpr hcharges.fee_lt
    obtain ⟨y, hy, hbits⟩ := hheld
    refine ⟨y, orCalculatePriceFailed_eq_ok.mpr hy, ?_⟩
    refine Tx.except_bind_eq_ok.mpr
      ⟨o.amount, tryIntoBalance_eq_ok.mpr ha, ?_⟩
    exact Tx.except_bind_eq_ok.mpr
      ⟨o.fee, tryIntoBalance_eq_ok.mpr hbits, rfl⟩

theorem quote_eq_ok {dexId : T.DEXId} {inputAssetId outputAssetId : T.AssetId}
    {swapAmount : SwapAmount} {o : SwapOutcome} :
    P.quote s dexId inputAssetId outputAssetId swapAmount = .ok o ↔
      P.canExchange dexId inputAssetId outputAssetId = true ∧
        Priced (P.quotedPrice s inputAssetId outputAssetId swapAmount)
          o.amount ∧
        P.curve.Charges o.amount o.fee := by
  rw [quote, Tx.except_bind_eq_ok]
  constructor
  · intro h
    obtain ⟨_, hcan, h⟩ := h
    obtain ⟨x, hx, h⟩ := Tx.except_bind_eq_ok.mp h
    obtain ⟨hbits, hcharges⟩ := quoted_eq_ok.mp h
    exact ⟨ensure_eq_ok.mp hcan, ⟨x, hx, hbits⟩, hcharges⟩
  · intro h
    obtain ⟨hcan, ⟨x, hx, hbits⟩, hcharges⟩ := h
    exact ⟨(), ensure_eq_ok.mpr hcan, Tx.except_bind_eq_ok.mpr
      ⟨x, hx, quoted_eq_ok.mpr ⟨hbits, hcharges⟩⟩⟩

end Pool

/-! ## Sales -/

section Exchanges

variable {inAssetId outAssetId : T.AssetId} {amount : SwapAmount}
variable {sender receiver : T.AccountId} {o : SwapOutcome}

theorem Pool.run_sellMainAsset_ok :
    (P.sellMainAsset inAssetId outAssetId amount sender receiver).run s =
        (.ok o, s') ↔
      ∃ input output, P.decideSellAmounts s inAssetId amount =
          .ok (input, output) ∧
        P.curve.Charges output o.fee ∧ o.amount = wrappingSub output o.fee ∧
        (Assets.Exists s outAssetId ∧
          o.amount ≤ P.total s outAssetId P.reservesAccountId) ∧
        ∃ s₁, (Technical.transferOut outAssetId P.reservesAcc receiver
            o.amount).run s = (.ok (), s₁) ∧
          (Assets.burnFrom inAssetId P.reservesAccountId sender input).run
            s₁ = (.ok (), s') := by
  have hfee : ∀ output n,
      ((FixedWrapper.ofFixed P.curve.fee).mulBalance output).tryIntoBalance =
          .ok n ↔ P.curve.Charges output n := by
    intro output n
    rw [FixedWrapper.tryIntoBalance_eq_ok, FixedWrapper.holds_mulBalance,
      ← FixedWrapper.tryIntoBalance_eq_ok, Curve.tryIntoBalance_fee]
  rw [Pool.sellMainAsset, Tx.run_withTransaction_eq_ok]
  constructor
  · intro h
    obtain ⟨⟨input, output⟩, hdecide, h⟩ := Tx.run_reads_bind_eq_ok.mp h
    obtain ⟨n, hn, h⟩ := Tx.run_liftM_bind_eq_ok.mp h
    obtain ⟨r, hr, h⟩ := Tx.run_reads_bind_eq_ok.mp h
    obtain ⟨_, hle, h⟩ := Tx.run_liftM_bind_eq_ok.mp h
    obtain ⟨_, s₁, hout, h⟩ := Tx.run_bind_eq_ok.mp h
    obtain ⟨_, s₂, hburn, hpure⟩ := Tx.run_bind_eq_ok.mp h
    obtain ⟨hex, rfl⟩ := Pool.totalBalance_eq_ok.mp hr
    rw [orCalculatePriceFailed_eq_ok, hfee] at hn
    rw [ensure_eq_ok] at hle
    generalize hnet : wrappingSub output n = net at hle hout hpure
    cases hpure
    exact ⟨input, output, hdecide, hn, hnet.symm, ⟨hex, hle⟩, s₁, hout,
      hburn⟩
  · intro h
    obtain ⟨input, output, hdecide, hn, hamount, ⟨hex, hle⟩, s₁, hout,
      hburn⟩ := h
    refine Tx.run_reads_bind_eq_ok.mpr ⟨(input, output), hdecide, ?_⟩
    refine Tx.run_liftM_bind_eq_ok.mpr ⟨o.fee, ?_, ?_⟩
    · rw [orCalculatePriceFailed_eq_ok, hfee]
      exact hn
    rw [← hamount]
    refine Tx.run_reads_bind_eq_ok.mpr
      ⟨_, Pool.totalBalance_eq_ok.mpr ⟨hex, rfl⟩, ?_⟩
    refine Tx.run_liftM_bind_eq_ok.mpr ⟨(), ensure_eq_ok.mpr hle, ?_⟩
    refine Tx.run_bind_eq_ok.mpr ⟨(), s₁, hout, ?_⟩
    exact Tx.run_bind_eq_ok.mpr ⟨(), s', hburn, rfl⟩

/-! ## Purchases -/

namespace BuyMainAsset

variable {self : BuyMainAsset T} {input output free : ℕ}

theorem run_depositInput_ok :
    (depositInput P self).run s = (.ok (free, input, output), s') ↔
      P.decideBuyAmounts s self.outAssetId self.amount =
          .ok (input, output) ∧
        ∃ reservesExpected,
          P.priceForMainAsset s self.outAssetId
              (s.issuance self.outAssetId) .sell = .ok reservesExpected ∧
            (Technical.transferIn self.inAssetId self.fromAccountId
              P.reservesAcc input).run s = (.ok (), s') ∧
            Assets.Exists s' self.inAssetId ∧
            freeAmount (P.total s' self.inAssetId P.reservesAccountId)
              reservesExpected = .ok free := by
  rw [depositInput, Tx.run_withTransaction_eq_ok]
  constructor
  · intro h
    obtain ⟨⟨x, y⟩, hdecide, h⟩ := Tx.run_reads_bind_eq_ok.mp h
    obtain ⟨n, hn, h⟩ := Tx.run_reads_bind_eq_ok.mp h
    obtain ⟨-, rfl⟩ := Assets.totalIssuance_eq_ok.mp hn
    obtain ⟨expected, hexpected, h⟩ := Tx.run_reads_bind_eq_ok.mp h
    obtain ⟨_, s₁, hin, h⟩ := Tx.run_bind_eq_ok.mp h
    obtain ⟨r, hr, h⟩ := Tx.run_reads_bind_eq_ok.mp h
    obtain ⟨hex, rfl⟩ := Pool.totalBalance_eq_ok.mp hr
    obtain ⟨f, hf, h⟩ := Tx.run_liftM_bind_eq_ok.mp h
    cases h
    exact ⟨hdecide, expected, hexpected, hin, hex, hf⟩
  · intro h
    obtain ⟨hdecide, expected, hexpected, hin, hex, hf⟩ := h
    have hout : Assets.Exists s self.outAssetId :=
      (Pool.priceForMainAsset_eq_ok.mp hexpected).1
    refine Tx.run_reads_bind_eq_ok.mpr ⟨(input, output), hdecide, ?_⟩
    refine Tx.run_reads_bind_eq_ok.mpr
      ⟨_, Assets.totalIssuance_eq_ok.mpr ⟨hout, rfl⟩, ?_⟩
    refine Tx.run_reads_bind_eq_ok.mpr ⟨expected, hexpected, ?_⟩
    refine Tx.run_bind_eq_ok.mpr ⟨(), s', hin, ?_⟩
    refine Tx.run_reads_bind_eq_ok.mpr
      ⟨_, Pool.totalBalance_eq_ok.mpr ⟨hex, rfl⟩, ?_⟩
    exact Tx.run_liftM_bind_eq_ok.mpr ⟨free, hf, rfl⟩

theorem run_mintOutput_ok :
    (mintOutput P self output).run s = (.ok o, s') ↔
      P.curve.Charges output o.fee ∧ o.amount = wrappingSub output o.fee ∧
        (Assets.mintTo self.outAssetId P.reservesAccountId self.toAccountId
          o.amount).run s = (.ok (), s') := by
  rw [mintOutput]
  constructor
  · intro h
    obtain ⟨n, hn, h⟩ := Tx.run_liftM_bind_eq_ok.mp h
    obtain ⟨_, s₁, hmint, hpure⟩ := Tx.run_bind_eq_ok.mp h
    rw [orCalculatePriceFailed_eq_ok, Curve.tryIntoBalance_fee] at hn
    generalize hnet : wrappingSub output n = net at hmint hpure
    cases hpure
    exact ⟨hn, hnet.symm, hmint⟩
  · intro h
    obtain ⟨hn, hamount, hmint⟩ := h
    refine Tx.run_liftM_bind_eq_ok.mpr ⟨o.fee, ?_, ?_⟩
    · rw [orCalculatePriceFailed_eq_ok, Curve.tryIntoBalance_fee]
      exact hn
    rw [← hamount]
    exact Tx.run_bind_eq_ok.mpr ⟨(), s', hmint, rfl⟩

theorem run_swap_ok :
    (swap P self).run s = (.ok o, s') ↔
      ∃ free input output s₁ s₂,
        (depositInput P self).run s = (.ok (free, input, output), s₁) ∧
          (distributeReserves P self free).run s₁ = (.ok (), s₂) ∧
          (mintOutput P self output).run s₂ = (.ok o, s') := by
  simp only [swap, Tx.run_withTransaction_eq_ok, Tx.run_bind_eq_ok]
  constructor
  · intro h
    obtain ⟨⟨free, input, output⟩, s₁, hdeposit, _, s₂, hdistribute,
      hmint⟩ := h
    exact ⟨free, input, output, s₁, s₂, hdeposit, hdistribute, hmint⟩
  · intro h
    obtain ⟨free, input, output, s₁, s₂, hdeposit, hdistribute, hmint⟩ := h
    exact ⟨(free, input, output), s₁, hdeposit, (), s₂, hdistribute, hmint⟩

end BuyMainAsset

/-! ## Exchanges -/

theorem Pool.run_exchange_ok {dexId : T.DEXId} :
    (P.exchange sender receiver dexId inAssetId outAssetId amount).run s =
        (.ok o, s') ↔
      ¬(sender = P.reservesAccountId ∧ receiver = P.reservesAccountId) ∧
        P.canExchange dexId inAssetId outAssetId = true ∧
        if inAssetId = T.getBaseAssetId then
          (P.sellMainAsset inAssetId outAssetId amount sender receiver).run
            s = (.ok o, s')
        else
          (BuyMainAsset.swap P
            ⟨inAssetId, outAssetId, amount, sender, receiver⟩).run s =
              (.ok o, s') := by
  simp only [Pool.exchange, Tx.run_bind_eq_ok, Tx.run_liftM_eq_ok,
    ensure_eq_ok]
  constructor
  · intro h
    obtain ⟨_, _, ⟨hself, rfl⟩, _, _, ⟨hcan, rfl⟩, h⟩ := h
    refine ⟨hself, hcan, ?_⟩
    split_ifs at h ⊢
    · exact h
    · exact h
  · intro h
    obtain ⟨hself, hcan, h⟩ := h
    refine ⟨(), s, ⟨hself, rfl⟩, (), s, ⟨hcan, rfl⟩, ?_⟩
    split_ifs at h ⊢
    · exact h
    · exact h

end Exchanges

end BondingCurvePool
end SoraParachain
