import SoraParachain.BondingCurvePool.Exchange
import SoraParachain.BondingCurvePool.Mock

/-!
# What an exchange takes and gives

The sender of a sale loses what is burned and the receiver gains what the
reserves pay.  A purchase takes its input first, then distributes free reserves,
and mints its output at the end; what the distribution pays to its beneficiaries
is none of the exchange's output.
-/

namespace SoraParachain
namespace BondingCurvePool

variable {T : Config} {P : Pool T} {s s' : Storage T}
variable {sender receiver : T.AccountId} {dexId : T.DEXId}
variable {inputAssetId outputAssetId : T.AssetId} {amount : SwapAmount}
variable {o : SwapOutcome}

open Technical (techAccountIdToAccountId)

/-- The account ends up with so much less. -/
def Debited (s s' : Storage T) (assetId : T.AssetId) (who : T.AccountId)
    (n : ℕ) : Prop :=
  s'.free assetId who + n = s.free assetId who

/-- The account ends up with so much more. -/
def Credited (s s' : Storage T) (assetId : T.AssetId) (who : T.AccountId)
    (n : ℕ) : Prop :=
  s'.free assetId who = s.free assetId who + n

/-- What an exchange takes from the sender and gives the receiver. -/
def Settles (P : Pool T) (s s' : Storage T)
    (inputAssetId outputAssetId : T.AssetId) (amount : SwapAmount)
    (sender receiver : T.AccountId) (debit credit : ℕ) : Prop :=
  if inputAssetId = T.getBaseAssetId then
    Debited s s' inputAssetId sender debit ∧
      Credited s s' outputAssetId receiver credit
  else
    let self : BuyMainAsset T :=
      ⟨inputAssetId, outputAssetId, amount, sender, receiver⟩
    ∃ free input output s₁ s₂,
      (BuyMainAsset.depositInput P self).run s =
          (.ok (free, input, output), s₁) ∧
        (BuyMainAsset.distributeReserves P self free).run s₁ =
          (.ok (), s₂) ∧
        Debited s s₁ inputAssetId sender debit ∧
        Credited s₂ s' outputAssetId receiver credit

/-- The terms that a `SwapAmount` states, with the amount of the outcome. -/
def Honoured (o : SwapOutcome) (debit credit : ℕ) : SwapAmount → Prop
  | .withDesiredInput desiredAmountIn minAmountOut =>
      debit = desiredAmountIn ∧ minAmountOut ≤ credit
  | .withDesiredOutput desiredAmountOut maxAmountIn =>
      credit = desiredAmountOut ∧ debit ≤ maxAmountIn ∧ o.amount = debit

/-- Where the curve meets the terms by itself.  For a desired input its output
without the fee is within the limit; for a desired output there is no fee, and
the input is as much as the output and within the limit. -/
def Pool.MeetsTerms (P : Pool T) (s : Storage T)
    (inputAssetId outputAssetId : T.AssetId) : SwapAmount → Prop
  | .withDesiredInput desiredAmountIn minAmountOut =>
      ∃ output,
        Priced
          (if inputAssetId = T.getBaseAssetId then
            P.priceForMainAsset s inputAssetId desiredAmountIn .sell
          else P.priceForCollateralAsset s outputAssetId desiredAmountIn .buy)
          output ∧
        minAmountOut ≤ P.curve.net output
  | .withDesiredOutput desiredAmountOut maxAmountIn =>
      P.curve.feeOn desiredAmountOut = 0 ∧ desiredAmountOut ≤ maxAmountIn ∧
        Priced
          (if inputAssetId = T.getBaseAssetId then
            P.priceForCollateralAsset s inputAssetId desiredAmountOut .sell
          else P.priceForMainAsset s outputAssetId desiredAmountOut .buy)
          desiredAmountOut

theorem Debited.unique {assetId : T.AssetId} {who : T.AccountId} {m n : ℕ}
    (hm : Debited s s' assetId who m) (hn : Debited s s' assetId who n) :
    m = n :=
  Nat.add_left_cancel (hm.trans hn.symm)

theorem Credited.unique {assetId : T.AssetId} {who : T.AccountId} {m n : ℕ}
    (hm : Credited s s' assetId who m) (hn : Credited s s' assetId who n) :
    m = n :=
  Nat.add_left_cancel (hm.symm.trans hn)

/-- The run fixes both amounts. -/
theorem Settles.unique {debit credit debit' credit' : ℕ}
    (h : Settles P s s' inputAssetId outputAssetId amount sender receiver debit
      credit)
    (h' : Settles P s s' inputAssetId outputAssetId amount sender receiver
      debit' credit') :
    debit = debit' ∧ credit = credit' := by
  unfold Settles at h h'
  split_ifs at h h' with hbase
  · exact ⟨h.1.unique h'.1, h.2.unique h'.2⟩
  · obtain ⟨free, input, output, s₁, s₂, hdeposit, hdistribute, hdebit,
      hcredit⟩ := h
    obtain ⟨_, _, _, _, _, hdeposit', hdistribute', hdebit', hcredit'⟩ := h'
    rw [hdeposit] at hdeposit'
    cases hdeposit'
    rw [hdistribute] at hdistribute'
    cases hdistribute'
    exact ⟨hdebit.unique hdebit', hcredit.unique hcredit'⟩

/-! ## The two settlements -/

section

variable {input output : ℕ}

/-- A sale burns its input and pays its output without the fee. -/
theorem settles_of_sale (hM : T.currency.Lawful balanceModulus)
    (hreceiver : receiver ≠ P.reservesAccountId)
    (hne : inputAssetId ≠ outputAssetId)
    (h : (P.sellMainAsset inputAssetId outputAssetId amount sender
      receiver).run s = (.ok o, s')) :
    ∃ input output,
      P.decideSellAmounts s inputAssetId amount = .ok (input, output) ∧
        P.curve.Charges output o.fee ∧ o.amount = P.curve.net output ∧
        Debited s s' inputAssetId sender input ∧
        Credited s s' outputAssetId receiver o.amount := by
  obtain ⟨input, output, hdecide, hcharges, hamount, -, s₁, hout, hburn⟩ :=
    Pool.run_sellMainAsset_ok.mp h
  have hpaid := (Technical.run_transferOut_ok.mp hout).2
  obtain ⟨-, hbook₁⟩ := Assets.book_of_transferFrom hM hpaid
  obtain ⟨hle, hbook⟩ := Assets.book_of_burnFrom hM hburn
  refine ⟨input, output, hdecide, hcharges, ?_, ?_, ?_⟩
  · rw [hcharges.net_eq]
    exact hamount
  · have hsender : s₁.free inputAssetId sender = s.free inputAssetId sender := by
      rw [Storage.free, hbook₁, Book.free_moved_of_ne_currency hne]
      rfl
    rw [hsender] at hle
    rw [Debited, Storage.free, hbook, Book.free_retired_self]
    change s₁.free inputAssetId sender - input + input = _
    rw [hsender]
    exact Nat.sub_add_cancel hle
  · rw [Credited, Storage.free, hbook,
      Book.free_retired_of_ne_currency hne.symm, hbook₁]
    exact Book.free_moved_dest (Ne.symm hreceiver)

/-- Taking the input moves it from the sender to the reserves. -/
theorem debited_of_depositInput (hM : T.currency.Lawful balanceModulus)
    {self : BuyMainAsset T} {free : ℕ}
    (hsender : self.fromAccountId ≠ P.reservesAccountId)
    (h : (BuyMainAsset.depositInput P self).run s =
      (.ok (free, input, output), s')) :
    Debited s s' self.inAssetId self.fromAccountId input := by
  obtain ⟨-, -, -, hin, -⟩ := BuyMainAsset.run_depositInput_ok.mp h
  obtain ⟨hle, hbook⟩ :=
    Assets.book_of_transferFrom hM (Technical.run_transferIn_ok.mp hin).2
  have hcovered : input ≤ s.free self.inAssetId self.fromAccountId :=
    hle.resolve_left hsender
  have hne : self.fromAccountId ≠ techAccountIdToAccountId P.reservesAcc :=
    hsender
  rw [Debited, Storage.free, hbook, Book.free_moved_source hne]
  exact Nat.sub_add_cancel hcovered

theorem credited_of_mintOutput (hM : T.currency.Lawful balanceModulus)
    {self : BuyMainAsset T}
    (h : (BuyMainAsset.mintOutput P self output).run s = (.ok o, s')) :
    Credited s s' self.outAssetId self.toAccountId o.amount := by
  obtain ⟨-, -, hmint⟩ := BuyMainAsset.run_mintOutput_ok.mp h
  rw [Credited, Storage.free, Assets.book_of_mintTo hM hmint,
    Book.free_issued_self]
  rfl

end

/-- Every successful exchange settles what it decided. -/
theorem settles_of_exchange (hM : T.currency.Lawful balanceModulus)
    (hassets : P.usdt ≠ T.getBaseAssetId)
    (hsender : sender ≠ P.reservesAccountId)
    (hreceiver : receiver ≠ P.reservesAccountId)
    (h : (P.exchange sender receiver dexId inputAssetId outputAssetId
      amount).run s = (.ok o, s')) :
    ∃ input output,
      (if inputAssetId = T.getBaseAssetId then
          P.decideSellAmounts s inputAssetId amount
        else P.decideBuyAmounts s outputAssetId amount) =
          .ok (input, output) ∧
        P.curve.Charges output o.fee ∧ o.amount = P.curve.net output ∧
        Settles P s s' inputAssetId outputAssetId amount sender receiver input
          o.amount := by
  obtain ⟨-, hcan, h⟩ := Pool.run_exchange_ok.mp h
  by_cases hbase : inputAssetId = T.getBaseAssetId
  · have hne : inputAssetId ≠ outputAssetId := by
      intro heq
      simp only [Pool.canExchange, Bool.and_eq_true, Bool.or_eq_true,
        decide_eq_true_eq] at hcan
      rcases hcan.2 with husdt | husdt
      · exact hassets (husdt.1.symm.trans hbase)
      · exact hassets (husdt.1.symm.trans (heq.symm.trans hbase))
    rw [if_pos hbase] at h
    obtain ⟨input, output, hdecide, hcharges, hamount, hdebit, hcredit⟩ :=
      settles_of_sale hM hreceiver hne h
    refine ⟨input, output, ?_, hcharges, hamount, ?_⟩
    · rw [if_pos hbase]
      exact hdecide
    · rw [Settles, if_pos hbase]
      exact ⟨hdebit, hcredit⟩
  · rw [if_neg hbase] at h
    obtain ⟨free, input, output, s₁, s₂, hdeposit, hdistribute, hmint⟩ :=
      BuyMainAsset.run_swap_ok.mp h
    obtain ⟨hdecide, -⟩ := BuyMainAsset.run_depositInput_ok.mp hdeposit
    obtain ⟨hcharges, hamount, -⟩ := BuyMainAsset.run_mintOutput_ok.mp hmint
    refine ⟨input, output, ?_, hcharges, ?_, ?_⟩
    · rw [if_neg hbase]
      exact hdecide
    · rw [hcharges.net_eq]
      exact hamount
    · rw [Settles, if_neg hbase]
      exact ⟨free, input, output, s₁, s₂, hdeposit, hdistribute,
        debited_of_depositInput hM hsender hdeposit,
        credited_of_mintOutput hM hmint⟩

/-! ## Terms -/

/-- For a desired input the price decides what is paid out. -/
theorem honoured_input_iff {a limit output : ℕ} {r : Result FixedNumber}
    (hprice : Priced r output) (hamount : o.amount = P.curve.net output) :
    Honoured o a o.amount (.withDesiredInput a limit) ↔
      ∃ n, Priced r n ∧ limit ≤ P.curve.net n := by
  rw [Honoured, hamount]
  constructor
  · intro h
    exact ⟨output, hprice, h.2⟩
  · intro h
    obtain ⟨n, hn, hle⟩ := h
    rw [hn.unique hprice] at hle
    exact ⟨rfl, hle⟩

/-- For a desired output both amounts are decided by the curve alone. -/
theorem honoured_output_iff {b limit input : ℕ} {r : Result FixedNumber}
    (hprice : Priced r input) (hcharges : P.curve.Charges b o.fee)
    (hamount : o.amount = P.curve.net b) :
    Honoured o input o.amount (.withDesiredOutput b limit) ↔
      P.curve.feeOn b = 0 ∧ b ≤ limit ∧ Priced r b := by
  rw [Honoured, hamount, hcharges.net_eq_self_iff]
  constructor
  · intro h
    obtain ⟨hfee, hle, hinput⟩ := h
    have hb : input = b := by
      rw [← hinput]
      exact hcharges.net_eq_self_iff.mpr hfee
    rw [hb] at hle hprice
    exact ⟨hfee, hle, hprice⟩
  · intro h
    obtain ⟨hfee, hle, hb⟩ := h
    rw [hprice.unique hb]
    exact ⟨hfee, hle, hcharges.net_eq_self_iff.mpr hfee⟩

/-- What a sale decided determines whether it honours the terms. -/
theorem honoured_iff_of_sale {input output : ℕ}
    (hbase : inputAssetId = T.getBaseAssetId)
    (hdecide : P.decideSellAmounts s inputAssetId amount =
      .ok (input, output))
    (hcharges : P.curve.Charges output o.fee)
    (hamount : o.amount = P.curve.net output) :
    Honoured o input o.amount amount ↔
      P.MeetsTerms s inputAssetId outputAssetId amount := by
  cases amount with
  | withDesiredInput desired limit =>
      obtain ⟨rfl, hprice⟩ := Pool.decideSellAmounts_input_eq_ok.mp hdecide
      simp only [Pool.MeetsTerms, if_pos hbase]
      exact honoured_input_iff hprice hamount
  | withDesiredOutput desired limit =>
      obtain ⟨rfl, hprice⟩ := Pool.decideSellAmounts_output_eq_ok.mp hdecide
      simp only [Pool.MeetsTerms, if_pos hbase]
      exact honoured_output_iff hprice hcharges hamount

/-- What a purchase decided determines whether it honours the terms. -/
theorem honoured_iff_of_purchase {input output : ℕ}
    (hbase : inputAssetId ≠ T.getBaseAssetId)
    (hdecide : P.decideBuyAmounts s outputAssetId amount =
      .ok (input, output))
    (hcharges : P.curve.Charges output o.fee)
    (hamount : o.amount = P.curve.net output) :
    Honoured o input o.amount amount ↔
      P.MeetsTerms s inputAssetId outputAssetId amount := by
  cases amount with
  | withDesiredInput desired limit =>
      obtain ⟨rfl, hprice⟩ := Pool.decideBuyAmounts_input_eq_ok.mp hdecide
      simp only [Pool.MeetsTerms, if_neg hbase]
      exact honoured_input_iff hprice hamount
  | withDesiredOutput desired limit =>
      obtain ⟨rfl, hprice⟩ := Pool.decideBuyAmounts_output_eq_ok.mp hdecide
      simp only [Pool.MeetsTerms, if_neg hbase]
      exact honoured_output_iff hprice hcharges hamount

/-- A successful exchange honours the terms exactly where the curve meets
them. -/
theorem exchange_honours_iff (hM : T.currency.Lawful balanceModulus)
    (hassets : P.usdt ≠ T.getBaseAssetId)
    (hsender : sender ≠ P.reservesAccountId)
    (hreceiver : receiver ≠ P.reservesAccountId)
    (h : (P.exchange sender receiver dexId inputAssetId outputAssetId
      amount).run s = (.ok o, s')) :
    (∃ debit credit,
        Settles P s s' inputAssetId outputAssetId amount sender receiver debit
          credit ∧
        Honoured o debit credit amount) ↔
      P.MeetsTerms s inputAssetId outputAssetId amount := by
  obtain ⟨input, output, hdecide, hcharges, hamount, hsettles⟩ :=
    settles_of_exchange hM hassets hsender hreceiver h
  have hunique : (∃ debit credit,
      Settles P s s' inputAssetId outputAssetId amount sender receiver debit
        credit ∧
      Honoured o debit credit amount) ↔
      Honoured o input o.amount amount := by
    constructor
    · intro hex
      obtain ⟨debit, credit, hother, hterms⟩ := hex
      obtain ⟨rfl, rfl⟩ := hother.unique hsettles
      exact hterms
    · intro hterms
      exact ⟨input, o.amount, hsettles, hterms⟩
  rw [hunique]
  by_cases hbase : inputAssetId = T.getBaseAssetId
  · rw [if_pos hbase] at hdecide
    exact honoured_iff_of_sale hbase hdecide hcharges hamount
  · rw [if_neg hbase] at hdecide
    exact honoured_iff_of_purchase hbase hdecide hcharges hamount

theorem exchange_honours_iff_sale :
    (∃ debit credit,
        Settles Mock.curvePool (Mock.curveGenesis Mock.smallReserves)
          (Mock.curveSale.run (Mock.curveGenesis Mock.smallReserves)).2
          Mock.goldenTicket Mock.redPepper (.withDesiredInput Mock.unit 0)
          Mock.alice.account Mock.bob.account debit credit ∧
        Honoured ⟨92147759200800000000, 92239999200000000⟩ debit credit
          (.withDesiredInput Mock.unit 0)) ↔
      Mock.curvePool.MeetsTerms (Mock.curveGenesis Mock.smallReserves)
        Mock.goldenTicket Mock.redPepper (.withDesiredInput Mock.unit 0) :=
  exchange_honours_iff Mock.currency_lawful (by decide) (by decide +kernel)
    (by decide +kernel) Mock.curveSale_ok

/-- Alice pays more than a hundred units although she would pay none, and Bob
receives less than he was to receive. -/
theorem purchase_ignores_limit :
    (Mock.curvePurchase.run (Mock.curveGenesis Mock.smallReserves)).1 =
        .ok ⟨999 * 10 ^ 15, 10 ^ 15⟩ ∧
      Debited (Mock.curveGenesis Mock.smallReserves)
        (Mock.curvePurchase.run (Mock.curveGenesis Mock.smallReserves)).2
        Mock.redPepper Mock.alice.account 115300001000000000000 ∧
      Credited (Mock.curveGenesis Mock.smallReserves)
        (Mock.curvePurchase.run (Mock.curveGenesis Mock.smallReserves)).2
        Mock.goldenTicket Mock.bob.account (999 * 10 ^ 15) ∧
      Mock.alice.account ≠ Mock.curvePool.reservesAccountId ∧
      Mock.bob.account ≠ Mock.curvePool.reservesAccountId := by
  unfold Debited Credited
  decide +kernel

end BondingCurvePool
end SoraParachain
