import SoraParachain.PoolXyk.Conservation
import SoraParachain.PoolXyk.PoolLifetime

/-!
# Which assets a submitted action may move

The account of a pool is named after a pair of assets.  The calls of the pool find
the account from the assets.  A submitted action names the account and the assets
apart from each other, and validation asks no more of the account than that it is
registered.
-/

namespace SoraParachain
namespace PoolXyk

variable {T : Config}

open Technical (techAccountIdToAccountId IsRegistered createSwap)

/-- The pool account is named after the pair of the two assets. -/
def IsNamedAfter (techAcc : TechAccountIdOf T) (assetA assetB : T.AssetId) :
    Prop :=
  ∃ dexId tpair, techAcc = keeperOf dexId tpair ∧ assetA ≠ assetB ∧
    (assetA = T.techAssetIdInto tpair.baseAssetId ∧
        assetB = T.techAssetIdInto tpair.targetAssetId ∨
      assetA = T.techAssetIdInto tpair.targetAssetId ∧
        assetB = T.techAssetIdInto tpair.baseAssetId)

/-! ## Accounts of open pools -/

/-- Every registered pool account is the one that is found from two assets which
convert back. -/
structure PoolsNamed (s : Storage T) : Prop where
  reversible : AllReversible s
  found : ∀ dexId tpair, IsRegistered s (keeperOf dexId tpair) →
    ∃ assetA assetB, IsPoolOf s dexId assetA assetB (keeperOf dexId tpair) ∧
      Reversible assetA ∧ Reversible assetB

section

variable {s : Storage T} {assetA assetB : T.AssetId}

theorem sortAssets_eq_or {β : Type} (pairA pairB : T.AssetId × β) :
    sortAssets pairA pairB = (pairA, pairB) ∨
      sortAssets pairA pairB = (pairB, pairA) := by
  unfold sortAssets
  split_ifs
  · exact Or.inl rfl
  · exact Or.inr rfl
  · exact sortWithHashKey_cases _ _ _ _

/-- What holds of both assets of a sorted pair holds of the assets. -/
theorem forall_of_sortAssets {p : T.AssetId → Prop}
    (hfst : p (sortAssets (assetA, ()) (assetB, ())).1.1)
    (hsnd : p (sortAssets (assetA, ()) (assetB, ())).2.1) :
    p assetA ∧ p assetB := by
  rcases sortAssets_eq_or (assetA, ()) (assetB, ()) with hsort | hsort
  · rw [hsort] at hfst hsnd
    exact ⟨hfst, hsnd⟩
  · rw [hsort] at hfst hsnd
    exact ⟨hsnd, hfst⟩

theorem PoolsNamed.step (hT : T.CollisionFree) {x : Extrinsic T}
    (h : PoolsNamed s) : PoolsNamed (step s x) where
  reversible := h.reversible.step hT
  found dexId tpair hregistered := by
    have hdex := (step_extends s x).dexInfos
    rcases (step_registry s x).newPool hT hregistered with hold |
      ⟨dexId', assetA, assetB, feeAcc, marker, -, hinit⟩
    · obtain ⟨assetA, assetB, hpool, hreversible⟩ := h.found dexId tpair hold
      exact ⟨assetA, assetB, hpool.of_dexInfos_eq hdex, hreversible⟩
    · obtain ⟨pair, hkeeper⟩ := hinit.pool.keeper
      cases hkeeper
      have hpairs := h.reversible.pairs _ _ hinit.enabled
      exact ⟨assetA, assetB, hinit.pool.of_dexInfos_eq hdex,
        forall_of_sortAssets hpairs.1 hpairs.2⟩

theorem poolsNamed_runs (hT : T.CollisionFree) {genesis : Storage T}
    (hgenesis : ∀ dexId tpair, ¬IsRegistered genesis (keeperOf dexId tpair))
    (hreversible : AllReversible genesis) (extrinsics : List (Extrinsic T)) :
    PoolsNamed (runs genesis extrinsics) := by
  have hstart : PoolsNamed genesis :=
    ⟨hreversible, fun dexId tpair h => absurd h (hgenesis dexId tpair)⟩
  have halong : Along SoraParachain.step (fun _ _ => True) genesis extrinsics :=
    along_of_forall_mem fun _ _ => trivial
  exact runAll_invariant (fun s x hs _ => hs.step hT) extrinsics genesis hstart
    halong

/-- The account that is found from two assets is named after their pair, if they
convert back. -/
theorem IsPoolOf.isNamedAfter {dexId : T.DEXId} {techAcc : TechAccountIdOf T}
    (hA : Reversible assetA) (hB : Reversible assetB)
    (h : IsPoolOf s dexId assetA assetB techAcc) :
    IsNamedAfter techAcc assetA assetB := by
  obtain ⟨tpair, h⟩ := h
  obtain ⟨info, target, -, hne, hsides, hbase, htarget, hkeeper⟩ :=
    techAccountFromDexAndAssetPair_eq_ok.mp h
  refine ⟨dexId, tpair, hkeeper, hne, ?_⟩
  rcases hsides with ⟨hfst, hsnd⟩ | ⟨hfst, hsnd⟩
  · rw [hfst] at hbase
    rw [hsnd] at htarget
    exact Or.inl ⟨(hA _ hbase).symm, (hB _ htarget).symm⟩
  · rw [hfst] at hbase
    rw [hsnd] at htarget
    exact Or.inr ⟨(hA _ htarget).symm, (hB _ hbase).symm⟩

/-- A registered pool account is named after the pair of two assets exactly when
it is found from them. -/
theorem PoolsNamed.isNamedAfter_iff (h : PoolsNamed s)
    {techAcc : TechAccountIdOf T} (hregistered : IsRegistered s techAcc)
    (hA : Assets.Exists s assetA) (hB : Assets.Exists s assetB) :
    IsNamedAfter techAcc assetA assetB ↔
      ∃ dexId, IsPoolOf s dexId assetA assetB techAcc := by
  constructor
  · intro hnamed
    obtain ⟨dexId, tpair, rfl, hne, hassets⟩ := hnamed
    obtain ⟨assetA', assetB', ⟨tpair', hpool⟩, hA', hB'⟩ :=
      h.found dexId tpair hregistered
    obtain ⟨info, target, hinfo, -, hsides, hbase, htarget, hkeeper⟩ :=
      techAccountFromDexAndAssetPair_eq_ok.mp hpool
    cases hkeeper
    have hinto : T.techAssetIdInto tpair.baseAssetId = info.baseAssetId ∧
        T.techAssetIdInto tpair.targetAssetId = target := by
      rcases hsides with ⟨rfl, rfl⟩ | ⟨rfl, rfl⟩
      · exact ⟨hA' _ hbase, hB' _ htarget⟩
      · exact ⟨hB' _ hbase, hA' _ htarget⟩
    rw [hinto.1, hinto.2] at hassets
    refine ⟨dexId, tpair, techAccountFromDexAndAssetPair_eq_ok.mpr
      ⟨info, target, hinfo, hne, ?_, hbase, htarget, rfl⟩⟩
    rcases hassets with ⟨rfl, rfl⟩ | ⟨rfl, rfl⟩
    · exact Or.inl ⟨rfl, rfl⟩
    · exact Or.inr ⟨rfl, rfl⟩
  · intro hpool
    obtain ⟨dexId, hpool⟩ := hpool
    exact hpool.isNamedAfter (h.reversible.assets _ hA)
      (h.reversible.assets _ hB)

end

/-! ## Submitted actions -/

namespace PolySwapAction

/-- The two assets that an action exchanges, deposits or withdraws. -/
def assets : PolySwapAction T → T.AssetId × T.AssetId
  | .pairSwap a => (a.source.asset, a.destination.asset)
  | .depositLiquidity a => (a.source.fst.asset, a.source.snd.asset)
  | .withdrawLiquidity a => (a.destination.fst.asset, a.destination.snd.asset)

/-- What a successful action shows of its account and its assets. -/
theorem accepted_of_createSwap {action : PolySwapAction T} {w : T.AccountId}
    {s s' : Storage T} (h : (createSwap w action).run s = (.ok (), s')) :
    IsRegistered s action.poolAccount ∧ Assets.Exists s action.assets.1 ∧
      Assets.Exists s action.assets.2 := by
  cases action with
  | pairSwap a =>
      obtain ⟨-, t, l, hsettles, -⟩ := run_performCreateSwap_pairSwap_ok.mp h
      exact ⟨hsettles.agreed.registered, hsettles.agreed.sourceExists,
        hsettles.agreed.destinationExists⟩
  | depositLiquidity a =>
      obtain ⟨-, t, l, l', hsettles, -⟩ :=
        run_performCreateSwap_depositLiquidity_ok.mp h
      exact ⟨hsettles.agreed.registered, hsettles.agreed.fstExists,
        hsettles.agreed.sndExists⟩
  | withdrawLiquidity a =>
      obtain ⟨-, t, l, l', hsettles, -⟩ :=
        run_performCreateSwap_withdrawLiquidity_ok.mp h
      exact ⟨hsettles.agreed.registered, hsettles.agreed.fstExists,
        hsettles.agreed.sndExists⟩

/-- A successful action moves its two assets and the marker asset of its
account. -/
theorem free_of_createSwap (hM : T.currency.Lawful balanceModulus)
    {action : PolySwapAction T} {w : T.AccountId} {s s' : Storage T}
    (h : (createSwap w action).run s = (.ok (), s')) {assetId : T.AssetId}
    (hfst : assetId ≠ action.assets.1) (hsnd : assetId ≠ action.assets.2)
    (hmarker : ¬IsMarkerOf action.poolAccount assetId) :
    s'.free assetId = s.free assetId := by
  funext who
  cases action with
  | pairSwap a =>
      obtain ⟨-, t, l, hsettles, rfl⟩ := run_performCreateSwap_pairSwap_ok.mp h
      change (T.currency.book l).free assetId who = _
      rw [(hsettles.book hM).2]
      apply Book.free_paid_of_ne_currency
      have hfst' : assetId ≠ a.source.asset := hfst
      have hsnd' : assetId ≠ a.destination.asset := hsnd
      unfold PairSwapAction.payments
      split_ifs
      · simp [hfst', hsnd']
      · simp [hfst', hsnd']
  | depositLiquidity a =>
      obtain ⟨-, t, l, l', hsettles, rfl⟩ :=
        run_performCreateSwap_depositLiquidity_ok.mp h
      have hne : assetId ≠ a.marker := fun heq =>
        hmarker ⟨_, hsettles.agreed.marker, heq⟩
      have hfst' : assetId ≠ a.source.fst.asset := hfst
      have hsnd' : assetId ≠ a.source.snd.asset := hsnd
      change (T.currency.book l').free assetId who = _
      rw [hsettles.book hM, Book.free_issued_of_ne_currency hne,
        Book.free_moved_of_ne_currency hsnd',
        Book.free_moved_of_ne_currency hfst']
      rfl
  | withdrawLiquidity a =>
      obtain ⟨-, t, l, l', hsettles, rfl⟩ :=
        run_performCreateSwap_withdrawLiquidity_ok.mp h
      have hne : assetId ≠ a.marker := fun heq =>
        hmarker ⟨_, hsettles.agreed.marker, heq⟩
      have hfst' : assetId ≠ a.destination.fst.asset := hfst
      have hsnd' : assetId ≠ a.destination.snd.asset := hsnd
      change (T.currency.book l').free assetId who = _
      rw [hsettles.book hM, Book.free_retired_of_ne_currency hne,
        Book.free_moved_of_ne_currency hsnd',
        Book.free_moved_of_ne_currency hfst']
      rfl

end PolySwapAction

/-- An action that succeeds moves its two assets, besides the marker asset of its
account; and these are the two assets of the pair that the account is named after
exactly when the account is the one that is found from them on some DEX. -/
theorem submitted_assets_bound_iff (hT : T.CollisionFree)
    (hM : T.currency.Lawful balanceModulus) {genesis : Storage T}
    (hgenesis : ∀ dexId tpair, ¬IsRegistered genesis (keeperOf dexId tpair))
    (hreversible : AllReversible genesis) {extrinsics : List (Extrinsic T)}
    {w : T.AccountId} {action : PolySwapAction T} {s' : Storage T}
    (h : (createSwap w action).run (runs genesis extrinsics) = (.ok (), s')) :
    (∀ assetId, assetId ≠ action.assets.1 → assetId ≠ action.assets.2 →
        ¬IsMarkerOf action.poolAccount assetId →
          s'.free assetId = (runs genesis extrinsics).free assetId) ∧
      (IsNamedAfter action.poolAccount action.assets.1 action.assets.2 ↔
        ∃ dexId, IsPoolOf (runs genesis extrinsics) dexId action.assets.1
          action.assets.2 action.poolAccount) := by
  obtain ⟨hregistered, hfst, hsnd⟩ := PolySwapAction.accepted_of_createSwap h
  constructor
  · intro assetId hA hB hmarker
    exact PolySwapAction.free_of_createSwap hM h hA hB hmarker
  · exact (poolsNamed_runs hT hgenesis hreversible extrinsics).isNamedAfter_iff
      hregistered hfst hsnd

/-! ## The sample pool -/

/-- A pool with a million units of both assets. -/
def fundedRun : List (Extrinsic Mock.runtime) :=
  Mock.openPool Mock.dexA Mock.redPepper ++
    [Mock.deposit Mock.dexA Mock.redPepper (1000000 * Mock.unit)
      (1000000 * Mock.unit)]

theorem submitted_assets_bound_sample :
    IsNamedAfter (Mock.poolOf Mock.dexA Mock.redPepper) Mock.goldenTicket
      Mock.redPepper := by
  have hdex : (runs Mock.genesis fundedRun).dexInfos Mock.dexA =
      some ⟨Mock.goldenTicket, true⟩ := by decide +kernel
  have hbound := submitted_assets_bound_iff (T := Mock.runtime)
    Mock.collisionFree Mock.currency_lawful unregistered_genesis
    allReversible_genesis (Extrinsic.succeeds_iff.mp (by decide +kernel :
      Extrinsic.Succeeds (runs Mock.genesis fundedRun)
        (Mock.bob, .createSwap submittedSwap)))
  exact hbound.2.mpr ⟨Mock.dexA, Mock.isPoolOf hdex (by decide)⟩

/-- Alice deposits black pepper twice into the pool of red pepper. -/
def foreignDeposit : PolySwapAction Mock.runtime :=
  .depositLiquidity
    { clientAccount := none
      receiverAccount := none
      poolAccount := Mock.poolOf Mock.dexA Mock.redPepper
      source :=
        { fst := ⟨Mock.blackPepper, .desired (1000000 * Mock.unit)⟩
          snd := ⟨Mock.blackPepper, .desired (1000000 * Mock.unit)⟩ }
      destination := ⟨Mock.markerOf Mock.dexA Mock.redPepper, .decide⟩
      minLiquidity := none }

/-- For black pepper she gets as many marker tokens of the pool as the first
depositor got for its two assets. -/
theorem foreign_deposit_succeeds :
    Extrinsic.Succeeds (runs Mock.genesis fundedRun)
        (Mock.alice, .createSwap foreignDeposit) ∧
      foreignDeposit.assets = (Mock.blackPepper, Mock.blackPepper) ∧
      ¬IsNamedAfter foreignDeposit.poolAccount Mock.blackPepper
        Mock.blackPepper ∧
      (step (runs Mock.genesis fundedRun)
          (Mock.alice, .createSwap foreignDeposit)).free
        (Mock.markerOf Mock.dexA Mock.redPepper) Mock.alice.account =
      (runs Mock.genesis fundedRun).free
        (Mock.markerOf Mock.dexA Mock.redPepper) Mock.bob.account := by
  refine ⟨by decide +kernel, rfl, ?_, by decide +kernel⟩
  intro h
  obtain ⟨-, -, -, hne, -⟩ := h
  exact hne rfl

end PoolXyk
end SoraParachain
