import SoraParachain.PoolXyk.PoolLifetime

/-!
# The cache of the reserves

The reserves and the properties of a pool are kept under its two assets, without
its DEX.  They are entered when the pool is opened and renewed by every deposit,
withdrawal and exchange.  The invariant says which pool an entry belongs to; it
holds as long as no second pool takes the entry over and no exchange pays out to
the account of another pool.
-/

namespace SoraParachain
namespace PoolXyk

variable {T : Config}

open Technical (techAccountIdToAccountId IsRegistered
  techAccountIdToAccountId_inj)

/-- The two assets are the base asset of the runtime and a target, in either
order. -/
def IsPairOf (assetA assetB target : T.AssetId) : Prop :=
  assetA = T.getBaseAssetId ∧ assetB = target ∨
    assetA = target ∧ assetB = T.getBaseAssetId

/-- What a pool holds of the base asset of the runtime and of a target. -/
def balancesOf (s : Storage T) (techAcc : TechAccountIdOf T)
    (target : T.AssetId) : ℕ × ℕ :=
  (s.free T.getBaseAssetId (techAccountIdToAccountId techAcc),
    s.free target (techAccountIdToAccountId techAcc))

/-- The properties of two assets name the accounts and the marker asset of a
pool. -/
def NamesPool (s : Storage T) (base target : T.AssetId)
    (techAcc : TechAccountIdOf T) : Prop :=
  ∃ feeAcc marker, techAcc.toFeeAccount = some feeAcc ∧
    IsMarkerOf techAcc marker ∧
    s.properties base target = some (techAccountIdToAccountId techAcc,
      techAccountIdToAccountId feeAcc, marker)

/-- A pool of the base asset of the runtime that its properties name. -/
structure OpenPool (s : Storage T) (dexId : T.DEXId) (target : T.AssetId)
    (techAcc : TechAccountIdOf T) : Prop where
  native : BaseIsNative s dexId
  pool : IsPoolOf s dexId T.getBaseAssetId target techAcc
  registered : IsRegistered s techAcc
  reversible : Reversible T.getBaseAssetId ∧ Reversible target
  named : NamesPool s T.getBaseAssetId target techAcc

section

variable {s s' : Storage T} {dexId dexId' : T.DEXId}
variable {assetA assetB target target' : T.AssetId}
variable {techAcc other : TechAccountIdOf T}

/-- A pool on a DEX of the runtime's base asset has this asset on one side. -/
theorem IsPoolOf.isPairOf (h : IsPoolOf s dexId assetA assetB techAcc)
    (hnative : BaseIsNative s dexId) :
    ∃ target, IsPairOf assetA assetB target := by
  obtain ⟨tpair, h⟩ := h
  obtain ⟨info, target, hinfo, -, hsides, -⟩ :=
    techAccountFromDexAndAssetPair_eq_ok.mp h
  obtain ⟨info', hinfo', hbase⟩ := hnative
  rw [hinfo] at hinfo'
  cases hinfo'
  rw [hbase] at hsides
  rcases hsides with ⟨hA, hB⟩ | ⟨hB, hA⟩
  · exact ⟨target, Or.inl ⟨hA.symm, hB.symm⟩⟩
  · exact ⟨target, Or.inr ⟨hA.symm, hB.symm⟩⟩

/-- The order of the two assets does not matter for their pool. -/
theorem IsPoolOf.of_isPairOf (h : IsPoolOf s dexId assetA assetB techAcc)
    (hpair : IsPairOf assetA assetB target) :
    IsPoolOf s dexId T.getBaseAssetId target techAcc := by
  rcases hpair with ⟨rfl, rfl⟩ | ⟨rfl, rfl⟩
  · exact h
  · exact h.swap

/-! ## An open pool is determined by its account and by its entry -/

/-- Two open pools with one entry are the same. -/
theorem OpenPool.techAcc_eq (hT : T.CollisionFree)
    (h : OpenPool s dexId target techAcc)
    (h' : OpenPool s dexId' target other) : techAcc = other := by
  obtain ⟨_, _, -, -, hentry⟩ := h.named
  obtain ⟨_, _, -, -, hentry'⟩ := h'.named
  rw [hentry, Option.some.injEq, Prod.mk.injEq] at hentry'
  exact (techAccountIdToAccountId_inj hT).mp hentry'.1

/-- The account of an open pool is found from its own assets only. -/
theorem OpenPool.isPairOf (h : OpenPool s dexId target techAcc)
    (hpool : IsPoolOf s dexId' assetA assetB techAcc)
    (hA : Reversible assetA) (hB : Reversible assetB) :
    dexId' = dexId ∧ IsPairOf assetA assetB target := by
  obtain ⟨tpair, hown⟩ := h.pool
  obtain ⟨tpair', hfound⟩ := hpool
  obtain ⟨info, target₁, hinfo, hne, hsides, -, htarget, hkeeper⟩ :=
    techAccountFromDexAndAssetPair_eq_ok.mp hown
  obtain ⟨info', target₂, hinfo', -, hsides', -, htarget', hkeeper'⟩ :=
    techAccountFromDexAndAssetPair_eq_ok.mp hfound
  rw [hkeeper] at hkeeper'
  cases hkeeper'
  obtain ⟨info'', hinfo'', hbase⟩ := h.native
  rw [hinfo] at hinfo' hinfo''
  cases hinfo'
  cases hinfo''
  rw [hbase] at hsides hsides'
  have hown₁ : target₁ = target := by
    rcases hsides with ⟨-, heq⟩ | ⟨heq, -⟩
    · exact heq
    · exact absurd heq hne
  -- both targets convert to the target of the pair, and back
  have heq : ∀ asset, target₂ = asset → Reversible asset →
      asset = target := by
    intro asset hasset hreversible
    rw [← hreversible _ (hasset ▸ htarget'),
      h.reversible.2 _ (hown₁ ▸ htarget)]
  refine ⟨rfl, ?_⟩
  rcases hsides' with ⟨hbaseA, htargetB⟩ | ⟨hbaseB, htargetA⟩
  · exact Or.inl ⟨hbaseA.symm, heq _ htargetB hB⟩
  · exact Or.inr ⟨heq _ htargetA hA, hbaseB.symm⟩

theorem OpenPool.target_eq (h : OpenPool s dexId target techAcc)
    (h' : OpenPool s dexId' target' techAcc) : target' = target := by
  obtain ⟨-, hpair⟩ := h.isPairOf h'.pool h'.reversible.1 h'.reversible.2
  rcases hpair with ⟨-, heq⟩ | ⟨heq, heq'⟩
  · exact heq
  · rw [heq', heq]

/-- An open pool stays open while its entry does not change. -/
theorem OpenPool.transfer (h : OpenPool s dexId target techAcc)
    (hdex : s'.dexInfos = s.dexInfos) (hregistered : IsRegistered s' techAcc)
    (hentry : s'.properties T.getBaseAssetId target =
      s.properties T.getBaseAssetId target) :
    OpenPool s' dexId target techAcc where
  native := by
    have hnative := h.native
    rw [BaseIsNative] at hnative ⊢
    rw [hdex]
    exact hnative
  pool := h.pool.of_dexInfos_eq hdex
  registered := hregistered
  reversible := h.reversible
  named := by
    have hnamed := h.named
    rw [NamesPool] at hnamed ⊢
    rw [hentry]
    exact hnamed

/-! ## Sorting a pair -/

theorem sortAssets_of_isPairOf {β : Type} {f : T.AssetId → β}
    (hpair : IsPairOf assetA assetB target) (hne : assetA ≠ assetB) :
    sortAssets (assetA, f assetA) (assetB, f assetB) =
      ((T.getBaseAssetId, f T.getBaseAssetId), (target, f target)) := by
  rcases hpair with ⟨rfl, rfl⟩ | ⟨rfl, rfl⟩
  · rw [sortAssets, if_pos rfl]
  · rw [sortAssets, if_neg hne.symm, if_pos rfl]

theorem enterReserves_of_isPairOf {f : T.AssetId → ℕ}
    {reserves : T.AssetId → T.AssetId → ℕ × ℕ}
    (hpair : IsPairOf assetA assetB target) (hne : assetA ≠ assetB) :
    enterReserves reserves assetA assetB (f assetA, f assetB) =
      insert₂ reserves T.getBaseAssetId target
        (f T.getBaseAssetId, f target) := by
  rw [enterReserves, sortAssets_of_isPairOf hpair hne]

end

/-! ## The invariant -/

/-- The reserves of a pool that was deposited to are its balances. -/
def Cached (s : Storage T) (p : T.DEXId × T.AssetId × T.AssetId) : Prop :=
  ∃ target techAcc, OpenPool s p.1 target techAcc ∧
    IsPairOf p.2.1 p.2.2 target ∧
    s.reserves T.getBaseAssetId target = balancesOf s techAcc target

/-- Every registered pool is entered, and every pool that was deposited to is
cached. -/
structure CacheTrue (s : Storage T)
    (deposited : List (T.DEXId × T.AssetId × T.AssetId)) : Prop where
  reversible : AllReversible s
  opened : ∀ dexId tpair, IsRegistered s (keeperOf dexId tpair) →
    ∃ target, OpenPool s dexId target (keeperOf dexId tpair)
  cached : ∀ p ∈ deposited, Cached s p

/-- The entry of one pool is renewed, and no other pool is paid. -/
structure Renews (s s' : Storage T) (target : T.AssetId)
    (techAcc : TechAccountIdOf T) : Prop where
  dexInfos : s'.dexInfos = s.dexInfos
  techAccounts : s'.techAccounts = s.techAccounts
  properties : s'.properties = s.properties
  reserves : s'.reserves = insert₂ s.reserves T.getBaseAssetId target
    (balancesOf s' techAcc target)
  others : ∀ dexId' target' other, OpenPool s dexId' target' other →
    other ≠ techAcc → balancesOf s' other target' = balancesOf s other target'

section

variable {s s' : Storage T} {dexId : T.DEXId}
variable {assetA assetB target : T.AssetId} {techAcc : TechAccountIdOf T}
variable {deposited deposited' : List (T.DEXId × T.AssetId × T.AssetId)}

theorem OpenPool.renewed (h : OpenPool s dexId target techAcc)
    {target' : T.AssetId} {other : TechAccountIdOf T}
    (hrenews : Renews s s' target' other) :
    OpenPool s' dexId target techAcc := by
  refine h.transfer hrenews.dexInfos ?_ (by rw [hrenews.properties])
  rw [IsRegistered, hrenews.techAccounts]
  exact h.registered

/-- Renewing the entry of a pool that is deposited to keeps the cache true. -/
theorem CacheTrue.renew (hT : T.CollisionFree) (h : CacheTrue s deposited)
    (hreversible : AllReversible s') (hpool : OpenPool s dexId target techAcc)
    (hrenews : Renews s s' target techAcc)
    (hdeposited : ∀ p ∈ deposited', p ∈ deposited ∨
      p.1 = dexId ∧ IsPairOf p.2.1 p.2.2 target) :
    CacheTrue s' deposited' where
  reversible := hreversible
  opened := by
    intro dexId' tpair hregistered
    rw [IsRegistered, hrenews.techAccounts] at hregistered
    obtain ⟨target', hopen⟩ := h.opened dexId' tpair hregistered
    exact ⟨target', hopen.renewed hrenews⟩
  cached := by
    have hown : s'.reserves T.getBaseAssetId target =
        balancesOf s' techAcc target := by
      rw [hrenews.reserves]
      exact if_pos ⟨rfl, rfl⟩
    intro p hp
    rcases hdeposited p hp with hold | ⟨hdex, hpair⟩
    · obtain ⟨target', other, hopen, hpair, hcached⟩ := h.cached p hold
      refine ⟨target', other, hopen.renewed hrenews, hpair, ?_⟩
      by_cases hsame : other = techAcc
      · subst hsame
        rw [hopen.target_eq hpool] at hown
        exact hown
      · have hkey : ¬(T.getBaseAssetId = T.getBaseAssetId ∧
            target' = target) := by
          intro hkey
          apply hsame
          rw [hkey.2] at hopen
          exact hopen.techAcc_eq hT hpool
        rw [hrenews.others p.1 target' other hopen hsame, ← hcached,
          hrenews.reserves]
        exact if_neg hkey
    · refine ⟨target, techAcc, ?_, hpair, hown⟩
      rw [hdex]
      exact hpool.renewed hrenews

section Opening

variable {who : T.AccountId} {feeAcc : TechAccountIdOf T} {marker : T.AssetId}

theorem properties_of_initialized
    (hinit : Initialized s s' who dexId assetA assetB techAcc feeAcc marker)
    (hpair : IsPairOf assetA assetB target) :
    s'.properties = insert₂ s.properties T.getBaseAssetId target
      (some (techAccountIdToAccountId techAcc,
        techAccountIdToAccountId feeAcc, marker)) := by
  rw [hinit.properties, enterProperties, sortAssets_of_isPairOf
    (f := fun _ => ()) hpair hinit.pool.assets_ne]

/-- An open pool has another entry than the one that is entered, and keeps
it. -/
theorem OpenPool.of_initialized {dexId' : T.DEXId} {target' : T.AssetId}
    {other : TechAccountIdOf T} (hopen : OpenPool s dexId' target' other)
    (hextends : Extends s s')
    (hinit : Initialized s s' who dexId assetA assetB techAcc feeAcc marker)
    (hpair : IsPairOf assetA assetB target)
    (hfree : s.properties T.getBaseAssetId target = none) :
    OpenPool s' dexId' target' other := by
  refine hopen.transfer hextends.dexInfos
    (hextends.registered _ hopen.registered) ?_
  have hne : target' ≠ target := by
    intro heq
    obtain ⟨_, _, -, -, hentry⟩ := hopen.named
    rw [heq, hfree] at hentry
    cases hentry
  rw [properties_of_initialized hinit hpair]
  exact if_neg fun hkey => hne hkey.2

/-- The pool that was initialised is open. -/
theorem openPool_of_initialized (hreversible : AllReversible s)
    (hextends : Extends s s')
    (hinit : Initialized s s' who dexId assetA assetB techAcc feeAcc marker)
    (hnative : BaseIsNative s dexId) (hpair : IsPairOf assetA assetB target)
    (hregistered : IsRegistered s' techAcc) :
    OpenPool s' dexId target techAcc := by
  obtain ⟨info, hinfo, hbase⟩ := hnative
  have hpairs := hreversible.pairs _ _ hinit.enabled
  rw [sortAssets_of_isPairOf (f := fun _ => ()) hpair hinit.pool.assets_ne]
    at hpairs
  refine ⟨⟨info, ?_, hbase⟩,
    (hinit.pool.of_isPairOf hpair).of_dexInfos_eq hextends.dexInfos,
    hregistered, hpairs, feeAcc, marker, hinit.feeAccount, hinit.isMarker, ?_⟩
  · rw [hextends.dexInfos]
    exact hinfo
  · rw [properties_of_initialized hinit hpair]
    exact if_pos ⟨rfl, rfl⟩

/-- Opening a pool whose entry is free keeps the cache true. -/
theorem CacheTrue.open (hT : T.CollisionFree) (h : CacheTrue s deposited)
    (hreversible : AllReversible s') (hextends : Extends s s')
    (hinit : Initialized s s' who dexId assetA assetB techAcc feeAcc marker)
    (hnative : BaseIsNative s dexId)
    (hfree : ∀ target, IsPairOf assetA assetB target →
      s.properties T.getBaseAssetId target = none) :
    CacheTrue s' deposited := by
  obtain ⟨target, hpair⟩ := hinit.pool.isPairOf hnative
  have hkeeps : ∀ dexId' target' other, OpenPool s dexId' target' other →
      OpenPool s' dexId' target' other := fun _ _ _ hopen =>
    hopen.of_initialized hextends hinit hpair (hfree target hpair)
  refine ⟨hreversible, ?_, ?_⟩
  · intro dexId' tpair hregistered
    rcases RegistryStep.registered_of_initialized hT hinit hregistered with
      hold | hnew
    · obtain ⟨target', hopen⟩ := h.opened dexId' tpair hold
      exact ⟨target', hkeeps _ _ _ hopen⟩
    · obtain ⟨tpair', hkeeper⟩ := hinit.pool.keeper
      subst hnew
      have hopen := openPool_of_initialized h.reversible hextends hinit hnative
        hpair hregistered
      cases hkeeper
      exact ⟨target, hopen⟩
  · intro p hp
    obtain ⟨target', other, hopen, hpair', hcached⟩ := h.cached p hp
    refine ⟨target', other, hkeeps _ _ _ hopen, hpair', ?_⟩
    rw [hinit.reserves, hcached]
    simp only [balancesOf, Storage.free, Storage.book, hinit.ledger]

end Opening

end

/-! ## Calls renew the entry of their pool -/

section

variable {s s' : Storage T} {w : Signer T} {dexId : T.DEXId}
variable {assetA assetB target : T.AssetId} {techAcc : TechAccountIdOf T}
variable {deposited : List (T.DEXId × T.AssetId × T.AssetId)}

/-- The pool that a call found is open. -/
theorem CacheTrue.openPool (h : CacheTrue s deposited)
    (hpool : IsPoolOf s dexId assetA assetB techAcc)
    (hregistered : IsRegistered s techAcc) (hA : Assets.Exists s assetA)
    (hB : Assets.Exists s assetB) :
    ∃ target, OpenPool s dexId target techAcc ∧
      IsPairOf assetA assetB target := by
  obtain ⟨tpair, rfl⟩ := hpool.keeper
  obtain ⟨target, hopen⟩ := h.opened dexId tpair hregistered
  obtain ⟨-, hpair⟩ := hopen.isPairOf hpool (h.reversible.assets _ hA)
    (h.reversible.assets _ hB)
  exact ⟨target, hopen, hpair⟩

/-- A call that refreshes the reserves of its pool and pays no other pool. -/
theorem Renews.of_refreshes (hpair : IsPairOf assetA assetB target)
    (hne : assetA ≠ assetB) (h : Refreshes s s' techAcc assetA assetB)
    (hothers : ∀ dexId' target' other, OpenPool s dexId' target' other →
      other ≠ techAcc → balancesOf s' other target' =
        balancesOf s other target') :
    Renews s s' target techAcc := by
  rw [Refreshes] at h
  refine ⟨by rw [h], by rw [h], by rw [h], ?_, hothers⟩
  have hreserves : s'.reserves = enterReserves s.reserves assetA assetB
      (s'.free assetA (techAccountIdToAccountId techAcc),
        s'.free assetB (techAccountIdToAccountId techAcc)) :=
    congrArg Storage.reserves h
  rw [hreserves]
  exact enterReserves_of_isPairOf (f := fun asset =>
    s'.free asset (techAccountIdToAccountId techAcc)) hpair hne

/-- Money that moves between a user and a pool only reaches no other pool. -/
theorem Renews.of_untouched (hT : T.CollisionFree)
    (hpair : IsPairOf assetA assetB target) (hne : assetA ≠ assetB)
    (h : Refreshes s s' techAcc assetA assetB)
    (huntouched : ∀ assetId account, account ≠ w.account →
      account ≠ techAccountIdToAccountId techAcc →
        s'.free assetId account = s.free assetId account) :
    Renews s s' target techAcc := by
  apply Renews.of_refreshes hpair hne h
  intro dexId' target' other hopen hother
  have hw : techAccountIdToAccountId other ≠ w.account := w.notTechnical other
  have hpool : techAccountIdToAccountId other ≠
      techAccountIdToAccountId techAcc := by
    intro heq
    exact hother ((techAccountIdToAccountId_inj hT).mp heq)
  have hsame := fun assetId => huntouched assetId _ hw hpool
  rw [balancesOf, hsame, hsame, balancesOf]

theorem Deposited.renews (hT : T.CollisionFree) {marker : T.AssetId}
    {a b m : ℕ} (hpair : IsPairOf assetA assetB target)
    (hne : assetA ≠ assetB)
    (h : Deposited s s' w.account techAcc assetA assetB marker a b m) :
    Renews s s' target techAcc := by
  apply Renews.of_untouched hT hpair hne h.refreshes
  intro assetId account hw hpool
  rw [Storage.free, h.book, Book.free_issued_of_ne_account hw,
    Book.free_moved_of_ne_account hw hpool,
    Book.free_moved_of_ne_account hw hpool]
  rfl

theorem Withdrawn.renews (hT : T.CollisionFree) {marker : T.AssetId}
    {a b k : ℕ} (hpair : IsPairOf assetA assetB target)
    (hne : assetA ≠ assetB)
    (h : Withdrawn s s' w.account techAcc assetA assetB marker a b k) :
    Renews s s' target techAcc := by
  apply Renews.of_untouched hT hpair hne h.refreshes
  intro assetId account hw hpool
  rw [Storage.free, h.book, Book.free_retired_of_ne_account hw,
    Book.free_moved_of_ne_account hpool hw,
    Book.free_moved_of_ne_account hpool hw]
  rfl

/-- The receiver of an output is not the account of another open pool that
keeps this asset. -/
def PaysNoOtherPool (s : Storage T) (receiver : T.AccountId)
    (outputAssetId : T.AssetId) (techAcc : TechAccountIdOf T) : Prop :=
  ∀ dexId target other, OpenPool s dexId target other → other ≠ techAcc →
    outputAssetId = T.getBaseAssetId ∨ outputAssetId = target →
      techAccountIdToAccountId other ≠ receiver

theorem PairSwapAction.Settles.renews (hT : T.CollisionFree)
    (hM : T.currency.Lawful balanceModulus) {receiver : T.AccountId}
    {swapAmount : SwapAmount} {t : PairSwapAction.Terms T}
    {l : T.currency.Ledger} (hpair : IsPairOf assetA assetB target)
    (hne : assetA ≠ assetB)
    (hreceiver : PaysNoOtherPool s receiver assetB techAcc)
    (h : (exchangeAction receiver techAcc assetA assetB swapAmount).Settles s
      w.account t l) :
    Renews s ((exchangeAction receiver techAcc assetA assetB
      swapAmount).settled s l) target techAcc := by
  refine Renews.of_refreshes hpair hne rfl ?_
  intro dexId' target' other hopen hother
  have hw : techAccountIdToAccountId other ≠ w.account := w.notTechnical other
  have hpool : techAccountIdToAccountId other ≠
      techAccountIdToAccountId techAcc :=
    fun heq => hother ((techAccountIdToAccountId_inj hT).mp heq)
  have hfee : techAccountIdToAccountId other ≠
      techAccountIdToAccountId t.feeAccount := by
    intro heq
    obtain ⟨tpair, hkeeper⟩ := hopen.pool.keeper
    have hfeeAccount : techAcc.toFeeAccount = some t.feeAccount :=
      h.agreed.feeAccount
    rw [← (techAccountIdToAccountId_inj hT).mp heq, hkeeper] at hfeeAccount
    exact TechAccountId.toFeeAccount_ne_toTechUnit hfeeAccount
  obtain ⟨-, hbook⟩ := h.book hM
  have hsame : ∀ assetId,
      assetId = T.getBaseAssetId ∨ assetId = target' →
        (T.currency.book l).free assetId (techAccountIdToAccountId other) =
          s.free assetId (techAccountIdToAccountId other) := by
    intro assetId hasset
    have hpaid : assetId ≠ assetB ∨
        techAccountIdToAccountId other ≠ receiver := by
      by_cases hout : assetId = assetB
      · rw [hout] at hasset
        exact Or.inr (hreceiver dexId' target' other hopen hother hasset)
      · exact Or.inl hout
    rw [hbook]
    apply Book.free_paid_of_untouched
    intro p hp
    rw [PairSwapAction.payments] at hp
    split_ifs at hp
    · rcases List.mem_cons.mp hp with rfl | hp
      · exact Or.inr ⟨hw, hpool⟩
      rcases List.mem_cons.mp hp with rfl | hp
      · exact Or.inr ⟨hpool, hfee⟩
      · rw [List.mem_singleton.mp hp]
        exact hpaid.imp id fun hne => ⟨hpool, hne⟩
    · rcases List.mem_cons.mp hp with rfl | hp
      · exact Or.inr ⟨hw, hpool⟩
      rcases List.mem_cons.mp hp with rfl | hp
      · exact Or.inr ⟨hw, hfee⟩
      · rw [List.mem_singleton.mp hp]
        exact hpaid.imp id fun hne => ⟨hpool, hne⟩
  have hbase := hsame T.getBaseAssetId (Or.inl rfl)
  have htarget := hsame target' (Or.inr rfl)
  exact Prod.ext hbase htarget

end

/-! ## Runs -/

/-- What must hold of a call of the pool for the cache to stay true.  A pool is
opened on a DEX of the runtime's base asset and its entry is free; an exchange
does not pay another pool. -/
def KeepsCacheApart (s : Storage T) (x : Extrinsic T) : Prop :=
  match x.2 with
  | .tradingPairRegister _ _ _ => True
  | .initializePool dexId assetA assetB =>
      BaseIsNative s dexId ∧ ∀ target, IsPairOf assetA assetB target →
        s.properties T.getBaseAssetId target = none
  | .depositLiquidity _ _ _ _ _ _ _ => True
  | .withdrawLiquidity _ _ _ _ _ _ => True
  | .swapPair receiver dexId inputAssetId outputAssetId _ =>
      ∀ techAcc, IsPoolOf s dexId inputAssetId outputAssetId techAcc →
        PaysNoOtherPool s receiver outputAssetId techAcc
  | _ => False

/-- The pools that were deposited to, by the DEX and the two assets. -/
def recordDeposit (s : Storage T) (x : Extrinsic T)
    (deposited : List (T.DEXId × T.AssetId × T.AssetId)) :
    List (T.DEXId × T.AssetId × T.AssetId) :=
  match x.2 with
  | .depositLiquidity dexId inputAssetA inputAssetB _ _ _ _ =>
      if x.Succeeds s then (dexId, inputAssetA, inputAssetB) :: deposited
      else deposited
  | _ => deposited

section

variable {s : Storage T} {x : Extrinsic T}
variable {deposited : List (T.DEXId × T.AssetId × T.AssetId)}

/-- What touches no entry and no balance keeps the cache true. -/
theorem CacheTrue.of_same {s' : Storage T} (h : CacheTrue s deposited)
    (hreversible : AllReversible s') (hdex : s'.dexInfos = s.dexInfos)
    (haccounts : s'.techAccounts = s.techAccounts)
    (hproperties : s'.properties = s.properties)
    (hreserves : s'.reserves = s.reserves) (hledger : s'.ledger = s.ledger) :
    CacheTrue s' deposited := by
  have hopen : ∀ dexId target techAcc, OpenPool s dexId target techAcc →
      OpenPool s' dexId target techAcc := by
    intro dexId target techAcc hopen
    refine hopen.transfer hdex ?_ (by rw [hproperties])
    rw [IsRegistered, haccounts]
    exact hopen.registered
  refine ⟨hreversible, ?_, ?_⟩
  · intro dexId tpair hregistered
    rw [IsRegistered, haccounts] at hregistered
    obtain ⟨target, htarget⟩ := h.opened dexId tpair hregistered
    exact ⟨target, hopen _ _ _ htarget⟩
  · intro p hp
    obtain ⟨target, techAcc, htarget, hpair, hcached⟩ := h.cached p hp
    refine ⟨target, techAcc, hopen _ _ _ htarget, hpair, ?_⟩
    rw [hreserves, hcached]
    simp only [balancesOf, Storage.free, Storage.book, hledger]

theorem CacheTrue.step (hT : T.CollisionFree)
    (hM : T.currency.Lawful balanceModulus) (h : CacheTrue s deposited)
    (hx : KeepsCacheApart s x) :
    CacheTrue (step s x) (recordDeposit s x deposited) := by
  have hreversible : AllReversible (SoraParachain.step s x) :=
    h.reversible.step hT
  have hextends := step_extends s x
  obtain ⟨w, call⟩ := x
  by_cases hok : Extrinsic.Succeeds s (w, call)
  · have hrun := Extrinsic.succeeds_iff.mp hok
    generalize SoraParachain.step s (w, call) = s' at *
    cases call with
    | tradingPairRegister dexId baseAssetId targetAssetId =>
        obtain ⟨-, -, rfl⟩ := TradingPair.run_register_ok hrun
        exact h.of_same hreversible rfl rfl rfl rfl rfl
    | initializePool dexId assetA assetB =>
        obtain ⟨techAcc, feeAcc, marker, hinit⟩ := initialized_of_run hrun
        exact h.open hT hreversible hextends hinit hx.1 hx.2
    | depositLiquidity dexId assetA assetB aDesired bDesired aMin bMin =>
        obtain ⟨techAcc, -, -, -, -, hpool, -⟩ :=
          run_depositLiquidity_ok.mp hrun
        obtain ⟨mark, t, hagreed, hdeposited⟩ := deposited_of_run hM hpool hrun
        obtain ⟨target, hopen, hpair⟩ := h.openPool hpool hagreed.registered
          hagreed.fstExists hagreed.sndExists
        have hrenews := hdeposited.renews hT hpair hpool.assets_ne
        have hrecord : recordDeposit s (w, .depositLiquidity dexId assetA
            assetB aDesired bDesired aMin bMin) deposited =
              (dexId, assetA, assetB) :: deposited := if_pos hok
        rw [hrecord]
        apply h.renew hT hreversible hopen hrenews
        intro p hp
        rcases List.mem_cons.mp hp with rfl | hp
        · exact Or.inr ⟨rfl, hpair⟩
        · exact Or.inl hp
    | withdrawLiquidity dexId assetA assetB k aMin bMin =>
        obtain ⟨techAcc, -, -, -, -, hpool, -⟩ :=
          run_withdrawLiquidity_ok.mp hrun
        obtain ⟨mark, t, hagreed, hwithdrawn⟩ := withdrawn_of_run hM hpool hrun
        obtain ⟨target, hopen, hpair⟩ := h.openPool hpool hagreed.registered
          hagreed.fstExists hagreed.sndExists
        have hrenews := hwithdrawn.renews hT hpair hpool.assets_ne
        exact h.renew hT hreversible hopen hrenews fun p hp => Or.inl hp
    | swapPair receiver dexId assetA assetB swapAmount =>
        obtain ⟨techAcc, t, l, hpool, hsettles, rfl⟩ := run_swapPair_ok.mp hrun
        obtain ⟨target, hopen, hpair⟩ := h.openPool hpool
          hsettles.agreed.registered hsettles.agreed.sourceExists
          hsettles.agreed.destinationExists
        have hrenews := hsettles.renews hT hM hpair hpool.assets_ne
          (hx techAcc hpool)
        exact h.renew hT hreversible hopen hrenews fun p hp => Or.inl hp
    | _ => exact absurd hx id
  · have hsame : SameButRecords s (SoraParachain.step s (w, call)) := by
      rcases step_succeeds_or s (w, call) with hrun | hsame
      · exact absurd (Extrinsic.succeeds_iff.mpr hrun) hok
      · exact hsame
    have hrecord : recordDeposit s (w, call) deposited = deposited := by
      cases call with
      | depositLiquidity dexId assetA assetB aDesired bDesired aMin bMin =>
          exact if_neg hok
      | _ => rfl
    rw [hrecord]
    rw [SameButRecords] at hsame
    exact h.of_same hreversible (by rw [hsame]) (by rw [hsame])
      (by rw [hsame]) (by rw [hsame]) (by rw [hsame])

end

/-- In a run of calls of the pool from a genesis without pools, in which every
pool is opened with a free entry on a DEX of the runtime's base asset and no
exchange pays another pool, every pool that was deposited to has its balances in
the reserves and its accounts and its marker asset in the properties. -/
theorem reserves_cache_true (hT : T.CollisionFree)
    (hM : T.currency.Lawful balanceModulus) {genesis : Storage T}
    (hgenesis : ∀ dexId tpair, ¬IsRegistered genesis (keeperOf dexId tpair))
    (hreversible : AllReversible genesis) {extrinsics : List (Extrinsic T)}
    (hrun : Along step KeepsCacheApart genesis extrinsics)
    {dexId : T.DEXId} {info : DEXInfo T.AssetId} {target : T.AssetId}
    (hinfo : (runs genesis extrinsics).dexInfos dexId = some info)
    (hdeposited :
      (dexId, info.baseAssetId, target) ∈
          historyAlong step recordDeposit [] genesis extrinsics ∨
        (dexId, target, info.baseAssetId) ∈
          historyAlong step recordDeposit [] genesis extrinsics) :
    ∃ techAcc,
      IsPoolOf (runs genesis extrinsics) dexId info.baseAssetId target techAcc ∧
      (runs genesis extrinsics).reserves info.baseAssetId target =
        ((runs genesis extrinsics).free info.baseAssetId
            (techAccountIdToAccountId techAcc),
          (runs genesis extrinsics).free target
            (techAccountIdToAccountId techAcc)) ∧
      NamesPool (runs genesis extrinsics) info.baseAssetId target techAcc := by
  have hstart : CacheTrue genesis [] :=
    ⟨hreversible, fun dexId tpair h => absurd h (hgenesis dexId tpair),
      fun p hp => absurd hp List.not_mem_nil⟩
  have htrue : CacheTrue (runs genesis extrinsics)
      (historyAlong step recordDeposit [] genesis extrinsics) :=
    runAll_history_invariant (fun s x deposited hs hx => hs.step hT hM hx)
      extrinsics genesis [] hstart hrun
  have hcached : ∃ assetA assetB,
      Cached (runs genesis extrinsics) (dexId, assetA, assetB) ∧
      (assetA = info.baseAssetId ∧ assetB = target ∨
        assetA = target ∧ assetB = info.baseAssetId) := by
    rcases hdeposited with hp | hp
    · exact ⟨_, _, htrue.cached _ hp, Or.inl ⟨rfl, rfl⟩⟩
    · exact ⟨_, _, htrue.cached _ hp, Or.inr ⟨rfl, rfl⟩⟩
  obtain ⟨assetA, assetB, ⟨target', techAcc, hopen, hpair, hreserves⟩, hsides⟩ :=
    hcached
  obtain ⟨info', hinfo', hbase⟩ := hopen.native
  rw [hinfo] at hinfo'
  cases hinfo'
  rw [hbase] at hsides ⊢
  have htarget : target' = target := by
    have hne := hopen.pool.assets_ne
    rcases hpair with ⟨hA, hB⟩ | ⟨hA, hB⟩
    · rcases hsides with ⟨-, hB'⟩ | ⟨hA', hB'⟩
      · rw [← hB, hB']
      · exact absurd (hB'.symm.trans hB) hne
    · rcases hsides with ⟨hA', -⟩ | ⟨hA', -⟩
      · exact absurd (hA'.symm.trans hA) hne
      · rw [← hA, hA']
  rw [htarget] at hopen hreserves
  exact ⟨techAcc, hopen.pool, hreserves, hopen.named⟩

/-! ## Sample runs -/

/-- A user is no pool. -/
theorem PaysNoOtherPool.of_signer {s : Storage T} {receiver : Signer T}
    {outputAssetId : T.AssetId} {techAcc : TechAccountIdOf T} :
    PaysNoOtherPool s receiver.account outputAssetId techAcc :=
  fun _ _ other _ _ _ => receiver.notTechnical other

/-- A pool is opened, deposited to and traded with, and part of it is
withdrawn. -/
def cachedRun : List (Extrinsic Mock.runtime) :=
  Mock.openPool Mock.dexA Mock.redPepper ++
    [Mock.deposit Mock.dexA Mock.redPepper (1000000 * Mock.unit)
      (1000000 * Mock.unit), Mock.sellPepper 0, Mock.withdrawUnit]

theorem reserves_cache_true_sample :
    ∃ techAcc,
      IsPoolOf (runs Mock.genesis cachedRun) Mock.dexA Mock.goldenTicket
        Mock.redPepper techAcc ∧
      (runs Mock.genesis cachedRun).reserves Mock.goldenTicket
          Mock.redPepper =
        ((runs Mock.genesis cachedRun).free Mock.goldenTicket
            (techAccountIdToAccountId techAcc),
          (runs Mock.genesis cachedRun).free Mock.redPepper
            (techAccountIdToAccountId techAcc)) ∧
      NamesPool (runs Mock.genesis cachedRun) Mock.goldenTicket
        Mock.redPepper techAcc := by
  have hrun : Along step KeepsCacheApart Mock.genesis cachedRun := by
    refine ⟨trivial, ⟨⟨⟨Mock.goldenTicket, true⟩, by decide +kernel, rfl⟩, ?_⟩,
      trivial, fun _ _ => PaysNoOtherPool.of_signer, trivial, trivial⟩
    intro target hpair
    rcases hpair with ⟨-, rfl⟩ | ⟨-, hred⟩
    · decide +kernel
    · cases hred
  have hinfo : (runs Mock.genesis cachedRun).dexInfos Mock.dexA =
      some ⟨Mock.goldenTicket, true⟩ := by decide +kernel
  exact reserves_cache_true (T := Mock.runtime) Mock.collisionFree
    Mock.currency_lawful unregistered_genesis allReversible_genesis hrun hinfo
    (Or.inl (by decide +kernel))

/-- Alice sells one unit of red pepper and has the base asset paid to the pool
of black pepper. -/
def paidPool : List (Extrinsic Mock.runtime) :=
  Mock.openPool Mock.dexA Mock.redPepper ++
    Mock.openPool Mock.dexA Mock.blackPepper ++
    [Mock.deposit Mock.dexA Mock.redPepper Mock.unit Mock.unit,
      Mock.deposit Mock.dexA Mock.blackPepper Mock.unit Mock.unit,
      (Mock.alice, .swapPair (Mock.poolAccountOf Mock.dexA Mock.blackPepper)
        Mock.dexA Mock.redPepper Mock.goldenTicket
        (.withDesiredInput Mock.unit 0))]

/-- The sample genesis with a second DEX of the same base asset. -/
def withSecondDex : Storage Mock.runtime :=
  { Mock.genesis with
    dexInfos := Function.update Mock.genesis.dexInfos 221
      (some ⟨Mock.goldenTicket, true⟩) }

/-- After a deposit, a pool of the same assets is opened on the second DEX. -/
def sharedEntry : List (Extrinsic Mock.runtime) :=
  Mock.openPool Mock.dexA Mock.redPepper ++
    [Mock.deposit Mock.dexA Mock.redPepper Mock.unit Mock.unit] ++
    Mock.openPool 221 Mock.redPepper

/-- The reserves of the paid pool are less than it has of the base asset; and
the properties of the pool on the first DEX name the accounts of the other. -/
theorem cache_tells_otherwise :
    ((Mock.dexA, Mock.goldenTicket, Mock.blackPepper) ∈
        historyAlong step recordDeposit [] Mock.genesis paidPool ∧
      (runs Mock.genesis paidPool).reserves Mock.goldenTicket
          Mock.blackPepper = (Mock.unit, Mock.unit) ∧
      Mock.unit < (runs Mock.genesis paidPool).free Mock.goldenTicket
        (Mock.poolAccountOf Mock.dexA Mock.blackPepper)) ∧
    (Mock.dexA, Mock.goldenTicket, Mock.redPepper) ∈
        historyAlong step recordDeposit [] withSecondDex sharedEntry ∧
      (runs withSecondDex sharedEntry).properties Mock.goldenTicket
          Mock.redPepper =
        some (Mock.poolAccountOf 221 Mock.redPepper,
          techAccountIdToAccountId (T := Mock.runtime)
            (feeCollectorOf (T := Mock.runtime) 221
              ⟨Mock.goldenTicket, Mock.redPepper⟩),
          Mock.markerOf 221 Mock.redPepper) ∧
      Mock.poolAccountOf 221 Mock.redPepper ≠
        Mock.poolAccountOf Mock.dexA Mock.redPepper := by
  decide +kernel

end PoolXyk
end SoraParachain
