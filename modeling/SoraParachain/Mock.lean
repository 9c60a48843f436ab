import Mathlib.Data.Nat.Pairing
import SoraParachain.Runtime

/-!
# A runtime to execute the pallets in

The identifiers are natural numbers and every hash is an injective code, so
that no two descriptions collide.  Accounts with even numbers belong to users;
technical accounts have odd numbers.  Derived assets have odd numbers, generated
ones are even and the three assets of the genesis are multiples of four.
-/

namespace SoraParachain
namespace Mock

/-! ## Codes -/

def codeOfBytes : List UInt8 → ℕ
  | [] => 0
  | b :: bs => Nat.pair b.toNat (codeOfBytes bs) + 1

def codeOfPurpose : TechPurpose ℕ → ℕ
  | .feeCollector => Nat.pair 0 0
  | .feeCollectorForPair tpair =>
      Nat.pair 1 (Nat.pair tpair.baseAssetId tpair.targetAssetId)
  | .liquidityKeeper tpair =>
      Nat.pair 2 (Nat.pair tpair.baseAssetId tpair.targetAssetId)
  | .identifier data => Nat.pair 3 (codeOfBytes data)

def codeOfTechAccount : TechAccountId ℕ ℕ ℕ → ℕ
  | .pure dex purpose => Nat.pair 0 (Nat.pair dex (codeOfPurpose purpose))
  | .generic tag data =>
      Nat.pair 1 (Nat.pair (codeOfBytes tag) (codeOfBytes data))
  | .wrapped a => Nat.pair 2 a
  | .wrappedRepr a => Nat.pair 3 a

def codeOfSource : LiquiditySourceType → ℕ
  | .xykPool => 0
  | .bondingCurvePool => 1
  | .multicollateralBondingCurvePool => 2
  | .mockPool => 3
  | .mockPool2 => 4
  | .mockPool3 => 5
  | .mockPool4 => 6

def codeOfArg : AssetRecordArg ℕ ℕ → ℕ
  | .genericU128 n => Nat.pair 0 n
  | .extra (.dexId dex) => Nat.pair 1 dex
  | .extra (.lstId lst) => Nat.pair 2 (codeOfSource lst)
  | .extra (.accountId account) => Nat.pair 3 account

def codeOfRecord : AssetRecord ℕ ℕ → ℕ
  | .arity3 a b c =>
      Nat.pair (codeOfArg a) (Nat.pair (codeOfArg b) (codeOfArg c))

theorem codeOfBytes_injective : Function.Injective codeOfBytes := by
  intro xs
  induction xs with
  | nil =>
      intro ys h
      cases ys with
      | nil => rfl
      | cons y ys => simp [codeOfBytes] at h
  | cons x xs ih =>
      intro ys h
      cases ys with
      | nil => simp [codeOfBytes] at h
      | cons y ys =>
          simp only [codeOfBytes, Nat.add_right_cancel_iff,
            Nat.pair_eq_pair] at h
          rw [UInt8.toNat_inj.mp h.1, ih h.2]

theorem codeOfPurpose_injective : Function.Injective codeOfPurpose := by
  intro p q h
  cases p <;> cases q <;>
    simp_all [codeOfPurpose, Nat.pair_eq_pair, TradingPair.ext_iff,
      codeOfBytes_injective.eq_iff]

theorem codeOfTechAccount_injective :
    Function.Injective codeOfTechAccount := by
  intro t u h
  cases t <;> cases u <;>
    simp_all [codeOfTechAccount, Nat.pair_eq_pair,
      codeOfPurpose_injective.eq_iff, codeOfBytes_injective.eq_iff]

theorem codeOfArg_injective : Function.Injective codeOfArg := by
  have hsource : Function.Injective codeOfSource := by
    intro a b h
    cases a <;> cases b <;> simp_all [codeOfSource]
  intro a b h
  rcases a with n | ⟨a | a | a⟩ <;> rcases b with m | ⟨b | b | b⟩ <;>
    simp_all [codeOfArg, Nat.pair_eq_pair, hsource.eq_iff]

theorem codeOfRecord_injective : Function.Injective codeOfRecord := by
  rintro ⟨a, b, c⟩ ⟨a', b', c'⟩ h
  simp_all [codeOfRecord, Nat.pair_eq_pair, codeOfArg_injective.eq_iff]

/-! ## The runtime -/

/-- Every account can be referred to without limit. -/
def system : System ℕ where
  State := ℕ → ℕ
  accountNonce who st := st who
  incAccountNonce who st := Function.update st who (st who + 1)
  incProviders _ st := st
  incConsumers _ st := some st

def goldenTicket : ℕ := 4
def redPepper : ℕ := 8
def blackPepper : ℕ := 12

/-- `Runtime` of the mock: the base asset is `GoldenTicket`. -/
abbrev runtime : Config where
  AccountId := ℕ
  AssetId := ℕ
  TechAssetId := ℕ
  DEXId := ℕ
  currency := CoinLedger.currency ℕ ℕ balanceModulus
  system := system
  getBaseAssetId := goldenTicket
  defaultAccountId := 0
  techAssetIdInto := id
  techAssetIdTryFrom := some
  techAccountIdRepr t := 2 * codeOfTechAccount t + 1
  assetIdOfRecord r := 2 * codeOfRecord r + 1
  assetIdOfNonce who n := 4 * Nat.pair who n + 2
  hashAssetId a := 2 * a
  hashAssetIdPair := Nat.pair
  hashDEXId dex := 2 * dex + 1
  markingAssetTag := 0

theorem currency_lawful : runtime.currency.Lawful balanceModulus :=
  CoinLedger.currency_lawful

theorem techAccountIdRepr_injective :
    Function.Injective runtime.techAccountIdRepr := by
  intro t u h
  simp only [runtime] at h
  exact codeOfTechAccount_injective (by omega)

theorem assetIdOfRecord_injective :
    Function.Injective runtime.assetIdOfRecord := by
  intro r r' h
  simp only [runtime] at h
  exact codeOfRecord_injective (by omega)

theorem collisionFree : runtime.CollisionFree where
  repr := techAccountIdRepr_injective
  record := assetIdOfRecord_injective
  nonce_ne_record who nonce record := by
    simp only [runtime]
    omega
  into_of_tryFrom record techAsset h := (Option.some.inj h).symm

/-- The user with a number. -/
def user (n : ℕ) : Signer runtime where
  account := (2 * n : ℕ)
  notTechnical t := by
    change 2 * codeOfTechAccount t + 1 ≠ 2 * n
    omega

def alice : Signer runtime := user 1
def bob : Signer runtime := user 2
def carol : Signer runtime := user 3

/-! ## The genesis -/

def dexA : ℕ := 220

/-- The modes that the genesis of the permissions pallet sets. -/
def modes (p : PermissionId) : Option Mode :=
  if p = Permissions.transfer then some .forbid
  else if 1 ≤ p ∧ p ≤ 13 then some .permit
  else none

/-- One unit with all its decimals. -/
def unit : ℕ := 10 ^ 18

/-- What the users hold before the first block. -/
def endowment : List (Coin ℕ ℕ) :=
  [⟨goldenTicket, alice.account, 4000000 * unit⟩,
    ⟨redPepper, alice.account, 4000000 * unit⟩,
    ⟨blackPepper, alice.account, 4000000 * unit⟩,
    ⟨goldenTicket, bob.account, 4000000 * unit⟩,
    ⟨redPepper, bob.account, 4000000 * unit⟩,
    ⟨blackPepper, bob.account, 4000000 * unit⟩]

def initialLedger : CoinLedger ℕ ℕ balanceModulus where
  coins := endowment
  issuance_lt c :=
    lt_of_le_of_lt (CoinLedger.worth_le_sum _ _) (by decide)

/-- The storage before any asset is registered. -/
def bare : Storage runtime where
  ledger := initialLedger
  system := fun _ => 0
  permissionOwners p scope :=
    if p = Permissions.manageDex ∧ scope = .limited (runtime.hashDEXId dexA)
      then [bob.account]
    else if p = Permissions.transfer ∧ scope = .unlimited then [alice.account]
    else []
  modes := modes
  permissions who :=
    if who = bob.account then
      AList.singleton (.limited (runtime.hashDEXId dexA))
        [Permissions.manageDex]
    else ∅
  assetOwners _ := runtime.defaultAccountId
  assetInfos _ := .default
  assetRecords _ := none
  techAccounts _ := none
  dexInfos dex := if dex = dexA then some ⟨goldenTicket, true⟩ else none
  enabledSources _ _ := none
  reserves _ _ := (0, 0)
  properties _ _ := none
  markerTokensIndex := ∅

/-- Alice owns the three assets of the genesis. -/
@[irreducible] def genesis : Storage runtime :=
  ((do
    Assets.registerAssetId alice.account goldenTicket [71, 84] [71, 84] 18 0
      true
    Assets.registerAssetId alice.account redPepper [82, 80] [82, 80] 18 0 true
    Assets.registerAssetId alice.account blackPepper [66, 80] [66, 80] 18 0
      true : Exec runtime Unit).run bare).2

/-! ## A pool -/

/-- The account of the pool of the base asset and another asset. -/
def poolOf (dex target : ℕ) : TechAccountIdOf runtime :=
  TechAccountId.toTechUnitFromDexAndTradingPair dex ⟨goldenTicket, target⟩

def poolAccountOf (dex target : ℕ) : ℕ :=
  Technical.techAccountIdToAccountId (poolOf dex target)

/-- Bob opens a pool of the base asset and another asset. -/
def openPool (dex target : ℕ) : List (Extrinsic runtime) :=
  [(bob, .tradingPairRegister dex goldenTicket target),
    (bob, .initializePool dex goldenTicket target)]

/-- Bob deposits into a pool of the base asset and another asset. -/
def deposit (dex target base other : ℕ) : Extrinsic runtime :=
  (bob, .depositLiquidity dex goldenTicket target base other 0 0)

/-- A pool of a million units of each asset. -/
@[irreducible] def funded : Storage runtime :=
  runs genesis
    (openPool dexA redPepper ++
      [deposit dexA redPepper (1000000 * unit) (1000000 * unit)])

/-- Bob withdraws one unit of the marker asset. -/
def withdrawUnit : Extrinsic runtime :=
  (bob, .withdrawLiquidity dexA goldenTicket redPepper unit 1 1)

/-- The marker asset of a pool. -/
def markerOf (dex target : ℕ) : ℕ :=
  PoolXyk.markingAssetId (poolOf dex target)

/-- The funded pool after gifts that make a marker token worth slightly more
than one unit of each asset. -/
@[irreducible] def skewed : Storage runtime :=
  runs funded
    [(bob, .assetsTransfer goldenTicket (poolAccountOf dexA redPepper) 998999),
      (bob, .assetsTransfer redPepper (poolAccountOf dexA redPepper) 998999)]

/-- Bob deposits as much of both assets as marker tokens were issued. -/
def doubling : Extrinsic runtime :=
  deposit dexA redPepper (1000000 * unit - 1000) (1000000 * unit - 1000)

/-- Bob withdraws the tokens that this deposit issues. -/
def undoing : Extrinsic runtime :=
  (bob, .withdrawLiquidity dexA goldenTicket redPepper
    (1000000 * unit - 1001) 0 0)

/-- A pool with a single unit of the last decimal of the base asset. -/
@[irreducible] def dusty : Storage runtime :=
  runs genesis
    (openPool dexA redPepper ++ [deposit dexA redPepper 1 (15 * 10 ^ 17)])

/-- Alice exchanges one asset for another to the benefit of Carol. -/
def swap (input output : ℕ) (swapAmount : SwapAmount) : Extrinsic runtime :=
  (alice, .swapPair carol.account dexA input output swapAmount)

def payOne : Extrinsic runtime :=
  swap goldenTicket redPepper (.withDesiredInput 1 0)

/-- Alice sells one unit for at least an amount of the base asset. -/
def sellPepper (minOut : ℕ) : Extrinsic runtime :=
  swap redPepper goldenTicket (.withDesiredInput unit minOut)

/-- Alice buys an amount of the base asset. -/
def buyTicket (desiredOut : ℕ) : Extrinsic runtime :=
  swap redPepper goldenTicket (.withDesiredOutput desiredOut (10 * unit))

theorem isPoolOf {s : Storage runtime} {dex target : ℕ}
    (hdex : s.dexInfos dex = some ⟨goldenTicket, true⟩)
    (hne : goldenTicket ≠ target) :
    PoolXyk.IsPoolOf s dex goldenTicket target (poolOf dex target) :=
  ⟨⟨goldenTicket, target⟩, PoolXyk.techAccountFromDexAndAssetPair_eq_ok.mpr
    ⟨_, target, hdex, hne, Or.inl ⟨rfl, rfl⟩, rfl, rfl, rfl⟩⟩

end Mock
end SoraParachain
