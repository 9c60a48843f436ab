import SoraParachain.Pallets.Permissions

/-!
# Assets

Registration of assets and the checked access to the currency.  Every operation
on an asset first asks whether the asset exists; transfers, mints and foreign
burns also ask for a permission in the scope of the asset or everywhere.
-/

namespace SoraParachain

variable {T : Config}

/-! ## The currency -/

namespace Currency

/-- Replace the stored ledger by the one an operation of the currency
returns. -/
def apply (op : T.currency.Ledger → Except ForeignError T.currency.Ledger) :
    Exec T Unit := do
  let s ← Tx.get
  let l ← foreign (op s.ledger)
  Tx.modify fun s => { s with ledger := l }

theorem run_apply_ok
    {op : T.currency.Ledger → Except ForeignError T.currency.Ledger}
    {s s' : Storage T} {u : Unit} :
    (apply op).run s = (.ok u, s') ↔
      ∃ l, op s.ledger = .ok l ∧ s' = { s with ledger := l } := by
  simp only [apply, Tx.run_bind_eq_ok, Tx.run_get, Tx.run_liftM_eq_ok,
    foreign_eq_ok, Tx.run_modify, Prod.mk.injEq, Except.ok.injEq]
  constructor
  · rintro ⟨_, _, ⟨rfl, rfl⟩, l, _, ⟨hl, rfl⟩, -, rfl⟩
    exact ⟨l, hl, rfl⟩
  · rintro ⟨l, hl, rfl⟩
    exact ⟨s, s, ⟨rfl, rfl⟩, l, s, ⟨hl, rfl⟩, trivial, rfl⟩

/-- An operation that the currency refuses changes nothing. -/
theorem failsWithin_apply {R : Storage T → Storage T → Prop}
    [IsPreorder (Storage T) R]
    (op : T.currency.Ledger → Except ForeignError T.currency.Ledger) :
    Tx.FailsWithin R (apply op) :=
  Tx.failsWithin_bind Tx.keeps_get fun _ => by
    intro s e s' h
    rcases Tx.run_bind_eq_error.mp h with hl | ⟨_, _, -, h⟩
    · rw [(Tx.run_liftM_eq_error.mp hl).2]
      exact refl_of R s'
    · simp at h

def transfer (assetId : T.AssetId) (source dest : T.AccountId)
    (amount : ℕ) : Exec T Unit :=
  apply (T.currency.transfer assetId source dest amount)

def deposit (assetId : T.AssetId) (who : T.AccountId) (amount : ℕ) :
    Exec T Unit :=
  apply (T.currency.deposit assetId who amount)

def withdraw (assetId : T.AssetId) (who : T.AccountId) (amount : ℕ) :
    Exec T Unit :=
  apply (T.currency.withdraw assetId who amount)

end Currency

namespace Assets

def assetSymbolMaxLength : ℕ := 7
def assetNameMaxLength : ℕ := 33
def maxAllowedPrecision : ℕ := 18
def defaultBalancePrecision : ℕ := 18

/-- Only uppercase letters, at most seven. -/
def isSymbolValid (symbol : List UInt8) : Bool :=
  decide (symbol.length ≤ assetSymbolMaxLength) &&
    symbol.all fun byte => decide (65 ≤ byte ∧ byte ≤ 90)

/-- Only letters, digits and spaces, at most thirty-three. -/
def isNameValid (name : List UInt8) : Bool :=
  decide (name.length ≤ assetNameMaxLength) &&
    name.all fun byte =>
      decide (65 ≤ byte ∧ byte ≤ 90) || decide (97 ≤ byte ∧ byte ≤ 122) ||
        decide (48 ≤ byte ∧ byte ≤ 57) || decide (byte = 32)

/-! ## Reading -/

/-- The owner of an asset; the default account owns nothing. -/
def assetOwner (s : Storage T) (assetId : T.AssetId) : Option T.AccountId :=
  if s.assetOwners assetId = T.defaultAccountId then none
  else some (s.assetOwners assetId)

/-- An asset exists when it has an owner. -/
def Exists (s : Storage T) (assetId : T.AssetId) : Prop :=
  s.assetOwners assetId ≠ T.defaultAccountId

instance (s : Storage T) (assetId : T.AssetId) :
    Decidable (Exists s assetId) :=
  inferInstanceAs (Decidable (_ ≠ _))

def ensureAssetExists (s : Storage T) (assetId : T.AssetId) : Result Unit :=
  ensure (assetOwner s assetId).isSome (.assets .assetIdNotExists)

def isAssetOwner (s : Storage T) (assetId : T.AssetId)
    (accountId : T.AccountId) : Bool :=
  match assetOwner s assetId with
  | some owner => decide (owner = accountId)
  | none => false

/-- Check a permission in the scope of an asset, or else everywhere. -/
def checkPermissionMaybeWithParameters (s : Storage T) (issuer : T.AccountId)
    (permissionId : PermissionId) (assetId : T.AssetId) : Result Unit :=
  match Permissions.checkPermissionWithScope s issuer permissionId
      (.limited (T.hashAssetId assetId)) with
  | .ok () => .ok ()
  | .error _ =>
      Permissions.checkPermissionWithScope s issuer permissionId .unlimited

/-- The account passes the check of a permission for an asset. -/
def Permitted (s : Storage T) (issuer : T.AccountId)
    (permissionId : PermissionId) (assetId : T.AssetId) : Prop :=
  checkPermissionMaybeWithParameters s issuer permissionId assetId = .ok ()

def totalIssuance (s : Storage T) (assetId : T.AssetId) : Result ℕ := do
  ensureAssetExists s assetId
  pure (s.issuance assetId)

def freeBalance (s : Storage T) (assetId : T.AssetId) (who : T.AccountId) :
    Result ℕ := do
  ensureAssetExists s assetId
  pure (s.free assetId who)

def ensureCanWithdraw (s : Storage T) (assetId : T.AssetId)
    (who : T.AccountId) (amount : ℕ) : Result Unit := do
  ensureAssetExists s assetId
  checkPermissionMaybeWithParameters s who Permissions.transfer assetId
  foreign (T.currency.ensureCanWithdraw assetId who amount s.ledger)

@[simp] theorem ensureAssetExists_eq_ok {s : Storage T} {assetId : T.AssetId}
    {u : Unit} :
    ensureAssetExists s assetId = .ok u ↔ Exists s assetId := by
  unfold ensureAssetExists assetOwner Exists
  rw [ensure_eq_ok]
  split_ifs with h
  · simp [h]
  · simp [h]

@[simp] theorem totalIssuance_eq_ok {s : Storage T} {assetId : T.AssetId}
    {n : ℕ} :
    totalIssuance s assetId = .ok n ↔
      Exists s assetId ∧ n = s.issuance assetId := by
  rw [totalIssuance, Tx.except_bind_eq_ok]
  constructor
  · rintro ⟨_, hex, h⟩
    exact ⟨ensureAssetExists_eq_ok.mp hex, (Except.ok.inj h).symm⟩
  · rintro ⟨hex, rfl⟩
    exact ⟨(), ensureAssetExists_eq_ok.mpr hex, rfl⟩

@[simp] theorem freeBalance_eq_ok {s : Storage T} {assetId : T.AssetId}
    {who : T.AccountId} {n : ℕ} :
    freeBalance s assetId who = .ok n ↔
      Exists s assetId ∧ n = s.free assetId who := by
  rw [freeBalance, Tx.except_bind_eq_ok]
  constructor
  · rintro ⟨_, hex, h⟩
    exact ⟨ensureAssetExists_eq_ok.mp hex, (Except.ok.inj h).symm⟩
  · rintro ⟨hex, rfl⟩
    exact ⟨(), ensureAssetExists_eq_ok.mpr hex, rfl⟩

theorem ensureCanWithdraw_eq_ok {s : Storage T} {assetId : T.AssetId}
    {who : T.AccountId} {amount : ℕ} {u : Unit} :
    ensureCanWithdraw s assetId who amount = .ok u ↔
      Exists s assetId ∧ Permitted s who Permissions.transfer assetId ∧
        T.currency.ensureCanWithdraw assetId who amount s.ledger = .ok () := by
  simp only [ensureCanWithdraw, Tx.except_bind_eq_ok, ensureAssetExists_eq_ok,
    foreign_eq_ok]
  constructor
  · rintro ⟨_, hex, _, hperm, hfunds⟩
    exact ⟨hex, hperm, hfunds⟩
  · rintro ⟨hex, hperm, hfunds⟩
    exact ⟨(), hex, (), hperm, hfunds⟩

/-! ## Moving, minting and burning -/

def transferFrom (assetId : T.AssetId) (source dest : T.AccountId)
    (amount : ℕ) : Exec T Unit := do
  Tx.reads fun s => ensureAssetExists s assetId
  Tx.reads fun s =>
    checkPermissionMaybeWithParameters s source Permissions.transfer assetId
  Currency.transfer assetId source dest amount

def mintTo (assetId : T.AssetId) (issuer dest : T.AccountId)
    (amount : ℕ) : Exec T Unit := do
  Tx.reads fun s => ensureAssetExists s assetId
  Tx.reads fun s =>
    checkPermissionMaybeWithParameters s issuer Permissions.mint assetId
  Tx.reads fun s =>
    ensure (s.assetInfos assetId).isMintable (.assets .assetSupplyIsNotMintable)
  Currency.deposit assetId dest amount

/-- A holder may burn its own funds without a permission. -/
def burnFrom (assetId : T.AssetId) (issuer dest : T.AccountId)
    (amount : ℕ) : Exec T Unit := do
  Tx.reads fun s => ensureAssetExists s assetId
  Tx.reads fun s =>
    if issuer ≠ dest then
      checkPermissionMaybeWithParameters s issuer Permissions.burn assetId
    else .ok ()
  Currency.withdraw assetId dest amount

theorem run_transferFrom_ok {assetId : T.AssetId} {source dest : T.AccountId}
    {amount : ℕ} {s s' : Storage T} {u : Unit} :
    (transferFrom assetId source dest amount).run s = (.ok u, s') ↔
      Exists s assetId ∧ Permitted s source Permissions.transfer assetId ∧
        ∃ l, T.currency.transfer assetId source dest amount s.ledger = .ok l ∧
          s' = { s with ledger := l } := by
  simp only [transferFrom, Tx.run_bind_eq_ok, Tx.run_reads_eq_ok,
    Currency.transfer, Currency.run_apply_ok, ensureAssetExists_eq_ok]
  constructor
  · rintro ⟨_, _, ⟨hex, rfl⟩, _, _, ⟨hperm, rfl⟩, hl⟩
    exact ⟨hex, hperm, hl⟩
  · rintro ⟨hex, hperm, hl⟩
    exact ⟨(), s, ⟨hex, rfl⟩, (), s, ⟨hperm, rfl⟩, hl⟩

theorem run_mintTo_ok {assetId : T.AssetId} {issuer dest : T.AccountId}
    {amount : ℕ} {s s' : Storage T} {u : Unit} :
    (mintTo assetId issuer dest amount).run s = (.ok u, s') ↔
      Exists s assetId ∧ Permitted s issuer Permissions.mint assetId ∧
        (s.assetInfos assetId).isMintable = true ∧
        ∃ l, T.currency.deposit assetId dest amount s.ledger = .ok l ∧
          s' = { s with ledger := l } := by
  simp only [mintTo, Tx.run_bind_eq_ok, Tx.run_reads_eq_ok,
    Currency.deposit, Currency.run_apply_ok, ensureAssetExists_eq_ok,
    ensure_eq_ok]
  constructor
  · rintro ⟨_, _, ⟨hex, rfl⟩, _, _, ⟨hperm, rfl⟩, _, _, ⟨hmint, rfl⟩, hl⟩
    exact ⟨hex, hperm, hmint, hl⟩
  · rintro ⟨hex, hperm, hmint, hl⟩
    exact ⟨(), s, ⟨hex, rfl⟩, (), s, ⟨hperm, rfl⟩, (), s, ⟨hmint, rfl⟩, hl⟩

theorem run_burnFrom_ok {assetId : T.AssetId} {issuer dest : T.AccountId}
    {amount : ℕ} {s s' : Storage T} {u : Unit} :
    (burnFrom assetId issuer dest amount).run s = (.ok u, s') ↔
      Exists s assetId ∧
        (issuer ≠ dest → Permitted s issuer Permissions.burn assetId) ∧
        ∃ l, T.currency.withdraw assetId dest amount s.ledger = .ok l ∧
          s' = { s with ledger := l } := by
  have hcheck : ∀ s₁ : Storage T,
      (if issuer ≠ dest then
        checkPermissionMaybeWithParameters s₁ issuer Permissions.burn assetId
      else .ok ()) = .ok () ↔
      (issuer ≠ dest → Permitted s₁ issuer Permissions.burn assetId) := by
    intro s₁
    by_cases h : issuer = dest
    · simp [h]
    · simp [h, Permitted]
  simp only [burnFrom, Tx.run_bind_eq_ok, Tx.run_reads_eq_ok,
    Currency.withdraw, Currency.run_apply_ok, ensureAssetExists_eq_ok]
  constructor
  · rintro ⟨_, _, ⟨hex, rfl⟩, ⟨⟩, _, ⟨hperm, rfl⟩, hl⟩
    exact ⟨hex, (hcheck _).mp hperm, hl⟩
  · rintro ⟨hex, hperm, hl⟩
    exact ⟨(), s, ⟨hex, rfl⟩, (), s, ⟨(hcheck s).mpr hperm, rfl⟩, hl⟩

section

variable {R : Storage T → Storage T → Prop} [IsPreorder (Storage T) R]

/-- A move, a mint or a burn that fails changes nothing. -/
theorem failsWithin_transferFrom (assetId : T.AssetId)
    (source dest : T.AccountId) (amount : ℕ) :
    Tx.FailsWithin R (transferFrom assetId source dest amount) := by
  refine Tx.failsWithin_bind (Tx.keeps_reads _) fun _ => ?_
  refine Tx.failsWithin_bind (Tx.keeps_reads _) fun _ => ?_
  exact Currency.failsWithin_apply _

theorem failsWithin_mintTo (assetId : T.AssetId) (issuer dest : T.AccountId)
    (amount : ℕ) :
    Tx.FailsWithin R (mintTo assetId issuer dest amount) := by
  refine Tx.failsWithin_bind (Tx.keeps_reads _) fun _ => ?_
  refine Tx.failsWithin_bind (Tx.keeps_reads _) fun _ => ?_
  refine Tx.failsWithin_bind (Tx.keeps_reads _) fun _ => ?_
  exact Currency.failsWithin_apply _

theorem failsWithin_burnFrom (assetId : T.AssetId) (issuer dest : T.AccountId)
    (amount : ℕ) :
    Tx.FailsWithin R (burnFrom assetId issuer dest amount) := by
  refine Tx.failsWithin_bind (Tx.keeps_reads _) fun _ => ?_
  refine Tx.failsWithin_bind (Tx.keeps_reads _) fun _ => ?_
  exact Currency.failsWithin_apply _

end

/-! ## What moving, minting and burning do to the book -/

section Books

variable {assetId : T.AssetId} {source dest issuer who : T.AccountId}
variable {amount : ℕ} {s s' : Storage T} {u : Unit}

theorem book_of_transferFrom (hM : T.currency.Lawful balanceModulus)
    (h : (transferFrom assetId source dest amount).run s = (.ok u, s')) :
    (source = dest ∨ amount ≤ s.free assetId source) ∧
      s'.book = s.book.moved assetId source dest amount := by
  obtain ⟨-, -, l, hl, rfl⟩ := run_transferFrom_ok.mp h
  exact hM.transfer_ok hl

theorem book_of_mintTo (hM : T.currency.Lawful balanceModulus)
    (h : (mintTo assetId issuer who amount).run s = (.ok u, s')) :
    s'.book = s.book.issued assetId who amount := by
  obtain ⟨-, -, -, l, hl, rfl⟩ := run_mintTo_ok.mp h
  exact hM.deposit_ok hl

theorem book_of_burnFrom (hM : T.currency.Lawful balanceModulus)
    (h : (burnFrom assetId issuer who amount).run s = (.ok u, s')) :
    amount ≤ s.free assetId who ∧
      s'.book = s.book.retired assetId who amount := by
  obtain ⟨-, -, l, hl, rfl⟩ := run_burnFrom_ok.mp h
  exact hM.withdraw_ok hl

end Books

/-! ## Registration -/

/-- Keep the record that an identifier is derived from. -/
def registerAssetIdFromTuple (tuple : AssetRecord T.DEXId T.AccountId) :
    Exec T T.AssetId := do
  let assetId := T.assetIdOfRecord tuple
  Tx.modify fun s =>
    { s with assetRecords := Function.update s.assetRecords assetId tuple }
  pure assetId

def genAssetId (s : Storage T) (accountId : T.AccountId) : T.AssetId :=
  T.assetIdOfNonce accountId (T.system.accountNonce accountId s.system)

/-- The initial supply goes to the registering account, if there is any. -/
def depositInitialSupply (accountId : T.AccountId) (assetId : T.AssetId)
    (initialSupply : ℕ) : Exec T Unit :=
  if initialSupply = 0 then pure ()
  else Currency.deposit assetId accountId initialSupply

/-- Register an asset for an account, which may then transfer, mint and burn
it. -/
def registerAssetId (accountId : T.AccountId) (assetId : T.AssetId)
    (symbol name : List UInt8) (precision : ℕ) (initialSupply : ℕ)
    (isMintable : Bool) : Exec T Unit := do
  Tx.reads fun s =>
    ensure (assetOwner s assetId).isNone (.assets .assetIdAlreadyExists)
  incConsumers accountId (.assets .incRefError)
  Tx.modify fun s =>
    { s with assetOwners := Function.update s.assetOwners assetId accountId }
  ensure (isSymbolValid symbol = true) (.assets .invalidAssetSymbol)
  ensure (isNameValid name = true) (.assets .invalidAssetName)
  Tx.modify fun s =>
    { s with
      assetInfos := Function.update s.assetInfos assetId
        ⟨symbol, name, precision, isMintable⟩ }
  ensure (precision ≤ maxAllowedPrecision) (.assets .invalidPrecision)
  let scope := Scope.limited (T.hashAssetId assetId)
  Permissions.assignPermission accountId accountId Permissions.transfer scope
  Permissions.assignPermission accountId accountId Permissions.mint scope
  Permissions.assignPermission accountId accountId Permissions.burn scope
  depositInitialSupply accountId assetId initialSupply
  Tx.modify fun s =>
    { s with system := T.system.incAccountNonce accountId s.system }

def registerFrom (accountId : T.AccountId) (symbol name : List UInt8)
    (precision : ℕ) (initialSupply : ℕ) (isMintable : Bool) :
    Exec T T.AssetId :=
  Tx.withTransaction do
    let s ← Tx.get
    let assetId := genAssetId s accountId
    registerAssetId accountId assetId symbol name precision initialSupply
      isMintable
    pure assetId

def setNonMintableFrom (assetId : T.AssetId) (who : T.AccountId) :
    Exec T Unit := do
  Tx.reads fun s =>
    ensure (isAssetOwner s assetId who = true) (.assets .invalidAssetOwner)
  Tx.reads fun s =>
    ensure (s.assetInfos assetId).isMintable (.assets .assetSupplyIsNotMintable)
  Tx.modify fun s =>
    { s with
      assetInfos := Function.update s.assetInfos assetId
        { s.assetInfos assetId with isMintable := false } }

/-! ## Calls -/

def register (who : T.AccountId) (symbol name : List UInt8)
    (initialSupply : ℕ) (isMintable : Bool) : Exec T Unit := do
  let _ ← registerFrom who symbol name defaultBalancePrecision initialSupply
    isMintable

def transfer (who : T.AccountId) (assetId : T.AssetId) (dest : T.AccountId)
    (amount : ℕ) : Exec T Unit :=
  transferFrom assetId who dest amount

def mint (who : T.AccountId) (assetId : T.AssetId) (dest : T.AccountId)
    (amount : ℕ) : Exec T Unit :=
  mintTo assetId who dest amount

def burn (who : T.AccountId) (assetId : T.AssetId) (amount : ℕ) :
    Exec T Unit :=
  burnFrom assetId who who amount

def setNonMintable (who : T.AccountId) (assetId : T.AssetId) : Exec T Unit :=
  setNonMintableFrom assetId who

/-! ## What registration changes -/

/-- What the registration of one asset may have changed. -/
structure Registered (assetId : T.AssetId) (owner : T.AccountId)
    (initialSupply : ℕ) (isMintable : Bool) (s s' : Storage T) :
    Prop where
  fresh : ¬Exists s assetId
  assetOwners : s'.assetOwners = Function.update s.assetOwners assetId owner
  isMintable : (s'.assetInfos assetId).isMintable = isMintable
  assetInfos : ∀ other, other ≠ assetId →
    s'.assetInfos other = s.assetInfos other
  modes : s'.modes = s.modes
  held : ∀ who scope p, p ∈ Permissions.held s who scope →
    p ∈ Permissions.held s' who scope
  ledger : initialSupply = 0 ∧ s'.ledger = s.ledger ∨
    0 < initialSupply ∧
      T.currency.deposit assetId owner initialSupply s.ledger = .ok s'.ledger
  frame : s' =
    { s with
      ledger := s'.ledger
      system := s'.system
      permissionOwners := s'.permissionOwners
      permissions := s'.permissions
      assetOwners := s'.assetOwners
      assetInfos := s'.assetInfos }

/-- The initial supply is deposited unless it is zero. -/
theorem run_depositInitialSupply_ok {accountId : T.AccountId}
    {assetId : T.AssetId} {initialSupply : ℕ} {s s' : Storage T} {u : Unit}
    (h : (depositInitialSupply accountId assetId initialSupply).run s =
      (.ok u, s')) :
    ∃ l, (initialSupply = 0 ∧ l = s.ledger ∨
      0 < initialSupply ∧
        T.currency.deposit assetId accountId initialSupply s.ledger = .ok l) ∧
      s' = { s with ledger := l } := by
  unfold depositInitialSupply at h
  split_ifs at h with hzero
  · rw [Tx.run_pure] at h
    cases h
    exact ⟨s.ledger, Or.inl ⟨hzero, rfl⟩, rfl⟩
  · obtain ⟨l, hl, rfl⟩ := Currency.run_apply_ok.mp h
    exact ⟨l, Or.inr ⟨Nat.pos_of_ne_zero hzero, hl⟩, rfl⟩

theorem registered_of_registerAssetId {accountId : T.AccountId}
    {assetId : T.AssetId} {symbol name : List UInt8} {precision : ℕ}
    {initialSupply : ℕ} {isMintable : Bool} {s s' : Storage T} {u : Unit}
    (h : (registerAssetId accountId assetId symbol name precision
      initialSupply isMintable).run s = (.ok u, s')) :
    Registered assetId accountId initialSupply isMintable s s' := by
  unfold registerAssetId at h
  obtain ⟨_, _, hfresh, h⟩ := Tx.run_bind_eq_ok.mp h
  obtain ⟨hnone, rfl⟩ := Tx.run_reads_eq_ok.mp hfresh
  obtain ⟨_, _, hinc, h⟩ := Tx.run_bind_eq_ok.mp h
  obtain ⟨st, -, rfl⟩ := run_incConsumers_ok.mp hinc
  obtain ⟨_, _, howner, h⟩ := Tx.run_bind_eq_ok.mp h
  rw [Tx.run_modify] at howner
  cases howner
  obtain ⟨_, _, hsym, h⟩ := Tx.run_bind_eq_ok.mp h
  obtain ⟨-, rfl⟩ := Tx.run_liftM_eq_ok.mp hsym
  obtain ⟨_, _, hname, h⟩ := Tx.run_bind_eq_ok.mp h
  obtain ⟨-, rfl⟩ := Tx.run_liftM_eq_ok.mp hname
  obtain ⟨_, _, hinfo, h⟩ := Tx.run_bind_eq_ok.mp h
  rw [Tx.run_modify] at hinfo
  cases hinfo
  obtain ⟨_, _, hprec, h⟩ := Tx.run_bind_eq_ok.mp h
  obtain ⟨-, rfl⟩ := Tx.run_liftM_eq_ok.mp hprec
  dsimp only at h
  obtain ⟨_, s₁, ht, h⟩ := Tx.run_bind_eq_ok.mp h
  obtain ⟨_, s₂, hm, h⟩ := Tx.run_bind_eq_ok.mp h
  obtain ⟨_, s₃, hb, h⟩ := Tx.run_bind_eq_ok.mp h
  have hgrows := ((Permissions.keeps_assignPermission _ _ _ _).of_run ht).trans
    (((Permissions.keeps_assignPermission _ _ _ _).of_run hm).trans
      ((Permissions.keeps_assignPermission _ _ _ _).of_run hb))
  obtain ⟨_, s₄, hsupply, h⟩ := Tx.run_bind_eq_ok.mp h
  rw [Tx.run_modify] at h
  cases h
  have hfree : ¬Exists s assetId := by
    rw [← ensureAssetExists_eq_ok (u := ()), ensureAssetExists, ensure_eq_ok]
    rw [ensure_eq_ok, Option.isNone_iff_eq_none] at hnone
    simp [hnone]
  have hledger : s₃.ledger = s.ledger := by
    rw [hgrows.frame]
  obtain ⟨l, hl, rfl⟩ := run_depositInitialSupply_ok hsupply
  rw [hledger] at hl
  have howners : s₃.assetOwners =
      Function.update s.assetOwners assetId accountId := by
    rw [hgrows.frame]
  have hinfos : s₃.assetInfos = Function.update s.assetInfos assetId
      ⟨symbol, name, precision, isMintable⟩ := by
    rw [hgrows.frame]
  exact {
    fresh := hfree
    assetOwners := howners
    isMintable := by
      change (s₃.assetInfos assetId).isMintable = isMintable
      rw [hinfos, Function.update_self]
    assetInfos := fun other hne => by
      change s₃.assetInfos other = s.assetInfos other
      rw [hinfos, Function.update_of_ne hne]
    modes := hgrows.modes
    held := hgrows.held
    ledger := hl
    frame := by rw [hgrows.frame] }

/-- What the registration of an asset by its call may have changed. -/
theorem registered_of_register {who : T.AccountId} {symbol name : List UInt8}
    {initialSupply : ℕ} {isMintable : Bool} {s s' : Storage T} {u : Unit}
    (h : (register who symbol name initialSupply isMintable).run s =
      (.ok u, s')) :
    Registered (genAssetId s who) who initialSupply isMintable s s' := by
  obtain ⟨_, s₁, hregister, h⟩ := Tx.run_bind_eq_ok.mp h
  rw [Tx.run_pure] at h
  cases h
  rw [registerFrom, Tx.run_withTransaction_eq_ok] at hregister
  obtain ⟨_, _, hget, hregister⟩ := Tx.run_bind_eq_ok.mp hregister
  cases hget
  obtain ⟨_, s₂, hregister, hpure⟩ := Tx.run_bind_eq_ok.mp hregister
  rw [Tx.run_pure] at hpure
  cases hpure
  exact registered_of_registerAssetId hregister

theorem run_setNonMintable_ok {who : T.AccountId} {assetId : T.AssetId}
    {s s' : Storage T} {u : Unit} :
    (setNonMintable who assetId).run s = (.ok u, s') ↔
      isAssetOwner s assetId who = true ∧
        (s.assetInfos assetId).isMintable = true ∧
        s' =
          { s with
            assetInfos := Function.update s.assetInfos assetId
              { s.assetInfos assetId with isMintable := false } } := by
  simp only [setNonMintable, setNonMintableFrom, Tx.run_bind_eq_ok,
    Tx.run_reads_eq_ok, ensure_eq_ok, Tx.run_modify, Prod.mk.injEq]
  constructor
  · rintro ⟨_, _, ⟨howner, rfl⟩, _, _, ⟨hmint, rfl⟩, -, rfl⟩
    exact ⟨howner, hmint, rfl⟩
  · rintro ⟨howner, hmint, rfl⟩
    exact ⟨(), s, ⟨howner, rfl⟩, (), s, ⟨hmint, rfl⟩, trivial, rfl⟩

end Assets
end SoraParachain
