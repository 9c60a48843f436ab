import SoraParachain.Pallets.Config

/-!
# Permissions

A permission is held by an account within a scope.  Its mode decides whether
holding it permits or forbids the action.  Granting and assigning only ever add
to what accounts hold.
-/

namespace SoraParachain

variable {T : Config}

/-- Take a consumer reference on an account, or fail with the error. -/
def incConsumers (who : T.AccountId) (e : DispatchError) : Exec T Unit := do
  let s ← Tx.get
  let st ← okOr e (T.system.incConsumers who s.system)
  Tx.modify fun s => { s with system := st }

theorem run_incConsumers_ok {who : T.AccountId} {e : DispatchError}
    {s s' : Storage T} {u : Unit} :
    (incConsumers who e).run s = (.ok u, s') ↔
      ∃ st, T.system.incConsumers who s.system = some st ∧
        s' = { s with system := st } := by
  simp only [incConsumers, Tx.run_bind_eq_ok, Tx.run_get, Tx.run_liftM_eq_ok,
    okOr_eq_ok, Tx.run_modify, Prod.mk.injEq, Except.ok.injEq]
  constructor
  · rintro ⟨_, _, ⟨rfl, rfl⟩, st, _, ⟨hst, rfl⟩, -, rfl⟩
    exact ⟨st, hst, rfl⟩
  · rintro ⟨st, hst, rfl⟩
    exact ⟨s, s, ⟨rfl, rfl⟩, st, s, ⟨hst, rfl⟩, trivial, rfl⟩

namespace Permissions

def transfer : PermissionId := 1
def mint : PermissionId := 2
def burn : PermissionId := 3
def manageDex : PermissionId := 6

/-- The permissions an account holds in a scope, in ascending order. -/
def held (s : Storage T) (holderId : T.AccountId) (scope : Scope) :
    List PermissionId :=
  ((s.permissions holderId).lookup scope).getD []

def accountHasPermission (s : Storage T) (holderId : T.AccountId)
    (scope : Scope) (permissionId : PermissionId) : Bool :=
  permissionId ∈ held s holderId scope

/-- Check a permission in a scope, falling back to the unlimited scope. -/
def checkPermissionWithScope (s : Storage T) (who : T.AccountId)
    (permissionId : PermissionId) (scope : Scope) : Result Unit := do
  ensure (s.modes permissionId).isSome (.permissions .permissionNotFound)
  let mode := (s.modes permissionId).getD .permit
  let permissionFound :=
    accountHasPermission s who scope permissionId ||
      (decide (scope ≠ .unlimited) &&
        accountHasPermission s who .unlimited permissionId)
  match mode, permissionFound with
  | .permit, true => .ok ()
  | .forbid, false => .ok ()
  | _, _ => fail (.permissions .forbidden)

/-- Insert an identifier at its place in an ascending list, once. -/
def insertSorted (permissionId : PermissionId) (xs : List PermissionId) :
    List PermissionId :=
  if permissionId ∈ xs then xs
  else xs.insertIdx (xs.takeWhile (· < permissionId)).length permissionId

/-- Add a permission to what an account holds in a scope. -/
def insertPermission (holderId : T.AccountId) (scope : Scope)
    (permissionId : PermissionId) (s : Storage T) : Storage T :=
  { s with
    permissions := Function.update s.permissions holderId
      ((s.permissions holderId).insert scope
        (insertSorted permissionId (held s holderId scope))) }

/-- The first permission of an account takes a reference on it. -/
def referFirst (accountId : T.AccountId) : Exec T Unit := do
  let s ← Tx.get
  if (s.permissions accountId).entries.length = 0 then
    incConsumers accountId (.permissions .incRefError)
  else
    pure ()

/-- Whether the permission has owners to speak of, and whether `who` is one of
them: in the scope, or else in the unlimited scope. -/
def ownership (s : Storage T) (who : T.AccountId)
    (permissionId : PermissionId) (scope : Scope) : Bool × Bool :=
  let owners := s.permissionOwners permissionId scope
  if who ∈ owners then (true, true)
  else if scope ≠ .unlimited then
    let owners := s.permissionOwners permissionId .unlimited
    (!owners.isEmpty, decide (who ∈ owners))
  else (!owners.isEmpty, false)

/-- Grant a permission that the granting account owns. -/
def grantPermissionWithScope (who accountId : T.AccountId)
    (permissionId : PermissionId) (scope : Scope) : Exec T Unit := do
  let s ← Tx.get
  let rights := ownership s who permissionId scope
  if rights.2 then
    referFirst accountId
    Tx.modify (insertPermission accountId scope permissionId)
  else if rights.1 then
    fail (.permissions .permissionNotOwned)
  else
    fail (.permissions .permissionNotFound)

/-- Enter `owner` among the owners of a permission, unless it is there. -/
def makeOwner (owner : T.AccountId) (permissionId : PermissionId)
    (scope : Scope) : Exec T Bool := do
  let s ← Tx.get
  if owner ∈ s.permissionOwners permissionId scope then
    pure false
  else
    Tx.modify fun s =>
      { s with
        permissionOwners := insert₂ s.permissionOwners permissionId scope
          (s.permissionOwners permissionId scope ++ [owner]) }
    pure true

/-- Give a permission to `holderId` when holding it permits. -/
def grantPermitted (holderId : T.AccountId) (permissionId : PermissionId)
    (scope : Scope) : Exec T Bool := do
  let s ← Tx.get
  if (s.modes permissionId).getD .permit = .permit then
    referFirst holderId
    let s ← Tx.get
    Tx.modify (insertPermission holderId scope permissionId)
    pure (!accountHasPermission s holderId scope permissionId)
  else
    pure false

/-- Make `owner` an owner of the permission in the scope and, when holding it
permits, give it to `holderId`. -/
def assignPermission (owner holderId : T.AccountId)
    (permissionId : PermissionId) (scope : Scope) : Exec T Unit := do
  Tx.reads fun s =>
    ensure (s.modes permissionId).isSome (.permissions .permissionNotFound)
  incConsumers owner (.permissions .incRefError)
  let madeOwner ← makeOwner owner permissionId scope
  let grantedPermission ← grantPermitted holderId permissionId scope
  ensure (madeOwner || grantedPermission)
    (.permissions .permissionAlreadyExists)

/-! ## What granting and assigning change -/

theorem mem_insertSorted {p q : PermissionId} {xs : List PermissionId} :
    q ∈ insertSorted p xs ↔ q = p ∨ q ∈ xs := by
  unfold insertSorted
  by_cases hp : p ∈ xs
  · rw [if_pos hp]
    constructor
    · exact Or.inr
    · rintro (rfl | hq)
      · exact hp
      · exact hq
  · rw [if_neg hp, List.mem_insertIdx]
    exact (List.takeWhile_prefix _).length_le

theorem held_insertPermission (s : Storage T) (who holderId : T.AccountId)
    (scope scope' : Scope) (p : PermissionId) :
    held (insertPermission holderId scope p s) who scope' =
      if who = holderId ∧ scope' = scope then
        insertSorted p (held s holderId scope)
      else held s who scope' := by
  by_cases hwho : who = holderId
  · subst hwho
    by_cases hscope : scope' = scope
    · subst hscope
      simp [held, insertPermission]
    · simp [held, insertPermission, hscope, AList.lookup_insert_ne]
  · simp [held, insertPermission, hwho]

/-- What a permission operation may do: add owners, holders and references. -/
structure Grows (s s' : Storage T) : Prop where
  modes : s'.modes = s.modes
  held : ∀ who scope p,
    p ∈ held s who scope → p ∈ held s' who scope
  frame : s' =
    { s with
      system := s'.system
      permissionOwners := s'.permissionOwners
      permissions := s'.permissions }

theorem Grows.trans {a b c : Storage T} (hab : Grows a b)
    (hbc : Grows b c) : Grows a c where
  modes := hbc.modes.trans hab.modes
  held who scope p h := hbc.held who scope p (hab.held who scope p h)
  frame := by
    rw [hbc.frame, hab.frame]

instance : IsPreorder (Storage T) Grows where
  refl _ := ⟨rfl, fun _ _ _ h => h, rfl⟩
  trans _ _ _ := Grows.trans

theorem grows_insertPermission (holderId : T.AccountId) (scope : Scope)
    (p : PermissionId) (s : Storage T) :
    Grows s (insertPermission holderId scope p s) where
  modes := rfl
  held who scope' q h := by
    rw [held_insertPermission]
    split_ifs with heq
    · rw [heq.1, heq.2] at h
      exact mem_insertSorted.mpr (Or.inr h)
    · exact h
  frame := rfl

theorem keeps_incConsumers (who : T.AccountId) (e : DispatchError) :
    Tx.Keeps Grows (incConsumers who e : Exec T Unit) := by
  refine Tx.keeps_bind Tx.keeps_get fun _ => ?_
  refine Tx.keeps_bind (Tx.keeps_liftM _) fun st => ?_
  exact Tx.keeps_modify fun s => ⟨rfl, fun _ _ _ h => h, rfl⟩

theorem keeps_referFirst (accountId : T.AccountId) :
    Tx.Keeps Grows (referFirst accountId : Exec T Unit) := by
  refine Tx.keeps_bind Tx.keeps_get fun s => ?_
  split_ifs
  · exact keeps_incConsumers _ _
  · exact Tx.keeps_pure _

theorem keeps_grantPermissionWithScope (who accountId : T.AccountId)
    (p : PermissionId) (scope : Scope) :
    Tx.Keeps Grows
      (grantPermissionWithScope who accountId p scope : Exec T Unit) := by
  refine Tx.keeps_bind Tx.keeps_get fun s => ?_
  dsimp only
  split_ifs
  · exact Tx.keeps_bind (keeps_referFirst _) fun _ =>
      Tx.keeps_modify (grows_insertPermission _ _ _)
  · exact Tx.keeps_liftM _
  · exact Tx.keeps_liftM _

theorem keeps_makeOwner (owner : T.AccountId) (p : PermissionId)
    (scope : Scope) :
    Tx.Keeps Grows (makeOwner owner p scope : Exec T Bool) := by
  refine Tx.keeps_bind Tx.keeps_get fun s => ?_
  split_ifs
  · exact Tx.keeps_pure _
  · refine Tx.keeps_bind (Tx.keeps_modify fun s => ?_) fun _ =>
      Tx.keeps_pure _
    exact ⟨rfl, fun _ _ _ h => h, rfl⟩

theorem keeps_grantPermitted (holderId : T.AccountId) (p : PermissionId)
    (scope : Scope) :
    Tx.Keeps Grows (grantPermitted holderId p scope : Exec T Bool) := by
  refine Tx.keeps_bind Tx.keeps_get fun s => ?_
  split_ifs
  · refine Tx.keeps_bind (keeps_referFirst _) fun _ => ?_
    refine Tx.keeps_bind Tx.keeps_get fun _ => ?_
    exact Tx.keeps_bind (Tx.keeps_modify (grows_insertPermission _ _ _))
      fun _ => Tx.keeps_pure _
  · exact Tx.keeps_pure _

theorem keeps_assignPermission (owner holderId : T.AccountId)
    (p : PermissionId) (scope : Scope) :
    Tx.Keeps Grows
      (assignPermission owner holderId p scope : Exec T Unit) := by
  refine Tx.keeps_bind (Tx.keeps_reads _) fun _ => ?_
  refine Tx.keeps_bind (keeps_incConsumers _ _) fun _ => ?_
  refine Tx.keeps_bind (keeps_makeOwner _ _ _) fun _ => ?_
  exact Tx.keeps_bind (keeps_grantPermitted _ _ _) fun _ =>
    Tx.keeps_liftM _

/-- A successful grant leaves the permission with the account. -/
theorem held_of_grantPermissionWithScope {who accountId : T.AccountId}
    {p : PermissionId} {scope : Scope} {s s' : Storage T} {u : Unit}
    (h : (grantPermissionWithScope who accountId p scope).run s =
      (.ok u, s')) :
    p ∈ held s' accountId scope := by
  obtain ⟨_, _, -, h⟩ := Tx.run_bind_eq_ok.mp h
  dsimp only at h
  split_ifs at h
  · obtain ⟨_, s₁, -, h⟩ := Tx.run_bind_eq_ok.mp h
    rw [Tx.run_modify] at h
    cases h
    rw [held_insertPermission, if_pos ⟨rfl, rfl⟩]
    exact mem_insertSorted.mpr (Or.inl rfl)
  · simp at h
  · simp at h

/-- Holding a permission that permits is enough to pass its check. -/
theorem checkPermissionWithScope_of_held {s : Storage T} {who : T.AccountId}
    {p : PermissionId} {scope : Scope} (hmode : s.modes p = some .permit)
    (hheld : p ∈ held s who scope) :
    checkPermissionWithScope s who p scope = .ok () := by
  simp [checkPermissionWithScope, hmode, accountHasPermission, hheld, ensure,
    bind, Except.bind]

end Permissions
end SoraParachain
