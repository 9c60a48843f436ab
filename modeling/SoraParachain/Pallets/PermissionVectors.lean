import SoraParachain.Library.BinarySearch
import SoraParachain.Pallets.Permissions

/-!
# Permissions as the pallet stores them

The pallet keeps what an account holds in a scope as a vector in ascending
order and looks into it by binary search.  The other pallets only need to know
what is held; here the vectors themselves are searched and edited.  Where they
are ascending both views agree.
-/

namespace SoraParachain

variable {T : Config}

/-- The consumer references of accounts.  A reference can be taken on an account
that has a provider; the count stops at its greatest value, and giving up a
reference nobody holds does nothing. -/
structure References (T : Config) where
  maxConsumers : ℕ
  consumers : T.AccountId → T.system.State → ℕ
  hasProvider : T.AccountId → T.system.State → Bool
  decConsumers : T.AccountId → T.system.State → T.system.State
  isSome_inc : ∀ who st,
    (T.system.incConsumers who st).isSome = hasProvider who st
  consumers_inc : ∀ {who st st'}, T.system.incConsumers who st = some st' →
    ∀ other, consumers other st' =
      if other = who then min (consumers who st + 1) maxConsumers
      else consumers other st
  hasProvider_inc : ∀ {who st st'}, T.system.incConsumers who st = some st' →
    ∀ other, hasProvider other st' = hasProvider other st
  consumers_dec : ∀ who st other, consumers other (decConsumers who st) =
    if other = who then consumers who st - 1 else consumers other st
  hasProvider_dec : ∀ who st other,
    hasProvider other (decConsumers who st) = hasProvider other st

namespace PermissionVectors

open Permissions (held ownership referFirst makeOwner)

def accountHasPermission (s : Storage T) (holderId : T.AccountId)
    (scope : Scope) (permissionId : PermissionId) : Bool :=
  (binarySearch (held s holderId scope) permissionId).isOk

/-- Check a permission in a scope, falling back to the unlimited scope. -/
def checkPermissionWithScope (s : Storage T) (who : T.AccountId)
    (permissionId : PermissionId) (scope : Scope) : Result Unit := do
  ensure (s.modes permissionId).isSome (.permissions .permissionNotFound)
  let mode := (s.modes permissionId).getD .permit
  let permissionFound :=
    accountHasPermission s who scope permissionId ||
      (decide (scope ≠ .unlimited) &&
        accountHasPermission s who .unlimited permissionId)
  match mode, permissionFound with
  | .permit, true => .ok ()
  | .forbid, false => .ok ()
  | _, _ => fail (.permissions .forbidden)

/-- Insert a permission into the vector of an account, unless it is found
there. -/
def insertPermission (holderId : T.AccountId) (scope : Scope)
    (permissionId : PermissionId) (s : Storage T) : Storage T :=
  { s with
    permissions := Function.update s.permissions holderId
      ((s.permissions holderId).insert scope
        (insertMissing permissionId (held s holderId scope))) }

/-- Replace the vector of owners of a permission in a scope. -/
def setOwners (permissionId : PermissionId) (scope : Scope)
    (owners : List T.AccountId) (s : Storage T) : Storage T :=
  { s with
    permissionOwners := insert₂ s.permissionOwners permissionId scope owners }

def grantPermissionWithScope (who accountId : T.AccountId)
    (permissionId : PermissionId) (scope : Scope) : Exec T Unit := do
  let s ← Tx.get
  let rights := ownership s who permissionId scope
  if rights.2 then
    referFirst accountId
    Tx.modify (insertPermission accountId scope permissionId)
  else if rights.1 then
    fail (.permissions .permissionNotOwned)
  else
    fail (.permissions .permissionNotFound)

/-- Put another account in the place of an owner.  The owners are written back
whether or not a reference can be taken on the new one. -/
def transferPermission (R : References T) (who accountId : T.AccountId)
    (permissionId : PermissionId) (scope : Scope) : Exec T Unit := do
  Tx.reads fun s =>
    ensure (s.modes permissionId).isSome (.permissions .permissionNotFound)
  let s ← Tx.get
  let owners := s.permissionOwners permissionId scope
  if who ∈ owners then
    Tx.modify (setOwners permissionId scope
      (owners.set (owners.idxOf who) accountId))
    Tx.modify fun s => { s with system := R.decConsumers who s.system }
    incConsumers accountId (.permissions .incRefError)
  else if owners.isEmpty then
    fail (.permissions .permissionNotFound)
  else
    fail (.permissions .permissionNotOwned)

/-- Create a permission with an owner and a holder. -/
def createPermission (owner accountId : T.AccountId)
    (permissionId : PermissionId) (scope : Scope) (mode : Mode) :
    Exec T Unit := do
  Tx.reads fun s =>
    ensure (s.modes permissionId).isNone (.permissions .permissionAlreadyExists)
  referFirst accountId
  incConsumers owner (.permissions .incRefError)
  Tx.modify fun s =>
    { s with modes := Function.update s.modes permissionId (some mode) }
  Tx.modify fun s => setOwners permissionId scope
    (s.permissionOwners permissionId scope ++ [owner]) s
  Tx.modify (insertPermission accountId scope permissionId)

/-- Give a permission to `holderId` when holding it permits. -/
def grantPermitted (holderId : T.AccountId) (permissionId : PermissionId)
    (scope : Scope) : Exec T Bool := do
  let s ← Tx.get
  if (s.modes permissionId).getD .permit = .permit then
    referFirst holderId
    let s ← Tx.get
    Tx.modify (insertPermission holderId scope permissionId)
    pure (!accountHasPermission s holderId scope permissionId)
  else
    pure false

def assignPermission (owner holderId : T.AccountId)
    (permissionId : PermissionId) (scope : Scope) : Exec T Unit := do
  Tx.reads fun s =>
    ensure (s.modes permissionId).isSome (.permissions .permissionNotFound)
  incConsumers owner (.permissions .incRefError)
  let madeOwner ← makeOwner owner permissionId scope
  let grantedPermission ← grantPermitted holderId permissionId scope
  ensure (madeOwner || grantedPermission)
    (.permissions .permissionAlreadyExists)

/-! ## The vectors -/

theorem held_insertPermission (s : Storage T) (who holderId : T.AccountId)
    (scope scope' : Scope) (p : PermissionId) :
    held (insertPermission holderId scope p s) who scope' =
      if who = holderId ∧ scope' = scope then
        insertMissing p (held s holderId scope)
      else held s who scope' := by
  by_cases hwho : who = holderId
  · subst hwho
    by_cases hscope : scope' = scope
    · subst hscope
      simp [held, insertPermission]
    · simp [held, insertPermission, hscope, AList.lookup_insert_ne]
  · simp [held, insertPermission, hwho]

theorem mem_held_insertPermission {s : Storage T} {who holderId : T.AccountId}
    {scope scope' : Scope} {p q : PermissionId} :
    q ∈ held (insertPermission holderId scope p s) who scope' ↔
      (who = holderId ∧ scope' = scope ∧ q = p) ∨ q ∈ held s who scope' := by
  rw [held_insertPermission]
  by_cases hcell : who = holderId ∧ scope' = scope
  · obtain ⟨rfl, rfl⟩ := hcell
    simp [mem_insertMissing]
  · rw [if_neg hcell]
    constructor
    · exact Or.inr
    · intro h
      rcases h with ⟨hwho, hscope, -⟩ | h
      · exact absurd ⟨hwho, hscope⟩ hcell
      · exact h

/-- Every stored vector is in ascending order. -/
def Sorted (s : Storage T) : Prop :=
  ∀ who scope, Ascending (held s who scope)

theorem Sorted.insertPermission {s : Storage T} (hs : Sorted s)
    (holderId : T.AccountId) (scope : Scope) (p : PermissionId) :
    Sorted (insertPermission holderId scope p s) := by
  intro who scope'
  rw [held_insertPermission]
  split_ifs
  · exact ascending_insertMissing (hs _ _)
  · exact hs _ _

theorem Sorted.of_permissions_eq {s s' : Storage T} (hs : Sorted s)
    (h : s'.permissions = s.permissions) :
    Sorted s' := by
  intro who scope
  have hheld : held s' who scope = held s who scope := by
    rw [held, h, held]
  rw [hheld]
  exact hs who scope

theorem Sorted.accountHasPermission_iff {s : Storage T} (hs : Sorted s)
    {who : T.AccountId} {scope : Scope} {p : PermissionId} :
    accountHasPermission s who scope p = true ↔ p ∈ held s who scope :=
  binarySearch_isOk_iff (hs who scope)

/-- Whoever is found to hold a permission has an entry. -/
theorem entries_ne_nil_of_accountHasPermission {s : Storage T}
    {who : T.AccountId} {scope : Scope} {p : PermissionId}
    (h : accountHasPermission s who scope p = true) :
    (s.permissions who).entries.length ≠ 0 := by
  intro hlength
  have hempty : (s.permissions who).entries = [] :=
    List.eq_nil_of_length_eq_zero hlength
  have hheld : held s who scope = [] := by
    rw [held, AList.lookup, hempty]
    rfl
  rw [accountHasPermission, hheld] at h
  cases hsearch : binarySearch ([] : List PermissionId) p with
  | ok i => exact absurd (mem_of_binarySearch_ok hsearch) List.not_mem_nil
  | error i =>
      rw [hsearch] at h
      exact Bool.false_ne_true h

/-! ## What each function does -/

/-- A guard passes on or fails before anything is written. -/
theorem run_ensure_bind {α : Type} (c : Storage T → Prop)
    [∀ s, Decidable (c s)] (e : DispatchError) (f : Unit → Exec T α)
    (s : Storage T) :
    ((Tx.reads fun s => ensure (c s) e) >>= f).run s =
      if c s then (f ()).run s else (fail e, s) := by
  have hread : (Tx.reads fun s => ensure (c s) e).run s =
      (ensure (c s) e, s) := rfl
  rw [Tx.run_bind, hread, ensure]
  by_cases hc : c s
  · rw [if_pos hc, if_pos hc]
  · rw [if_neg hc, if_neg hc]
    rfl

theorem run_incConsumers (who : T.AccountId) (e : DispatchError)
    (s : Storage T) :
    (incConsumers who e).run s =
      match T.system.incConsumers who s.system with
      | some st => (.ok (), { s with system := st })
      | none => (fail e, s) := by
  rw [incConsumers, Tx.run_bind_of_ok (Tx.run_get s)]
  cases T.system.incConsumers who s.system with
  | some st => rfl
  | none => rfl

/-- The references after the first permission of an account took one on it. -/
def refer (accountId : T.AccountId) (s : Storage T) : Option T.system.State :=
  if (s.permissions accountId).entries.length = 0 then
    T.system.incConsumers accountId s.system
  else some s.system

theorem run_referFirst (accountId : T.AccountId) (s : Storage T) :
    (referFirst accountId).run s =
      match refer accountId s with
      | some st => (.ok (), { s with system := st })
      | none => (fail (.permissions .incRefError), s) := by
  rw [referFirst, Tx.run_bind_of_ok (Tx.run_get s), refer]
  split_ifs
  · exact run_incConsumers accountId _ s
  · rfl

/-- The storage after `owner` was entered among the owners. -/
def withOwner (owner : T.AccountId) (p : PermissionId) (scope : Scope)
    (s : Storage T) : Storage T :=
  if owner ∈ s.permissionOwners p scope then s
  else setOwners p scope (s.permissionOwners p scope ++ [owner]) s

theorem run_makeOwner (owner : T.AccountId) (p : PermissionId) (scope : Scope)
    (s : Storage T) :
    (makeOwner owner p scope).run s =
      (.ok (decide (owner ∉ s.permissionOwners p scope)),
        withOwner owner p scope s) := by
  rw [makeOwner, Tx.run_bind_of_ok (Tx.run_get s), withOwner]
  by_cases h : owner ∈ s.permissionOwners p scope
  · simp [h]
  · simp only [h, if_false, Tx.run_bind, Tx.run_modify, Tx.run_pure,
      not_false_eq_true, decide_true]
    rfl

theorem run_grantPermissionWithScope (who accountId : T.AccountId)
    (p : PermissionId) (scope : Scope) (s : Storage T) :
    (grantPermissionWithScope who accountId p scope).run s =
      if (ownership s who p scope).2 = true then
        match refer accountId s with
        | some st =>
            (.ok (), insertPermission accountId scope p { s with system := st })
        | none => (fail (.permissions .incRefError), s)
      else if (ownership s who p scope).1 = true then
        (fail (.permissions .permissionNotOwned), s)
      else (fail (.permissions .permissionNotFound), s) := by
  rw [grantPermissionWithScope, Tx.run_bind_of_ok (Tx.run_get s)]
  dsimp only
  split_ifs
  · rw [Tx.run_bind, run_referFirst]
    cases refer accountId s with
    | some st => rfl
    | none => rfl
  · rfl
  · rfl

theorem run_transferPermission (R : References T) (who accountId : T.AccountId)
    (p : PermissionId) (scope : Scope) (s : Storage T) :
    (transferPermission R who accountId p scope).run s =
      if (s.modes p).isSome = true then
        if who ∈ s.permissionOwners p scope then
          let s₁ := setOwners p scope
            ((s.permissionOwners p scope).set
              ((s.permissionOwners p scope).idxOf who) accountId) s
          let released := R.decConsumers who s.system
          match T.system.incConsumers accountId released with
          | some st => (.ok (), { s₁ with system := st })
          | none =>
              (fail (.permissions .incRefError), { s₁ with system := released })
        else if (s.permissionOwners p scope).isEmpty = true then
          (fail (.permissions .permissionNotFound), s)
        else (fail (.permissions .permissionNotOwned), s)
      else (fail (.permissions .permissionNotFound), s) := by
  rw [transferPermission, run_ensure_bind]
  split_ifs with hmode hwho hempty
  · rw [Tx.run_bind_of_ok (Tx.run_get s)]
    dsimp only
    rw [if_pos hwho, Tx.run_bind_of_ok (Tx.run_modify _ s),
      Tx.run_bind_of_ok (Tx.run_modify _ _), run_incConsumers]
    rfl
  · rw [Tx.run_bind_of_ok (Tx.run_get s)]
    dsimp only
    rw [if_neg hwho, if_pos hempty]
    rfl
  · rw [Tx.run_bind_of_ok (Tx.run_get s)]
    dsimp only
    rw [if_neg hwho, if_neg hempty]
    rfl
  · rfl

theorem run_createPermission (owner accountId : T.AccountId)
    (p : PermissionId) (scope : Scope) (mode : Mode) (s : Storage T) :
    (createPermission owner accountId p scope mode).run s =
      if (s.modes p).isNone = true then
        match refer accountId s with
        | none => (fail (.permissions .incRefError), s)
        | some st =>
            match T.system.incConsumers owner st with
            | none =>
                (fail (.permissions .incRefError), { s with system := st })
            | some st' =>
                (.ok (), insertPermission accountId scope p
                  (setOwners p scope (s.permissionOwners p scope ++ [owner])
                    { s with
                      system := st'
                      modes := Function.update s.modes p (some mode) }))
      else (fail (.permissions .permissionAlreadyExists), s) := by
  rw [createPermission, run_ensure_bind]
  split_ifs with hmode
  · rw [Tx.run_bind, run_referFirst]
    cases refer accountId s with
    | none => rfl
    | some st =>
        dsimp only
        rw [Tx.run_bind, run_incConsumers]
        dsimp only
        cases T.system.incConsumers owner st with
        | none => rfl
        | some st' => rfl
  · rfl

theorem run_grantPermitted (holderId : T.AccountId) (p : PermissionId)
    (scope : Scope) (s : Storage T) :
    (grantPermitted holderId p scope).run s =
      if (s.modes p).getD .permit = .permit then
        match refer holderId s with
        | some st =>
            (.ok (!accountHasPermission s holderId scope p),
              insertPermission holderId scope p { s with system := st })
        | none => (fail (.permissions .incRefError), s)
      else (.ok false, s) := by
  rw [grantPermitted, Tx.run_bind_of_ok (Tx.run_get s)]
  split_ifs
  · rw [Tx.run_bind, run_referFirst]
    cases refer holderId s with
    | some st => rfl
    | none => rfl
  · rfl

theorem run_assignPermission (owner holderId : T.AccountId)
    (p : PermissionId) (scope : Scope) (s : Storage T) :
    (assignPermission owner holderId p scope).run s =
      if (s.modes p).isSome = true then
        match T.system.incConsumers owner s.system with
        | none => (fail (.permissions .incRefError), s)
        | some st =>
            let s₁ := withOwner owner p scope { s with system := st }
            match (grantPermitted holderId p scope).run s₁ with
            | (.ok granted, s₂) =>
                (ensure ((decide (owner ∉ s.permissionOwners p scope) ||
                  granted) = true) (.permissions .permissionAlreadyExists), s₂)
            | (.error e, s₂) => (.error e, s₂)
      else (fail (.permissions .permissionNotFound), s) := by
  rw [assignPermission, run_ensure_bind]
  split_ifs with hmode
  · rw [Tx.run_bind, run_incConsumers]
    cases T.system.incConsumers owner s.system with
    | none => rfl
    | some st =>
        dsimp only
        rw [Tx.run_bind_of_ok (run_makeOwner owner p scope _), Tx.run_bind]
        rcases (grantPermitted holderId p scope).run
          (withOwner owner p scope { s with system := st }) with
          ⟨e | granted, s₂⟩
        · rfl
        · dsimp only
          cases decide (owner ∉ s.permissionOwners p scope) || granted with
          | true => rfl
          | false => rfl
  · rfl

/-! ## Agreement with the view of the other pallets -/

section

variable {s : Storage T} (hs : Sorted s)
include hs

theorem accountHasPermission_eq (who : T.AccountId) (scope : Scope)
    (p : PermissionId) :
    accountHasPermission s who scope p =
      Permissions.accountHasPermission s who scope p := by
  rw [Bool.eq_iff_iff, hs.accountHasPermission_iff,
    Permissions.accountHasPermission, decide_eq_true_iff]

theorem checkPermissionWithScope_eq (who : T.AccountId) (p : PermissionId)
    (scope : Scope) :
    checkPermissionWithScope s who p scope =
      Permissions.checkPermissionWithScope s who p scope := by
  rw [checkPermissionWithScope, accountHasPermission_eq hs,
    accountHasPermission_eq hs]
  rfl

theorem insertPermission_eq (holderId : T.AccountId) (scope : Scope)
    (p : PermissionId) :
    insertPermission holderId scope p s =
      Permissions.insertPermission holderId scope p s := by
  have hinsert : insertMissing p (held s holderId scope) =
      Permissions.insertSorted p (held s holderId scope) := by
    have hasc : Ascending (held s holderId scope) := hs holderId scope
    rw [insertMissing, Permissions.insertSorted]
    cases hsearch : binarySearch (held s holderId scope) p with
    | ok i => rw [if_pos (mem_of_binarySearch_ok hsearch)]
    | error i =>
        have hsep := separates_of_binarySearch_error hasc hsearch
        rw [if_neg hsep.not_mem, hsep.takeWhile_eq, List.length_take,
          min_eq_left hsep.1]
  rw [insertPermission, Permissions.insertPermission, hinsert]

end

end PermissionVectors
end SoraParachain
