import SoraParachain.Pallets.PermissionRuns

/-!
# Owners of permissions

A transfer puts the new owner in the first place of the old one.  The old owner
is rid of the permission when the vector lists every owner once, which is not
what every run preserves: an assignment asks whether the account already owns
the permission, but a transfer and the creation of a permission do not.
-/

namespace SoraParachain

variable {T : Config}

namespace PermissionVectors

/-- No account is listed twice among the owners of a permission in a scope. -/
def OwnersOnce (s : Storage T) : Prop :=
  ∀ p scope, (s.permissionOwners p scope).Nodup

/-- The operation does not list an owner a second time. -/
def ListsOwnersOnce (s : Storage T) : PermissionOperation T → Prop
  | .create owner _ p scope _ =>
      s.modes p = none → owner ∉ s.permissionOwners p scope
  | .grant _ _ _ _ => True
  | .assign _ _ _ _ => True
  | .transfer who accountId p scope =>
      who ∈ s.permissionOwners p scope → (s.modes p).isSome = true →
        accountId ∈ s.permissionOwners p scope → accountId = who

/-! ## Vectors of owners -/

section

variable {α : Type} [DecidableEq α] {xs : List α} {a b : α}

theorem count_set_idxOf (ha : a ∈ xs) (hne : b ≠ a) :
    (xs.set (xs.idxOf a) b).count a = xs.count a - 1 := by
  have hlt : xs.idxOf a < xs.length := List.idxOf_lt_length_of_mem ha
  rw [List.count_set hlt]
  simp [hne]

/-- Putting `b` in the first place of `a` removes `a` exactly when `a` was
listed once. -/
theorem not_mem_set_idxOf_iff (ha : a ∈ xs) (hne : b ≠ a) :
    a ∉ xs.set (xs.idxOf a) b ↔ xs.count a = 1 := by
  rw [← List.count_eq_zero, count_set_idxOf ha hne]
  have hpos : 0 < xs.count a := List.count_pos_iff.mpr ha
  omega

theorem nodup_set_idxOf (hxs : xs.Nodup) (ha : a ∈ xs)
    (hb : b ∈ xs → b = a) :
    (xs.set (xs.idxOf a) b).Nodup := by
  by_cases hmem : b ∈ xs
  · have hlt : xs.idxOf a < xs.length := List.idxOf_lt_length_of_mem ha
    have hsame : xs.set (xs.idxOf a) a = xs := by
      nth_rewrite 2 [← List.getElem_idxOf hlt]
      exact List.set_getElem_self hlt
    rw [hb hmem, hsame]
    exact hxs
  · exact hxs.set hmem

end

theorem owners_setOwners (s : Storage T) (p q : PermissionId)
    (scope scope' : Scope) (owners : List T.AccountId) :
    (setOwners p scope owners s).permissionOwners q scope' =
      if q = p ∧ scope' = scope then owners
      else s.permissionOwners q scope' := rfl

theorem OwnersOnce.setOwners {s : Storage T} (hs : OwnersOnce s)
    {p : PermissionId} {scope : Scope} {owners : List T.AccountId}
    (howners : owners.Nodup) :
    OwnersOnce (setOwners p scope owners s) := by
  intro q scope'
  rw [owners_setOwners]
  split_ifs
  · exact howners
  · exact hs q scope'

theorem OwnersOnce.of_eq {s s' : Storage T} (hs : OwnersOnce s)
    (h : s'.permissionOwners = s.permissionOwners) :
    OwnersOnce s' := by
  intro p scope
  rw [h]
  exact hs p scope

/-! ## Runs without repeated owners -/

section

variable {R : References T} {s : Storage T}

theorem ownersOnce_create (hs : OwnersOnce s)
    {owner accountId : T.AccountId} {p : PermissionId} {scope : Scope}
    {mode : Mode}
    (hnew : s.modes p = none → owner ∉ s.permissionOwners p scope) :
    OwnersOnce (after R s (.create owner accountId p scope mode)) := by
  rw [after, perform, run_createPermission]
  split_ifs with hmode
  · cases refer accountId s with
    | none => exact hs
    | some st =>
        dsimp only
        cases T.system.incConsumers owner st with
        | none => exact hs
        | some st' =>
            have howner : owner ∉ s.permissionOwners p scope :=
              hnew (Option.isNone_iff_eq_none.mp hmode)
            have happend : (s.permissionOwners p scope ++ [owner]).Nodup :=
              List.nodup_append.mpr ⟨hs p scope, List.nodup_singleton owner,
                fun a ha b hb hab => howner (List.mem_singleton.mp hb ▸ hab ▸ ha)⟩
            have hset : OwnersOnce (setOwners p scope
                (s.permissionOwners p scope ++ [owner]) s) :=
              hs.setOwners happend
            exact hset.of_eq rfl
  · exact hs

theorem ownersOnce_grant (hs : OwnersOnce s) (who accountId : T.AccountId)
    (p : PermissionId) (scope : Scope) :
    OwnersOnce (after R s (.grant who accountId p scope)) := by
  rw [after, perform, run_grantPermissionWithScope]
  split_ifs
  · cases refer accountId s with
    | none => exact hs
    | some st => exact hs.of_eq rfl
  · exact hs
  · exact hs

theorem owners_grantPermitted {holderId : T.AccountId} {p : PermissionId}
    {scope : Scope} {r : Except Failure Bool} {s' : Storage T}
    (hrun : (grantPermitted holderId p scope).run s = (r, s')) :
    s'.permissionOwners = s.permissionOwners := by
  rw [run_grantPermitted] at hrun
  split_ifs at hrun
  · cases hrefer : refer holderId s with
    | none =>
        rw [hrefer] at hrun
        cases hrun
        rfl
    | some st =>
        rw [hrefer] at hrun
        cases hrun
        rfl
  · cases hrun
    rfl

/-- An assignment asks whether the account is an owner already. -/
theorem ownersOnce_assign (hs : OwnersOnce s) (owner holderId : T.AccountId)
    (p : PermissionId) (scope : Scope) :
    OwnersOnce (after R s (.assign owner holderId p scope)) := by
  rw [after, perform, run_assignPermission]
  split_ifs
  · cases T.system.incConsumers owner s.system with
    | none => exact hs
    | some st =>
        dsimp only
        have hwith : OwnersOnce (withOwner owner p scope
            { s with system := st }) := by
          unfold withOwner
          split_ifs with howner
          · exact hs.of_eq rfl
          · have hrefer : OwnersOnce { s with system := st } := hs.of_eq rfl
            apply hrefer.setOwners
            exact List.nodup_append.mpr ⟨hs p scope, List.nodup_singleton owner,
              fun a ha b hb hab => howner (List.mem_singleton.mp hb ▸ hab ▸ ha)⟩
        rcases hgrant : (grantPermitted holderId p scope).run
          (withOwner owner p scope { s with system := st }) with ⟨e | granted, s₂⟩
        · exact hwith.of_eq (owners_grantPermitted hgrant)
        · exact hwith.of_eq (owners_grantPermitted hgrant)
  · exact hs

theorem ownersOnce_transfer (hs : OwnersOnce s) {who accountId : T.AccountId}
    {p : PermissionId} {scope : Scope}
    (hnew : who ∈ s.permissionOwners p scope → (s.modes p).isSome = true →
      accountId ∈ s.permissionOwners p scope → accountId = who) :
    OwnersOnce (after R s (.transfer who accountId p scope)) := by
  rw [after, perform, run_transferPermission]
  split_ifs with hmode hwho
  · dsimp only
    have hset : OwnersOnce (setOwners p scope
        ((s.permissionOwners p scope).set
          ((s.permissionOwners p scope).idxOf who) accountId) s) :=
      hs.setOwners (nodup_set_idxOf (hs p scope) hwho (hnew hwho hmode))
    cases T.system.incConsumers accountId (R.decConsumers who s.system) with
    | none => exact hset.of_eq rfl
    | some st => exact hset.of_eq rfl
  · exact hs
  · exact hs
  · exact hs

theorem ownersOnce_after (op : PermissionOperation T) (hs : OwnersOnce s)
    (hop : ListsOwnersOnce s op) :
    OwnersOnce (after R s op) := by
  cases op with
  | create owner accountId p scope mode => exact ownersOnce_create hs hop
  | grant who accountId p scope => exact ownersOnce_grant hs who accountId p scope
  | assign owner holderId p scope =>
      exact ownersOnce_assign hs owner holderId p scope
  | transfer who accountId p scope => exact ownersOnce_transfer hs hop

end

/-- A genesis that lists every owner once leaves every owner listed once. -/
theorem ownersOnce_build {g : PermissionsGenesis T} {s s' : Storage T}
    {u : Unit} (hvacant : Vacant s)
    (hlisted : ∀ entry ∈ g.initialPermissionOwners, entry.2.2.Nodup)
    (hrun : (build g).run s = (.ok u, s')) :
    OwnersOnce s' := by
  have hsystem : ∀ (s : Storage T) st, Tx.Preserves OwnersOnce s
      { s with system := st } := fun s st hs => hs.of_eq rfl
  have hkeeps : Tx.Keeps (Tx.Preserves OwnersOnce) (build g) := by
    refine Tx.keeps_bind (Tx.keeps_forM fun entry hentry => ?_) fun _ => ?_
    · refine Tx.keeps_bind (Tx.keeps_forM fun who _ => ?_) fun _ => ?_
      · exact keeps_referOrPanic hsystem who
      · exact Tx.keeps_modify fun s hs => hs.setOwners (hlisted entry hentry)
    · refine Tx.keeps_bind (Tx.keeps_forM fun entry _ => ?_) fun _ => ?_
      · exact Tx.keeps_modify fun s hs => hs.of_eq rfl
      · apply Tx.keeps_forM
        intro entry _
        refine Tx.keeps_bind (keeps_referOrPanic hsystem _) fun _ => ?_
        exact Tx.keeps_modify fun s hs => hs.of_eq rfl
  apply hkeeps.of_run hrun
  intro p scope
  rw [hvacant.owners]
  exact List.nodup_nil

/-! ## Transfers -/

/-- What a successful transfer leaves of the owners. -/
theorem transferPermission_ok {R : References T} {who accountId : T.AccountId}
    {p : PermissionId} {scope : Scope} {s s' : Storage T} {u : Unit}
    (h : (transferPermission R who accountId p scope).run s = (.ok u, s')) :
    who ∈ s.permissionOwners p scope ∧
      s'.permissionOwners p scope =
        (s.permissionOwners p scope).set
          ((s.permissionOwners p scope).idxOf who) accountId := by
  rw [run_transferPermission] at h
  split_ifs at h with hmode hwho
  · refine ⟨hwho, ?_⟩
    dsimp only at h
    cases hinc : T.system.incConsumers accountId
        (R.decConsumers who s.system) with
    | none =>
        rw [hinc] at h
        simp [fail] at h
    | some st =>
        rw [hinc] at h
        cases h
        exact if_pos ⟨rfl, rfl⟩
  · simp [fail] at h
  · simp [fail] at h
  · simp [fail] at h

theorem mem_owners_of_transfer {R : References T} {who accountId : T.AccountId}
    {p : PermissionId} {scope : Scope} {s s' : Storage T} {u : Unit}
    (h : (transferPermission R who accountId p scope).run s = (.ok u, s')) :
    accountId ∈ s'.permissionOwners p scope := by
  obtain ⟨hwho, howners⟩ := transferPermission_ok h
  rw [howners]
  exact List.mem_set (List.idxOf_lt_length_of_mem hwho) accountId

/-- After a transfer to another account the old owner is gone exactly when it
was listed once. -/
theorem not_mem_owners_of_transfer_iff {R : References T}
    {who accountId : T.AccountId} {p : PermissionId} {scope : Scope}
    {s s' : Storage T} {u : Unit} (hne : accountId ≠ who)
    (h : (transferPermission R who accountId p scope).run s = (.ok u, s')) :
    who ∉ s'.permissionOwners p scope ↔
      (s.permissionOwners p scope).count who = 1 := by
  obtain ⟨hwho, howners⟩ := transferPermission_ok h
  rw [howners]
  exact not_mem_set_idxOf_iff hwho hne

/-- In a run from a genesis without repeated owners whose steps list no owner a
second time, a transfer gives the permission up. -/
theorem transfer_gives_up (R : References T) (g : PermissionsGenesis T)
    {s₀ s₁ s' : Storage T} (hvacant : Vacant s₀)
    (hbuild : (build g).run s₀ = (.ok (), s₁))
    (hlisted : ∀ entry ∈ g.initialPermissionOwners, entry.2.2.Nodup)
    (ops : List (PermissionOperation T))
    (hops : Along (after R) ListsOwnersOnce s₁ ops)
    {who accountId : T.AccountId} {p : PermissionId} {scope : Scope}
    (hne : accountId ≠ who)
    (h : (transferPermission R who accountId p scope).run
      (runAll (after R) s₁ ops) = (.ok (), s')) :
    accountId ∈ s'.permissionOwners p scope ∧
      who ∉ s'.permissionOwners p scope := by
  have honce : OwnersOnce (runAll (after R) s₁ ops) :=
    runAll_invariant (fun s op hs hop => ownersOnce_after op hs hop) ops s₁
      (ownersOnce_build hvacant hlisted hbuild) hops
  have hwho : who ∈ (runAll (after R) s₁ ops).permissionOwners p scope :=
    (transferPermission_ok h).1
  refine ⟨mem_owners_of_transfer h, ?_⟩
  rw [not_mem_owners_of_transfer_iff hne h]
  exact List.count_eq_one_of_mem (honce p scope) hwho

open Mock (alice bob carol counting references)

/-- Alice gives the permission to mint to Bob, who owns it already. -/
def aliceGivesBob : List (PermissionOperation counting) :=
  [.transfer alice.account bob.account Permissions.mint .unlimited]

/-- Bob was listed twice and still owns what he transferred. -/
theorem transfer_keeps_second_listing :
    ((transferPermission references bob.account 8 Permissions.mint
        .unlimited).run
      (runAll (after references) shared aliceGivesBob)).1 = .ok () ∧
    bob.account ∈
      ((transferPermission references bob.account 8 Permissions.mint
          .unlimited).run
        (runAll (after references) shared aliceGivesBob)).2.permissionOwners
          Permissions.mint .unlimited := by
  decide +kernel

/-- Alice, listed once, gives the permission to mint to another account. -/
theorem transfer_gives_up_alice :
    alice.account ∉
      ((transferPermission references alice.account 8 Permissions.mint
          .unlimited).run
        (runAll (after references) shared bobGrantsAlice)).2.permissionOwners
          Permissions.mint .unlimited :=
  (transfer_gives_up references sharedMint vacant_vacant build_sharedMint
    (by decide) bobGrantsAlice ⟨trivial, trivial⟩ (by decide)
    (Prod.ext (by decide +kernel) rfl)).2

end PermissionVectors
end SoraParachain
