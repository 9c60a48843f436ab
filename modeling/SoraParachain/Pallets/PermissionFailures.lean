import SoraParachain.Pallets.PermissionRuns

/-!
# Failed operations on permissions

None of the functions of the pallet is a transaction.  Granting takes its only
reference before it writes anything; the other functions can fail after they
took or gave up a reference, or after they changed the owners.  The condition
under which a failure leaves something behind is exact.
-/

namespace SoraParachain

variable {T : Config}

namespace PermissionVectors

open Permissions (held)

/-- Owners, modes, permissions and references are the same. -/
structure Unchanged (R : References T) (s s' : Storage T) : Prop where
  owners : s'.permissionOwners = s.permissionOwners
  modes : s'.modes = s.modes
  permissions : ∀ who scope,
    (s'.permissions who).lookup scope = (s.permissions who).lookup scope
  consumers : ∀ who, R.consumers who s'.system = R.consumers who s.system

/-- A failure of the operation leaves something behind.

Creation leaves the reference of the holder when none can be taken on the owner.
An assignment leaves the reference of the owner, and the owner itself, when it
grants nothing new or when no reference can be taken on the holder.  A transfer
leaves the new owner and a lost reference when none can be taken on the new
owner. -/
def LeavesTraces (R : References T) (s : Storage T) :
    PermissionOperation T → Prop
  | .create owner accountId p _ _ =>
      s.modes p = none ∧ (s.permissions accountId).entries.length = 0 ∧
        R.hasProvider accountId s.system = true ∧
        R.consumers accountId s.system ≠ R.maxConsumers ∧
        R.hasProvider owner s.system = false
  | .grant _ _ _ _ => False
  | .assign owner holderId p scope =>
      (s.modes p).isSome = true ∧ R.hasProvider owner s.system = true ∧
        (owner ∈ s.permissionOwners p scope →
          R.consumers owner s.system ≠ R.maxConsumers) ∧
        ((s.modes p).getD .permit = .permit ∧
            (s.permissions holderId).entries.length = 0 ∧
            R.hasProvider holderId s.system = false ∨
          owner ∈ s.permissionOwners p scope ∧
            ((s.modes p).getD .permit = .permit →
              accountHasPermission s holderId scope p = true))
  | .transfer who accountId p scope =>
      (s.modes p).isSome = true ∧ who ∈ s.permissionOwners p scope ∧
        R.hasProvider accountId s.system = false ∧
        (accountId = who → 0 < R.consumers who s.system)

/-- If the outcome is a failure, it changed nothing. -/
def FailsClean (R : References T) (s : Storage T)
    (outcome : Except Failure Unit × Storage T) : Prop :=
  ∀ e s', outcome = (.error e, s') → Unchanged R s s'

section

variable {R : References T} {s s' : Storage T}

theorem Unchanged.refl (s : Storage T) : Unchanged R s s :=
  ⟨rfl, rfl, fun _ _ => rfl, fun _ => rfl⟩

theorem failsClean_ok : FailsClean R s (.ok (), s') := by
  intro e s'' h
  cases h

theorem failsClean_fail {e : DispatchError} :
    FailsClean R s (fail e, s') ↔ Unchanged R s s' := by
  constructor
  · intro h
    exact h _ s' rfl
  · intro h e' s'' hout
    cases hout
    exact h

theorem failsClean_same {e : DispatchError} :
    FailsClean R s (fail e, s) :=
  failsClean_fail.mpr (Unchanged.refl s)

/-! ## References -/

theorem hasProvider_of_inc_none {who : T.AccountId} {st : T.system.State}
    (h : T.system.incConsumers who st = none) :
    R.hasProvider who st = false := by
  rw [← R.isSome_inc, h]
  rfl

theorem hasProvider_of_inc_some {who : T.AccountId} {st st' : T.system.State}
    (h : T.system.incConsumers who st = some st') :
    R.hasProvider who st = true := by
  rw [← R.isSome_inc, h]
  rfl

/-- Taking a reference changes a count unless it is at its greatest value. -/
theorem consumers_inc_eq_iff {who : T.AccountId} {st st' : T.system.State}
    (h : T.system.incConsumers who st = some st') :
    (∀ other, R.consumers other st' = R.consumers other st) ↔
      R.consumers who st = R.maxConsumers := by
  constructor
  · intro hall
    have hwho := hall who
    rw [R.consumers_inc h, if_pos rfl] at hwho
    omega
  · intro hmax other
    rw [R.consumers_inc h]
    split_ifs with hother
    · rw [hother, hmax]
      omega
    · rfl

/-- Giving up a reference changes a count unless there is none. -/
theorem consumers_dec_eq_iff {who : T.AccountId} {st : T.system.State} :
    (∀ other, R.consumers other (R.decConsumers who st) =
      R.consumers other st) ↔ R.consumers who st = 0 := by
  constructor
  · intro hall
    have hwho := hall who
    rw [R.consumers_dec, if_pos rfl] at hwho
    omega
  · intro hzero other
    rw [R.consumers_dec]
    split_ifs with hother
    · rw [hother, hzero]
    · rfl

theorem refer_none {accountId : T.AccountId} (h : refer accountId s = none) :
    (s.permissions accountId).entries.length = 0 ∧
      R.hasProvider accountId s.system = false := by
  unfold refer at h
  split_ifs at h with hempty
  exact ⟨hempty, hasProvider_of_inc_none h⟩

/-- Storages that differ in the references are the same when the counts are. -/
theorem unchanged_system_iff {st : T.system.State} :
    Unchanged R s { s with system := st } ↔
      ∀ who, R.consumers who st = R.consumers who s.system := by
  constructor
  · intro h
    exact h.consumers
  · intro h
    exact ⟨rfl, rfl, fun _ _ => rfl, h⟩

/-! ## One function at a time -/

theorem failsClean_grant (who accountId : T.AccountId) (p : PermissionId)
    (scope : Scope) :
    FailsClean R s ((perform R (.grant who accountId p scope)).run s) := by
  rw [perform, run_grantPermissionWithScope]
  split_ifs
  · cases refer accountId s with
    | none => exact failsClean_same
    | some st => exact failsClean_ok
  · exact failsClean_same
  · exact failsClean_same

theorem failsClean_create_iff (owner accountId : T.AccountId)
    (p : PermissionId) (scope : Scope) (mode : Mode) :
    FailsClean R s ((perform R (.create owner accountId p scope mode)).run s) ↔
      ¬LeavesTraces R s (.create owner accountId p scope mode) := by
  rw [perform, run_createPermission]
  by_cases hmode : (s.modes p).isNone = true
  · rw [if_pos hmode]
    cases hrefer : refer accountId s with
    | none =>
        have hprovider := (refer_none (R := R) hrefer).2
        apply iff_of_true failsClean_same
        intro htraces
        rw [htraces.2.2.1] at hprovider
        exact Bool.true_eq_false_eq_False hprovider
    | some st =>
        dsimp only
        have hsame : R.hasProvider owner st = R.hasProvider owner s.system := by
          unfold refer at hrefer
          split_ifs at hrefer
          · exact R.hasProvider_inc hrefer owner
          · cases hrefer
            rfl
        cases howner : T.system.incConsumers owner st with
        | some st' =>
            have hprovider := hasProvider_of_inc_some (R := R) howner
            apply iff_of_true failsClean_ok
            intro htraces
            rw [hsame, htraces.2.2.2.2] at hprovider
            exact Bool.false_ne_true hprovider
        | none =>
            have hprovider := hasProvider_of_inc_none (R := R) howner
            rw [hsame] at hprovider
            dsimp only
            rw [failsClean_fail, unchanged_system_iff]
            unfold refer at hrefer
            split_ifs at hrefer with hempty
            · rw [consumers_inc_eq_iff hrefer]
              have hholder := hasProvider_of_inc_some (R := R) hrefer
              constructor
              · intro hmax htraces
                exact htraces.2.2.2.1 hmax
              · intro hclean
                by_contra hmax
                exact hclean ⟨Option.isNone_iff_eq_none.mp hmode, hempty,
                  hholder, hmax, hprovider⟩
            · cases hrefer
              exact iff_of_true (fun _ => rfl) fun htraces =>
                hempty htraces.2.1
  · rw [if_neg hmode]
    apply iff_of_true failsClean_same
    intro htraces
    exact hmode (Option.isNone_iff_eq_none.mpr htraces.1)

theorem set_idxOf_eq_iff {α : Type} [DecidableEq α] {xs : List α} {a b : α}
    (ha : a ∈ xs) :
    xs.set (xs.idxOf a) b = xs ↔ b = a := by
  have hlt : xs.idxOf a < xs.length := List.idxOf_lt_length_of_mem ha
  constructor
  · intro h
    have hget : (xs.set (xs.idxOf a) b)[xs.idxOf a]? = xs[xs.idxOf a]? := by
      rw [h]
    rw [List.getElem?_set_self hlt, List.getElem?_eq_getElem hlt,
      List.getElem_idxOf hlt] at hget
    exact Option.some.inj hget
  · intro h
    subst h
    nth_rewrite 2 [← List.getElem_idxOf hlt]
    exact List.set_getElem_self hlt

theorem owners_setOwners_eq_iff {p : PermissionId} {scope : Scope}
    {owners : List T.AccountId} :
    (setOwners p scope owners s).permissionOwners = s.permissionOwners ↔
      owners = s.permissionOwners p scope := by
  constructor
  · intro h
    have hcell := congrFun (congrFun h p) scope
    rw [← hcell]
    exact (if_pos ⟨rfl, rfl⟩).symm
  · intro h
    subst h
    funext q scope'
    change (if q = p ∧ scope' = scope then _ else _) = _
    split_ifs with hcell
    · rw [hcell.1, hcell.2]
    · rfl

theorem failsClean_transfer_iff (who accountId : T.AccountId)
    (p : PermissionId) (scope : Scope) :
    FailsClean R s ((perform R (.transfer who accountId p scope)).run s) ↔
      ¬LeavesTraces R s (.transfer who accountId p scope) := by
  rw [perform, run_transferPermission]
  by_cases hmode : (s.modes p).isSome = true
  · rw [if_pos hmode]
    by_cases hwho : who ∈ s.permissionOwners p scope
    · rw [if_pos hwho]
      dsimp only
      have hsame := R.hasProvider_dec who s.system accountId
      cases hinc : T.system.incConsumers accountId
          (R.decConsumers who s.system) with
      | some st =>
          have hprovider := hasProvider_of_inc_some (R := R) hinc
          apply iff_of_true failsClean_ok
          intro htraces
          rw [hsame, htraces.2.2.1] at hprovider
          exact Bool.false_ne_true hprovider
      | none =>
          have hprovider := hasProvider_of_inc_none (R := R) hinc
          rw [hsame] at hprovider
          dsimp only
          rw [failsClean_fail]
          constructor
          · intro hclean htraces
            have howners : accountId = who :=
              (set_idxOf_eq_iff hwho).mp (owners_setOwners_eq_iff.mp hclean.owners)
            have hzero := consumers_dec_eq_iff.mp hclean.consumers
            have hpos := htraces.2.2.2 howners
            omega
          · intro hclean
            have hself : accountId = who ∧ R.consumers who s.system = 0 := by
              by_contra hnot
              exact hclean ⟨hmode, hwho, hprovider, fun heq =>
                Nat.pos_of_ne_zero fun hzero => hnot ⟨heq, hzero⟩⟩
            refine ⟨?_, rfl, fun _ _ => rfl, consumers_dec_eq_iff.mpr hself.2⟩
            exact owners_setOwners_eq_iff.mpr ((set_idxOf_eq_iff hwho).mpr hself.1)
    · rw [if_neg hwho]
      have hclean : ¬LeavesTraces R s (.transfer who accountId p scope) :=
        fun htraces => hwho htraces.2.1
      split_ifs
      · exact iff_of_true failsClean_same hclean
      · exact iff_of_true failsClean_same hclean
  · rw [if_neg hmode]
    exact iff_of_true failsClean_same fun htraces => hmode htraces.1

/-- Entering an owner changes nothing when it is there and the references are
the same. -/
theorem unchanged_withOwner_iff {owner : T.AccountId} {p : PermissionId}
    {scope : Scope} {st : T.system.State} :
    Unchanged R s (withOwner owner p scope { s with system := st }) ↔
      owner ∈ s.permissionOwners p scope ∧
        ∀ who, R.consumers who st = R.consumers who s.system := by
  by_cases howner : owner ∈ s.permissionOwners p scope
  · have hwith : withOwner owner p scope { s with system := st } =
        { s with system := st } := if_pos howner
    rw [hwith, unchanged_system_iff]
    exact ⟨fun h => ⟨howner, h⟩, fun h => h.2⟩
  · have hwith : withOwner owner p scope { s with system := st } =
        setOwners p scope (s.permissionOwners p scope ++ [owner])
          { s with system := st } := if_neg howner
    rw [hwith]
    refine iff_of_false (fun h => ?_) fun h => howner h.1
    have hcell := owners_setOwners_eq_iff.mp
      (h.owners : _ = ({ s with system := st } : Storage T).permissionOwners)
    simp at hcell

/-- Inserting what the search finds changes no vector. -/
theorem lookup_insertPermission_found {holderId : T.AccountId} {scope : Scope}
    {p : PermissionId} (hfound : accountHasPermission s holderId scope p = true)
    (who : T.AccountId) (scope' : Scope) :
    ((insertPermission holderId scope p s).permissions who).lookup scope' =
      (s.permissions who).lookup scope' := by
  have hkept : insertMissing p (held s holderId scope) =
      held s holderId scope := by
    rw [accountHasPermission] at hfound
    rw [insertMissing]
    cases hsearch : binarySearch (held s holderId scope) p with
    | ok i => rfl
    | error i =>
        rw [hsearch] at hfound
        exact absurd hfound Bool.false_ne_true
  have hheld : (s.permissions holderId).lookup scope =
      some (held s holderId scope) := by
    cases hlookup : (s.permissions holderId).lookup scope with
    | some xs => rw [held, hlookup]; rfl
    | none =>
        have hempty : held s holderId scope = [] := by
          rw [held, hlookup]
          rfl
        rw [accountHasPermission, hempty] at hfound
        simp [binarySearch, searchWithin, Except.isOk, Except.toBool] at hfound
  rw [insertPermission, hkept]
  by_cases hwho : who = holderId
  · subst hwho
    by_cases hscope : scope' = scope
    · subst hscope
      simp [hheld]
    · simp [hscope, AList.lookup_insert_ne]
  · simp [hwho]

theorem accountHasPermission_congr {s s' : Storage T}
    (h : s'.permissions = s.permissions) (who : T.AccountId) (scope : Scope)
    (p : PermissionId) :
    accountHasPermission s' who scope p = accountHasPermission s who scope p := by
  rw [accountHasPermission, held, h]
  rfl

theorem hasProvider_of_refer_some {accountId : T.AccountId}
    {st : T.system.State} (h : refer accountId s = some st)
    (hempty : (s.permissions accountId).entries.length = 0) :
    R.hasProvider accountId s.system = true := by
  rw [refer, if_pos hempty] at h
  exact hasProvider_of_inc_some h

theorem unchanged_insert_found_iff {w : Storage T} {holderId : T.AccountId}
    {scope : Scope} {p : PermissionId}
    (hfound : accountHasPermission w holderId scope p = true) :
    Unchanged R s (insertPermission holderId scope p w) ↔ Unchanged R s w := by
  have hlookup := lookup_insertPermission_found hfound
  constructor
  · intro h
    exact ⟨h.owners, h.modes, fun who scope' =>
      (hlookup who scope').symm.trans (h.permissions who scope'), h.consumers⟩
  · intro h
    exact ⟨h.owners, h.modes, fun who scope' =>
      (hlookup who scope').trans (h.permissions who scope'), h.consumers⟩

/-- The owner has been entered: a reference was taken on it, and nothing but the
owners and the references may differ. -/
structure OwnerEntered (R : References T) (s w : Storage T)
    (owner : T.AccountId) (p : PermissionId) (scope : Scope) : Prop where
  modes : w.modes = s.modes
  permissions : w.permissions = s.permissions
  provider : R.hasProvider owner s.system = true
  providers : ∀ who, R.hasProvider who w.system = R.hasProvider who s.system
  unchanged : Unchanged R s w ↔ owner ∈ s.permissionOwners p scope ∧
    R.consumers owner s.system = R.maxConsumers

theorem ownerEntered_withOwner {owner : T.AccountId} {p : PermissionId}
    {scope : Scope} {st : T.system.State}
    (h : T.system.incConsumers owner s.system = some st) :
    OwnerEntered R s (withOwner owner p scope { s with system := st }) owner p
      scope where
  modes := modes_withOwner _ _ _ _
  permissions := permissions_withOwner _ _ _ _
  provider := hasProvider_of_inc_some h
  providers := by
    intro who
    have hsystem : (withOwner owner p scope
        { s with system := st }).system = st := by
      unfold withOwner
      split_ifs
      · rfl
      · rfl
    rw [hsystem, R.hasProvider_inc h]
  unchanged := by
    rw [unchanged_withOwner_iff, consumers_inc_eq_iff h]

/-- An assignment that grants nothing new fails when the owner was there
before. -/
theorem OwnerEntered.failsClean_nothingNew_iff {w s' : Storage T}
    {owner holderId : T.AccountId} {p : PermissionId} {scope : Scope}
    (h : OwnerEntered R s w owner p scope) (hmode : (s.modes p).isSome = true)
    (hsame : Unchanged R s s' ↔ Unchanged R s w)
    (hrefer : (s.modes p).getD .permit = .permit →
      (s.permissions holderId).entries.length ≠ 0)
    (hfound : (s.modes p).getD .permit = .permit →
      accountHasPermission s holderId scope p = true) :
    FailsClean R s
        (ensure ((decide (owner ∉ s.permissionOwners p scope) || false) = true)
          (.permissions .permissionAlreadyExists), s') ↔
      ¬LeavesTraces R s (.assign owner holderId p scope) := by
  have htraces : LeavesTraces R s (.assign owner holderId p scope) ↔
      owner ∈ s.permissionOwners p scope ∧
        R.consumers owner s.system ≠ R.maxConsumers := by
    constructor
    · intro htraces
      rcases htraces.2.2.2 with hgrant | hkept
      · exact absurd hgrant.2.1 (hrefer hgrant.1)
      · exact ⟨hkept.1, htraces.2.2.1 hkept.1⟩
    · intro hmem
      exact ⟨hmode, h.provider, fun _ => hmem.2, Or.inr ⟨hmem.1, hfound⟩⟩
  rw [htraces]
  by_cases howner : owner ∈ s.permissionOwners p scope
  · rw [ensure, if_neg (by simp [howner]), failsClean_fail, hsame, h.unchanged]
    constructor
    · intro hclean hnot
      exact hnot.2 hclean.2
    · intro hclean
      by_contra hmax
      exact hclean ⟨howner, fun hconsumers => hmax ⟨howner, hconsumers⟩⟩
  · rw [ensure, if_pos (by simp [howner])]
    exact iff_of_true failsClean_ok fun hmem => howner hmem.1

/-- No reference can be taken on the holder. -/
theorem OwnerEntered.failsClean_refer_none_iff {w : Storage T}
    {owner holderId : T.AccountId} {p : PermissionId} {scope : Scope}
    {e : DispatchError} (h : OwnerEntered R s w owner p scope)
    (hmode : (s.modes p).isSome = true)
    (hpermit : (s.modes p).getD .permit = .permit)
    (hrefer : refer holderId w = none) :
    FailsClean R s (fail e, w) ↔
      ¬LeavesTraces R s (.assign owner holderId p scope) := by
  obtain ⟨hempty, hholder⟩ := refer_none (R := R) hrefer
  rw [h.permissions] at hempty
  rw [h.providers] at hholder
  rw [failsClean_fail, h.unchanged]
  constructor
  · intro hclean htraces
    exact htraces.2.2.1 hclean.1 hclean.2
  · intro hclean
    by_contra hnot
    apply hclean
    exact ⟨hmode, h.provider, fun hmem hmax => hnot ⟨hmem, hmax⟩,
      Or.inl ⟨hpermit, hempty, hholder⟩⟩

/-- The holder gets a permission that it did not have. -/
theorem OwnerEntered.not_leavesTraces_of_granted {w : Storage T}
    {owner holderId : T.AccountId} {p : PermissionId} {scope : Scope}
    {st : T.system.State} (h : OwnerEntered R s w owner p scope)
    (hpermit : (s.modes p).getD .permit = .permit)
    (hrefer : refer holderId w = some st)
    (hfound : accountHasPermission s holderId scope p = false) :
    ¬LeavesTraces R s (.assign owner holderId p scope) := by
  intro htraces
  rcases htraces.2.2.2 with hgrant | hkept
  · have hholder := hasProvider_of_refer_some (R := R) hrefer
      (by rw [h.permissions]; exact hgrant.2.1)
    rw [h.providers, hgrant.2.2] at hholder
    exact Bool.false_ne_true hholder
  · rw [hkept.2 hpermit] at hfound
    exact Bool.true_eq_false_eq_False hfound

theorem failsClean_assign_iff (owner holderId : T.AccountId)
    (p : PermissionId) (scope : Scope) :
    FailsClean R s ((perform R (.assign owner holderId p scope)).run s) ↔
      ¬LeavesTraces R s (.assign owner holderId p scope) := by
  rw [perform, run_assignPermission]
  by_cases hmode : (s.modes p).isSome = true
  · rw [if_pos hmode]
    cases howner : T.system.incConsumers owner s.system with
    | none =>
        have hprovider := hasProvider_of_inc_none (R := R) howner
        apply iff_of_true failsClean_same
        intro htraces
        rw [htraces.2.1] at hprovider
        exact Bool.true_eq_false_eq_False hprovider
    | some st =>
        have hentered : OwnerEntered R s _ owner p scope :=
          ownerEntered_withOwner howner
        dsimp only
        generalize withOwner owner p scope { s with system := st } = w at *
        have hfoundw :=
          accountHasPermission_congr hentered.permissions holderId scope p
        rw [run_grantPermitted]
        by_cases hpermit : (s.modes p).getD .permit = .permit
        · rw [if_pos (by rw [hentered.modes]; exact hpermit)]
          cases hrefer : refer holderId w with
          | none => exact hentered.failsClean_refer_none_iff hmode hpermit hrefer
          | some st' =>
              dsimp only
              cases hfound : accountHasPermission s holderId scope p with
              | false =>
                  rw [hfoundw, hfound, ensure, if_pos (by simp)]
                  exact iff_of_true failsClean_ok
                    (hentered.not_leavesTraces_of_granted hpermit hrefer hfound)
              | true =>
                  have hentries := entries_ne_nil_of_accountHasPermission hfound
                  rw [hfound] at hfoundw
                  obtain rfl : st' = w.system := by
                    rw [refer, if_neg (by
                      rw [hentered.permissions]; exact hentries)] at hrefer
                    exact (Option.some.inj hrefer).symm
                  rw [hfoundw]
                  exact hentered.failsClean_nothingNew_iff hmode
                    (unchanged_insert_found_iff hfoundw) (fun _ => hentries)
                    fun _ => hfound
        · rw [if_neg (by rw [hentered.modes]; exact hpermit)]
          exact hentered.failsClean_nothingNew_iff hmode Iff.rfl
            (fun h => absurd h hpermit) fun h => absurd h hpermit
  · rw [if_neg hmode]
    exact iff_of_true failsClean_same fun htraces => hmode htraces.1

/-- A failure changes nothing exactly when the operation is not one of those
that fail after they wrote. -/
theorem failed_changes_nothing_iff (R : References T) (s : Storage T)
    (op : PermissionOperation T) :
    (∀ e s', (perform R op).run s = (.error e, s') → Unchanged R s s') ↔
      ¬LeavesTraces R s op := by
  cases op with
  | create owner accountId p scope mode =>
      exact failsClean_create_iff owner accountId p scope mode
  | grant who accountId p scope =>
      exact iff_of_true (failsClean_grant who accountId p scope) id
  | assign owner holderId p scope =>
      exact failsClean_assign_iff owner holderId p scope
  | transfer who accountId p scope =>
      exact failsClean_transfer_iff who accountId p scope

end

open Mock (alice bob carol counting references)

/-- Alice transfers the permission to mint to Carol, on whom no reference can be
taken. -/
def aliceGivesCarol : PermissionOperation counting :=
  .transfer alice.account carol.account Permissions.mint .unlimited

/-- The transfer fails, and Carol owns the permission. -/
theorem failed_transfer_changes_owners :
    ((perform references aliceGivesCarol).run shared).1 =
        .error (.error (.permissions .incRefError)) ∧
      alice.account ∈ shared.permissionOwners Permissions.mint .unlimited ∧
      alice.account ∉
        ((perform references aliceGivesCarol).run
          shared).2.permissionOwners Permissions.mint .unlimited := by
  decide +kernel

end PermissionVectors
end SoraParachain
