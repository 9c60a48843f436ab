import SoraParachain.Library.Runs
import SoraParachain.Pallets.PermissionMock

/-!
# Runs of the permissions pallet

A run starts from a genesis configuration and calls the functions of the pallet
in any order.  A function that fails keeps what it wrote, since none of them is
a transaction.  Along a run the vectors stay in ascending order, so that a
lookup answers for the sets of permissions that were put in.
-/

namespace SoraParachain

variable {T : Config}

/-- The functions of the pallet that change its storage. -/
inductive PermissionOperation (T : Config) where
  | create (owner accountId : T.AccountId) (permissionId : PermissionId)
      (scope : Scope) (mode : Mode)
  | grant (who accountId : T.AccountId) (permissionId : PermissionId)
      (scope : Scope)
  | assign (owner holderId : T.AccountId) (permissionId : PermissionId)
      (scope : Scope)
  | transfer (who accountId : T.AccountId) (permissionId : PermissionId)
      (scope : Scope)

/-- The owners and the holders of permissions to start with. -/
structure PermissionsGenesis (T : Config) where
  initialPermissionOwners : List (PermissionId × Scope × List T.AccountId)
  initialPermissions : List (T.AccountId × Scope × List PermissionId)

namespace PermissionVectors

open Permissions (held)

def perform (R : References T) : PermissionOperation T → Exec T Unit
  | .create owner accountId permissionId scope mode =>
      createPermission owner accountId permissionId scope mode
  | .grant who accountId permissionId scope =>
      grantPermissionWithScope who accountId permissionId scope
  | .assign owner holderId permissionId scope =>
      assignPermission owner holderId permissionId scope
  | .transfer who accountId permissionId scope =>
      transferPermission R who accountId permissionId scope

/-- The storage an operation leaves, whether or not it succeeds. -/
def after (R : References T) (s : Storage T) (op : PermissionOperation T) :
    Storage T :=
  ((perform R op).run s).2

/-! ## Genesis -/

def initDex : PermissionId := 5
def createFarm : PermissionId := 7
def checkFarm : PermissionId := 8
def lockToFarm : PermissionId := 9
def claimFromFarm : PermissionId := 10
def getFarmInfo : PermissionId := 11
def getFarmerInfo : PermissionId := 12
def unlockFromFarm : PermissionId := 13
def slash : PermissionId := 4

def genesisModes : List (PermissionId × Mode) :=
  [(Permissions.transfer, .forbid), (Permissions.mint, .permit),
    (Permissions.burn, .permit), (slash, .permit), (initDex, .permit),
    (Permissions.manageDex, .permit), (createFarm, .permit),
    (checkFarm, .permit), (lockToFarm, .permit), (unlockFromFarm, .permit),
    (claimFromFarm, .permit), (getFarmInfo, .permit), (getFarmerInfo, .permit)]

def setMode (entry : PermissionId × Mode) (s : Storage T) : Storage T :=
  { s with modes := Function.update s.modes entry.1 (some entry.2) }

/-- Replace the vector of permissions of an account in a scope. -/
def setHeld (holderId : T.AccountId) (scope : Scope) (xs : List PermissionId)
    (s : Storage T) : Storage T :=
  { s with
    permissions := Function.update s.permissions holderId
      ((s.permissions holderId).insert scope xs) }

/-- Take a reference on an account, or stop the genesis. -/
def referOrPanic (who : T.AccountId) : Exec T Unit := do
  let s ← Tx.get
  let st ← unwrap (T.system.incConsumers who s.system)
  Tx.modify fun s => { s with system := st }

def enterOwners (entry : PermissionId × Scope × List T.AccountId) :
    Exec T Unit := do
  entry.2.2.forM referOrPanic
  Tx.modify (setOwners entry.1 entry.2.1 entry.2.2)

/-- The permissions are sorted; what repeats stays. -/
def enterHeld (entry : T.AccountId × Scope × List PermissionId) :
    Exec T Unit := do
  referOrPanic entry.1
  Tx.modify (setHeld entry.1 entry.2.1 (entry.2.2.insertionSort (· ≤ ·)))

def build (g : PermissionsGenesis T) : Exec T Unit := do
  g.initialPermissionOwners.forM enterOwners
  genesisModes.forM fun entry => Tx.modify (setMode entry)
  g.initialPermissions.forM enterHeld

/-- Nothing of the pallet is stored yet. -/
structure Vacant (s : Storage T) : Prop where
  owners : ∀ p scope, s.permissionOwners p scope = []
  modes : ∀ p, s.modes p = none
  permissions : ∀ who, s.permissions who = ∅

/-! ## Sets of permissions

What is put in is recorded in plain sets, one for each account and scope. -/

/-- The set of permissions of every account in every scope. -/
abbrev Holdings (T : Config) : Type :=
  T.AccountId → Scope → Set PermissionId

/-- An entry of the genesis is the set of its account in its scope. -/
def Holdings.enter (H : Holdings T)
    (entry : T.AccountId × Scope × List PermissionId) : Holdings T :=
  insert₂ H entry.1 entry.2.1 { q | q ∈ entry.2.2 }

/-- Put a permission in the set of an account. -/
def Holdings.put (H : Holdings T) (holderId : T.AccountId) (scope : Scope)
    (p : PermissionId) : Holdings T :=
  insert₂ H holderId scope (insert p (H holderId scope))

def genesisHoldings (g : PermissionsGenesis T) : Holdings T :=
  g.initialPermissions.foldl Holdings.enter fun _ _ => ∅

/-- What an operation puts in when it succeeds. -/
def given (s : Storage T) (H : Holdings T) :
    PermissionOperation T → Holdings T
  | .create _ accountId permissionId scope _ =>
      H.put accountId scope permissionId
  | .grant _ accountId permissionId scope => H.put accountId scope permissionId
  | .assign _ holderId permissionId scope =>
      if (s.modes permissionId).getD .permit = .permit then
        H.put holderId scope permissionId
      else H
  | .transfer _ _ _ _ => H

/-- The sets after an operation; one that fails puts nothing in. -/
def record (R : References T) (s : Storage T) (op : PermissionOperation T)
    (H : Holdings T) : Holdings T :=
  match ((perform R op).run s).1 with
  | .ok _ => given s H op
  | .error _ => H

/-- The mode of a permission lets an account act that has it or not. -/
def Mode.Allows : Mode → Prop → Prop
  | .permit, has => has
  | .forbid, has => ¬has

/-! ## The vectors reflect the sets -/

/-- The vectors are sorted and hold what was put in. -/
structure Reflects (s : Storage T) (H : Holdings T) : Prop where
  sorted : Sorted s
  mem_held : ∀ who scope p, p ∈ held s who scope ↔ p ∈ H who scope

section

variable {s s' : Storage T} {H : Holdings T}

theorem Reflects.of_permissions_eq (h : Reflects s H)
    (hs : s'.permissions = s.permissions) :
    Reflects s' H where
  sorted := h.sorted.of_permissions_eq hs
  mem_held who scope p := by
    have hheld : held s' who scope = held s who scope := by
      rw [held, hs, held]
    rw [hheld]
    exact h.mem_held who scope p

theorem mem_put {holderId who : T.AccountId} {scope scope' : Scope}
    {p q : PermissionId} :
    q ∈ H.put holderId scope p who scope' ↔
      (who = holderId ∧ scope' = scope ∧ q = p) ∨ q ∈ H who scope' := by
  unfold Holdings.put insert₂
  by_cases hcell : who = holderId ∧ scope' = scope
  · obtain ⟨rfl, rfl⟩ := hcell
    simp
  · rw [if_neg hcell]
    constructor
    · exact Or.inr
    · intro h
      rcases h with ⟨hwho, hscope, -⟩ | h
      · exact absurd ⟨hwho, hscope⟩ hcell
      · exact h

theorem Reflects.insert (h : Reflects s H) (holderId : T.AccountId)
    (scope : Scope) (p : PermissionId) :
    Reflects (insertPermission holderId scope p s)
      (H.put holderId scope p) where
  sorted := h.sorted.insertPermission holderId scope p
  mem_held who scope' q := by
    rw [mem_held_insertPermission, mem_put, h.mem_held]

/-- Inserting what is found changes no set. -/
theorem Reflects.insert_found (h : Reflects s H) {holderId : T.AccountId}
    {scope : Scope} {p : PermissionId}
    (hfound : accountHasPermission s holderId scope p = true) :
    Reflects (insertPermission holderId scope p s) H where
  sorted := h.sorted.insertPermission holderId scope p
  mem_held who scope' q := by
    have hheld := h.sorted.accountHasPermission_iff.mp hfound
    rw [mem_held_insertPermission, h.mem_held]
    constructor
    · intro hq
      rcases hq with ⟨rfl, rfl, rfl⟩ | hq
      · exact (h.mem_held _ _ _).mp hheld
      · exact hq
    · exact Or.inr

theorem permissions_withOwner (owner : T.AccountId) (p : PermissionId)
    (scope : Scope) (s : Storage T) :
    (withOwner owner p scope s).permissions = s.permissions := by
  unfold withOwner
  split_ifs
  · rfl
  · rfl

theorem modes_withOwner (owner : T.AccountId) (p : PermissionId)
    (scope : Scope) (s : Storage T) :
    (withOwner owner p scope s).modes = s.modes := by
  unfold withOwner
  split_ifs
  · rfl
  · rfl

end

/-! ## One operation -/

section

variable {R : References T} {s : Storage T} {H : Holdings T}

theorem reflects_create (h : Reflects s H) (owner accountId : T.AccountId)
    (p : PermissionId) (scope : Scope) (mode : Mode) :
    Reflects (after R s (.create owner accountId p scope mode))
      (record R s (.create owner accountId p scope mode) H) := by
  rw [after, record, perform, run_createPermission]
  split_ifs
  · cases refer accountId s with
    | none => exact h
    | some st =>
        dsimp only
        cases T.system.incConsumers owner st with
        | none => exact h.of_permissions_eq rfl
        | some st' =>
            have hsame : Reflects (setOwners p scope
                (s.permissionOwners p scope ++ [owner])
                { s with
                  system := st'
                  modes := Function.update s.modes p (some mode) }) H :=
              h.of_permissions_eq rfl
            exact hsame.insert accountId scope p
  · exact h

theorem reflects_grant (h : Reflects s H) (who accountId : T.AccountId)
    (p : PermissionId) (scope : Scope) :
    Reflects (after R s (.grant who accountId p scope))
      (record R s (.grant who accountId p scope) H) := by
  rw [after, record, perform, run_grantPermissionWithScope]
  split_ifs
  · cases refer accountId s with
    | none => exact h
    | some st =>
        have hsame : Reflects { s with system := st } H :=
          h.of_permissions_eq rfl
        exact hsame.insert accountId scope p
  · exact h
  · exact h

theorem reflects_transfer (h : Reflects s H) (who accountId : T.AccountId)
    (p : PermissionId) (scope : Scope) :
    Reflects (after R s (.transfer who accountId p scope))
      (record R s (.transfer who accountId p scope) H) := by
  rw [after, record, perform, run_transferPermission]
  split_ifs
  · dsimp only
    cases T.system.incConsumers accountId (R.decConsumers who s.system) with
    | none => exact h.of_permissions_eq rfl
    | some st => exact h.of_permissions_eq rfl
  · exact h
  · exact h
  · exact h

/-- What `grantPermitted` leaves reflects the sets with the permission put in;
when the search found it, these are the sets as they were. -/
theorem reflects_grantPermitted (h : Reflects s H) {holderId : T.AccountId}
    {p : PermissionId} {scope : Scope} {r : Except Failure Bool}
    {s' : Storage T} (hrun : (grantPermitted holderId p scope).run s = (r, s')) :
    (r ≠ .ok true → Reflects s' H) ∧
      (r.isOk = true → Reflects s'
        (if (s.modes p).getD .permit = .permit then H.put holderId scope p
          else H)) := by
  rw [run_grantPermitted] at hrun
  by_cases hpermit : (s.modes p).getD .permit = .permit
  · rw [if_pos hpermit] at hrun ⊢
    cases hrefer : refer holderId s with
    | none =>
        rw [hrefer] at hrun
        cases hrun
        refine ⟨fun _ => h, fun hok => ?_⟩
        exact absurd hok Bool.false_ne_true
    | some st =>
        rw [hrefer] at hrun
        cases hrun
        have hsame : Reflects { s with system := st } H :=
          h.of_permissions_eq rfl
        refine ⟨fun hr => ?_, fun _ => hsame.insert holderId scope p⟩
        apply hsame.insert_found
        by_contra hfound
        rw [Bool.not_eq_true] at hfound
        apply hr
        rw [show accountHasPermission s holderId scope p = false from hfound]
        rfl
  · rw [if_neg hpermit] at hrun ⊢
    cases hrun
    exact ⟨fun _ => h, fun _ => h⟩

/-- An assignment that finds the permission held can only succeed for the sake
of the owner. -/
theorem reflects_assign (h : Reflects s H) (owner holderId : T.AccountId)
    (p : PermissionId) (scope : Scope) :
    Reflects (after R s (.assign owner holderId p scope))
      (record R s (.assign owner holderId p scope) H) := by
  rw [after, record, perform, run_assignPermission]
  split_ifs with hmode
  · cases T.system.incConsumers owner s.system with
    | none => exact h
    | some st =>
        dsimp only
        have hsame : Reflects (withOwner owner p scope
            { s with system := st }) H :=
          h.of_permissions_eq (permissions_withOwner _ _ _ _)
        have hmodes : (withOwner owner p scope { s with system := st }).modes =
            s.modes := modes_withOwner _ _ _ _
        rcases hgrant : (grantPermitted holderId p scope).run
          (withOwner owner p scope { s with system := st }) with ⟨r, s₂⟩
        obtain ⟨hkept, hput⟩ := reflects_grantPermitted hsame hgrant
        rw [hmodes] at hput
        cases r with
        | error e => exact hkept (by simp)
        | ok granted =>
            dsimp only
            cases hres : ensure ((decide (owner ∉ s.permissionOwners p scope) ||
                granted) = true) (.permissions .permissionAlreadyExists) with
            | ok u => exact hput rfl
            | error e =>
                apply hkept
                intro hgranted
                have htrue : granted = true := Except.ok.inj hgranted
                rw [ensure, if_pos (by simp [htrue])] at hres
                cases hres
  · exact h

/-- Every operation keeps the vectors in step with the sets. -/
theorem reflects_after (op : PermissionOperation T) (h : Reflects s H) :
    Reflects (after R s op) (record R s op H) := by
  cases op with
  | create owner accountId p scope mode =>
      exact reflects_create h owner accountId p scope mode
  | grant who accountId p scope => exact reflects_grant h who accountId p scope
  | assign owner holderId p scope =>
      exact reflects_assign h owner holderId p scope
  | transfer who accountId p scope =>
      exact reflects_transfer h who accountId p scope

end

/-! ## Genesis -/

/-- The same permissions are held. -/
def SameHolders (s s' : Storage T) : Prop :=
  s'.permissions = s.permissions

instance : IsPreorder (Storage T) SameHolders where
  refl _ := rfl
  trans _ _ _ hab hbc := hbc.trans hab

theorem run_referOrPanic_ok {who : T.AccountId} {s s' : Storage T} {u : Unit} :
    (referOrPanic who).run s = (.ok u, s') ↔
      ∃ st, T.system.incConsumers who s.system = some st ∧
        s' = { s with system := st } := by
  rw [referOrPanic, Tx.run_bind_of_ok (Tx.run_get s), Tx.run_bind_eq_ok]
  constructor
  · intro h
    obtain ⟨st, s₁, hinc, h⟩ := h
    obtain ⟨hst, rfl⟩ := Tx.run_liftM_eq_ok.mp hinc
    cases h
    exact ⟨st, unwrap_eq_ok.mp hst, rfl⟩
  · intro h
    obtain ⟨st, hst, rfl⟩ := h
    exact ⟨st, s, Tx.run_liftM_eq_ok.mpr ⟨unwrap_eq_ok.mpr hst, rfl⟩, rfl⟩

theorem keeps_referOrPanic {Rel : Storage T → Storage T → Prop}
    [IsPreorder (Storage T) Rel]
    (hsystem : ∀ s st, Rel s { s with system := st }) (who : T.AccountId) :
    Tx.Keeps Rel (referOrPanic who : Exec T Unit) := by
  refine Tx.keeps_bind Tx.keeps_get fun _ => ?_
  refine Tx.keeps_bind (Tx.keeps_liftM _) fun st => ?_
  exact Tx.keeps_modify fun s => hsystem s st

/-- Everything before the holders are entered leaves them as they are. -/
theorem sameHolders_owners (entries :
    List (PermissionId × Scope × List T.AccountId)) :
    Tx.Keeps SameHolders (entries.forM enterOwners : Exec T Unit) := by
  apply Tx.keeps_forM
  intro entry _
  refine Tx.keeps_bind ?_ fun _ => Tx.keeps_modify fun s => rfl
  exact Tx.keeps_forM fun who _ => keeps_referOrPanic (fun s st => rfl) who

theorem sameHolders_modes :
    Tx.Keeps SameHolders
      (genesisModes.forM fun entry => Tx.modify (setMode entry) :
        Exec T Unit) :=
  Tx.keeps_forM fun _ _ => Tx.keeps_modify fun _ => rfl

theorem held_setHeld (s : Storage T) (holderId who : T.AccountId)
    (scope scope' : Scope) (xs : List PermissionId) :
    held (setHeld holderId scope xs s) who scope' =
      if who = holderId ∧ scope' = scope then xs else held s who scope' := by
  by_cases hwho : who = holderId
  · subst hwho
    by_cases hscope : scope' = scope
    · subst hscope
      simp [held, setHeld]
    · simp [held, setHeld, hscope, AList.lookup_insert_ne]
  · simp [held, setHeld, hwho]

theorem Reflects.enter {s : Storage T} {H : Holdings T} (h : Reflects s H)
    (entry : T.AccountId × Scope × List PermissionId) :
    Reflects (setHeld entry.1 entry.2.1 (entry.2.2.insertionSort (· ≤ ·)) s)
      (H.enter entry) where
  sorted who scope := by
    rw [held_setHeld]
    split_ifs
    · exact ascending_insertionSort _
    · exact h.sorted who scope
  mem_held who scope p := by
    rw [held_setHeld, Holdings.enter, insert₂]
    split_ifs
    · exact List.mem_insertionSort _
    · exact h.mem_held who scope p

theorem reflects_forM_enterHeld :
    ∀ {entries : List (T.AccountId × Scope × List PermissionId)}
      {s s' : Storage T} {H : Holdings T} {u : Unit}, Reflects s H →
      (entries.forM enterHeld : Exec T Unit).run s = (.ok u, s') →
        Reflects s' (entries.foldl Holdings.enter H) := by
  intro entries
  induction entries with
  | nil =>
      intro s s' H u h hrun
      cases hrun
      exact h
  | cons entry rest ih =>
      intro s s' H u h hrun
      obtain ⟨_, s₁, hentry, hrest⟩ := Tx.run_bind_eq_ok.mp hrun
      obtain ⟨_, s₂, hrefer, hset⟩ := Tx.run_bind_eq_ok.mp hentry
      obtain ⟨st, -, rfl⟩ := run_referOrPanic_ok.mp hrefer
      cases hset
      have hsame : Reflects { s with system := st } H :=
        h.of_permissions_eq rfl
      exact ih (hsame.enter entry) hrest

/-- The genesis leaves the sets it lists. -/
theorem reflects_build {g : PermissionsGenesis T} {s s' : Storage T} {u : Unit}
    (hvacant : Vacant s) (hrun : (build g).run s = (.ok u, s')) :
    Reflects s' (genesisHoldings g) := by
  obtain ⟨_, s₁, howners, hrun⟩ := Tx.run_bind_eq_ok.mp hrun
  obtain ⟨_, s₂, hmodes, hheld⟩ := Tx.run_bind_eq_ok.mp hrun
  have hs₁ : SameHolders s s₁ := (sameHolders_owners _).of_run howners
  have hs₂ : SameHolders s s₂ :=
    trans_of SameHolders hs₁ (sameHolders_modes.of_run hmodes)
  have hempty : ∀ who scope, held s who scope = [] := by
    intro who scope
    rw [held, hvacant.permissions who]
    rfl
  have hstart : Reflects s (fun _ _ => ∅) :=
    ⟨fun who scope => by
        rw [hempty]
        exact List.Pairwise.nil,
      fun who scope p => by
        rw [hempty]
        simp⟩
  exact reflects_forM_enterHeld (hstart.of_permissions_eq hs₂) hheld

/-! ## Lookups along a run -/

/-- Where the vectors reflect the sets, the check answers for the sets. -/
theorem Reflects.check_iff {s : Storage T} {H : Holdings T}
    (h : Reflects s H) {who : T.AccountId} {p : PermissionId} {scope : Scope} :
    checkPermissionWithScope s who p scope = .ok () ↔
      ∃ mode, s.modes p = some mode ∧
        Mode.Allows mode (p ∈ H who scope ∨ p ∈ H who .unlimited) := by
  have hfound : (accountHasPermission s who scope p ||
      (decide (scope ≠ .unlimited) &&
        accountHasPermission s who .unlimited p)) = true ↔
      p ∈ H who scope ∨ p ∈ H who .unlimited := by
    rw [Bool.or_eq_true, Bool.and_eq_true, decide_eq_true_iff,
      h.sorted.accountHasPermission_iff, h.sorted.accountHasPermission_iff,
      h.mem_held, h.mem_held]
    by_cases hscope : scope = .unlimited
    · simp [hscope]
    · simp [hscope]
  rw [checkPermissionWithScope]
  cases hmode : s.modes p with
  | none => simp [ensure, fail, bind, Except.bind]
  | some mode =>
      generalize hanswer : (accountHasPermission s who scope p ||
        (decide (scope ≠ .unlimited) &&
          accountHasPermission s who .unlimited p)) = answer at hfound
      rw [← hfound]
      cases mode <;> cases answer <;>
        simp [ensure, fail, bind, Except.bind, Mode.Allows]

/-- After any run from a genesis every vector is sorted and every check answers
for the sets of permissions that were put in. -/
theorem check_agrees_along_runs (R : References T) (g : PermissionsGenesis T)
    {s₀ s₁ : Storage T} (hvacant : Vacant s₀)
    (hbuild : (build g).run s₀ = (.ok (), s₁))
    (ops : List (PermissionOperation T)) :
    Sorted (runAll (after R) s₁ ops) ∧
      ∀ who p scope,
        checkPermissionWithScope (runAll (after R) s₁ ops) who p scope =
            .ok () ↔
          ∃ mode, (runAll (after R) s₁ ops).modes p = some mode ∧
            Mode.Allows mode
              (p ∈ historyAlong (after R) (record R) (genesisHoldings g)
                  s₁ ops who scope ∨
                p ∈ historyAlong (after R) (record R) (genesisHoldings g)
                  s₁ ops who .unlimited) := by
  have hstep : ∀ (s : Storage T) (op : PermissionOperation T) (H : Holdings T),
      Reflects s H → True → Reflects (after R s op) (record R s op H) :=
    fun s op H h _ => reflects_after op h
  have hall : Along (after R) (fun _ _ => True) s₁ ops :=
    along_of_forall_mem fun _ _ => trivial
  have hrun : Reflects (runAll (after R) s₁ ops)
      (historyAlong (after R) (record R) (genesisHoldings g) s₁ ops) :=
    runAll_history_invariant hstep ops s₁ _ (reflects_build hvacant hbuild) hall
  exact ⟨hrun.sorted, fun who p scope => hrun.check_iff⟩

/-! ## A run of the mock -/

open Mock (alice bob carol counting references vacant)

/-- Alice and Bob own the permission to mint everything; Bob holds it. -/
def sharedMint : PermissionsGenesis counting where
  initialPermissionOwners :=
    [(Permissions.mint, .unlimited, [alice.account, bob.account])]
  initialPermissions :=
    [(bob.account, .unlimited,
      [Permissions.burn, Permissions.mint, Permissions.mint])]

def shared : Storage counting :=
  ((build sharedMint).run vacant).2

theorem vacant_vacant : Vacant vacant :=
  ⟨fun _ _ => rfl, fun _ => rfl, fun _ => rfl⟩

theorem build_sharedMint :
    (build sharedMint).run vacant = (.ok (), shared) :=
  Prod.ext rfl rfl

/-- Bob grants Alice the permission to mint. -/
def bobGrantsAlice : List (PermissionOperation counting) :=
  [.grant bob.account alice.account Permissions.mint .unlimited]

theorem check_agrees_after_grant :
    Sorted (runAll (after references) shared bobGrantsAlice) ∧
      checkPermissionWithScope
        (runAll (after references) shared bobGrantsAlice)
        alice.account Permissions.mint (.limited 0) = .ok () :=
  ⟨(check_agrees_along_runs references sharedMint vacant_vacant
    build_sharedMint bobGrantsAlice).1, by decide +kernel⟩

end PermissionVectors
end SoraParachain
