import Mathlib.Data.List.Nodup
import MongoDriver.Options.Setters

/-! # Validating client options

`Validate` runs its checks in a fixed order and returns the first error: the error recorded by
`ApplyURI`, then the direct-connection, heartbeat, pool-size, server API, load-balancing,
`srvMaxHosts`, monitoring-mode and timeout checks, and last the MONGODB-OIDC credential checks.
Those walk the credential's property map, whose iteration order Go leaves unspecified: which
unsupported property the error names depends on that order, whether the options pass does not.
-/

namespace MongoDriver.Options

inductive ConnstringError
  | loadBalancedWithMultipleHosts
  | loadBalancedWithReplicaSet
  | loadBalancedWithDirectConnection
  | srvMaxHostsWithReplicaSet
  | srvMaxHostsWithLoadBalanced
  deriving DecidableEq, Repr

/-- What `Validate` uses from other packages. -/
structure ValidateLib where
  scheme : Ref → String
  schemeMongoDBSRV : String
  serverAPIVersionValidate : Ref → Option Ref
  isValidServerMonitoringMode : String → Bool
  mongoDBOIDC : String
  allowedHostsProp : String
  environmentProp : String
  resourceProp : String
  gcpEnvironmentValue : String
  azureEnvironmentValue : String
  k8sEnvironmentValue : String
  testEnvironmentValue : String

/-- The errors `Validate` returns, with the values they format. -/
inductive ValidateError
  -- `c.err`, the error `ApplyURI` recorded.
  | recorded (err : Ref)
  -- `a direct connection cannot be made if multiple hosts are specified`.
  | directWithMultipleHosts
  -- `a direct connection cannot be made if an SRV URI is used`.
  | directWithSRV
  -- `heartbeatFrequencyMS must exceed the minimum heartbeat interval of 500ms, got
  -- heartbeatFrequencyMS=%q`.
  | heartbeatTooShort (interval : Int)
  -- `minPoolSize must be less than or equal to maxPoolSize, got minPoolSize=%d maxPoolSize=%d`.
  | minPoolSizeAboveMax (minPoolSize maxPoolSize : UInt64)
  -- The error of `ServerAPIOptions.ServerAPIVersion.Validate()`.
  | serverAPIVersion (err : Ref)
  -- One of the `connstring` errors.
  | connstring (err : ConnstringError)
  -- `invalid server monitoring mode: %q`.
  | invalidServerMonitoringMode (mode : String)
  -- `invalid value %q for "Timeout": value must be positive`.
  | negativeTimeout (timeout : Int)
  -- `password must not be set for the %s auth mechanism`.
  | oidcPasswordSet
  -- `cannot set both OIDCMachineCallback and OIDCHumanCallback, only one may be specified`.
  | oidcBothCallbacks
  -- `cannot specify ALLOWED_HOSTS without an OIDCHumanCallback`.
  | oidcAllowedHostsWithoutHumanCallback
  -- `must specify at least one of OIDCMachineCallback, OIDCHumanCallback, or ENVIRONMENT
  -- authMechanismProperty`.
  | oidcNoCallbackNorEnvironment
  -- `auth mechanism property %q is not valid for MONGODB-OIDC`.
  | oidcUnsupportedProperty (prop : String)
  -- `%q must be set for the %s %q`.
  | oidcResourceMissing (env : String)
  -- `OIDCMachineCallback cannot be specified with the %s %q`.
  | oidcMachineCallbackWithEnvironment (env : String)
  -- `OIDCHumanCallback cannot be specified with the %s %q`.
  | oidcHumanCallbackWithEnvironment (env : String)
  -- `%q must not be set for the %s %q`.
  | oidcResourceWithTestEnvironment (env : String)
  -- `must not specify username for %s %q`.
  | oidcUsernameWithTestEnvironment (env : String)
  -- `the %s %q is not supported for MONGODB-OIDC`.
  | oidcUnsupportedEnvironment (env : String)
  deriving DecidableEq, Repr

variable (lib : ValidateLib) (c : ClientOptions)

def recordedCheck : Option ValidateError := c.err.map .recorded

def directCheck : Option ValidateError :=
  if c.direct = some true then
    if 1 < c.hostCount then some .directWithMultipleHosts
    else if c.connString.map lib.scheme = some lib.schemeMongoDBSRV then some .directWithSRV
    else none
  else none

def heartbeatCheck : Option ValidateError :=
  match c.heartbeatInterval with
  | some d => if d < 500 * 1000000 then some (.heartbeatTooShort d) else none
  | none => none

def poolSizeCheck : Option ValidateError :=
  match c.maxPoolSize, c.minPoolSize with
  | some mx, some mn => if mx ≠ 0 ∧ mn > mx then some (.minPoolSizeAboveMax mn mx) else none
  | _, _ => none

def serverAPICheck : Option ValidateError :=
  match c.serverAPIOptions with
  | some sopts => (lib.serverAPIVersionValidate sopts).map .serverAPIVersion
  | none => none

def loadBalancedCheck : Option ValidateError :=
  if c.loadBalanced = some true then
    if 1 < c.hostCount then some (.connstring .loadBalancedWithMultipleHosts)
    else if c.replicaSet.isSome then some (.connstring .loadBalancedWithReplicaSet)
    else if c.direct = some true then some (.connstring .loadBalancedWithDirectConnection)
    else none
  else none

def srvMaxHostsCheck : Option ValidateError :=
  match c.srvMaxHosts with
  | some n =>
    if 0 < n then
      if c.replicaSet.isSome then some (.connstring .srvMaxHostsWithReplicaSet)
      else if c.loadBalanced = some true then some (.connstring .srvMaxHostsWithLoadBalanced)
      else none
    else none
  | none => none

def serverMonitoringModeCheck : Option ValidateError :=
  match c.serverMonitoringMode with
  | some mode =>
    if lib.isValidServerMonitoringMode mode then none else some (.invalidServerMonitoringMode mode)
  | none => none

def timeoutCheck : Option ValidateError :=
  match c.timeout with
  | some t => if t < 0 then some (.negativeTimeout t) else none
  | none => none

/-- The loop `for prop := range c.Auth.AuthMechanismProperties`, in the map's order. -/
def unsupportedProperty : List (String × String) → Option String
  | [] => none
  | (prop, _) :: rest =>
    if prop = lib.allowedHostsProp ∨ prop = lib.environmentProp ∨ prop = lib.resourceProp then
      unsupportedProperty rest
    else some prop

/-- The `switch env` on `ENVIRONMENT`: the GCP and Azure case falls through into k8s. -/
def environmentCheck (cred : Credential) (env : String) : Option ValidateError :=
  let callbackCheck : Option ValidateError :=
    if cred.oidcMachineCallback.isSome then some (.oidcMachineCallbackWithEnvironment env)
    else if cred.oidcHumanCallback.isSome then some (.oidcHumanCallbackWithEnvironment env)
    else none
  if env = lib.gcpEnvironmentValue ∨ env = lib.azureEnvironmentValue then
    if cred.authMechanismProperties.get lib.resourceProp = "" then some (.oidcResourceMissing env)
    else callbackCheck
  else if env = lib.k8sEnvironmentValue then callbackCheck
  else if env = lib.testEnvironmentValue then
    if cred.authMechanismProperties.get lib.resourceProp ≠ "" then
      some (.oidcResourceWithTestEnvironment env)
    else if cred.username ≠ "" then some (.oidcUsernameWithTestEnvironment env)
    else none
  else some (.oidcUnsupportedEnvironment env)

def oidcCredentialCheck (cred : Credential) : Option ValidateError :=
  let props := cred.authMechanismProperties
  if cred.password ≠ "" then some .oidcPasswordSet
  else if cred.oidcMachineCallback.isSome ∧ cred.oidcHumanCallback.isSome then
    some .oidcBothCallbacks
  else if cred.oidcHumanCallback.isNone ∧ props.get lib.allowedHostsProp ≠ "" then
    some .oidcAllowedHostsWithoutHumanCallback
  else if cred.oidcMachineCallback.isNone ∧ cred.oidcHumanCallback.isNone ∧
      props.get lib.environmentProp = "" then
    some .oidcNoCallbackNorEnvironment
  else match unsupportedProperty lib props.entries with
    | some prop => some (.oidcUnsupportedProperty prop)
    | none =>
      if props.contains lib.environmentProp then
        environmentCheck lib cred (props.get lib.environmentProp)
      else none

def oidcCheck : Option ValidateError :=
  match c.auth with
  | some cred => if cred.authMechanism = lib.mongoDBOIDC then oidcCredentialCheck lib cred else none
  | none => none

def optionChecks : List (Option ValidateError) :=
  [recordedCheck c, directCheck lib c, heartbeatCheck c, poolSizeCheck c, serverAPICheck lib c,
    loadBalancedCheck c, srvMaxHostsCheck c, serverMonitoringModeCheck lib c, timeoutCheck c]

/-- `ClientOptions.Validate`: the first error of its checks, in order. -/
def validate : Option ValidateError := (optionChecks lib c ++ [oidcCheck lib c]).findSome? id

/-! ## What the checks of several fields ask -/

theorem directCheck_eq_none_iff : directCheck lib c = none ↔
    (c.direct = some true →
      c.hostCount ≤ 1 ∧ c.connString.map lib.scheme ≠ some lib.schemeMongoDBSRV) := by
  unfold directCheck
  split_ifs <;> simp_all

theorem loadBalancedCheck_eq_none_iff : loadBalancedCheck c = none ↔
    (c.loadBalanced = some true →
      c.hostCount ≤ 1 ∧ c.replicaSet = none ∧ c.direct ≠ some true) := by
  unfold loadBalancedCheck
  split_ifs <;> simp_all [Option.isSome_iff_ne_none]

theorem srvMaxHostsCheck_eq_none_iff : srvMaxHostsCheck c = none ↔
    (∀ n, c.srvMaxHosts = some n → 0 < n → c.replicaSet = none ∧ c.loadBalanced ≠ some true) := by
  unfold srvMaxHostsCheck
  split <;> [split_ifs; skip] <;> simp_all [Option.isSome_iff_ne_none]

/-! ## Go maps are read the same in every iteration order -/

theorem find?_key_eq_of_mem {l : List (String × String)} (hnd : (l.map Prod.fst).Nodup)
    {x : String × String} (hx : x ∈ l) : l.find? (·.1 = x.1) = some x := by
  have hsome : (l.find? (·.1 = x.1)).isSome := List.find?_isSome.mpr ⟨x, hx, by simp⟩
  obtain ⟨y, hy⟩ := Option.isSome_iff_exists.mp hsome
  have hyk : y.1 = x.1 := by simpa using List.find?_some hy
  rw [hy, List.inj_on_of_nodup_map hnd (List.mem_of_find?_eq_some hy) hx hyk]

theorem find?_key_perm {l₁ l₂ : List (String × String)} (hnd : (l₁.map Prod.fst).Nodup)
    (hp : l₁.Perm l₂) (k : String) : l₁.find? (·.1 = k) = l₂.find? (·.1 = k) := by
  cases h : l₁.find? (·.1 = k) with
  | none =>
    rw [List.find?_eq_none] at h
    exact (List.find?_eq_none.mpr fun x hx => h x (hp.mem_iff.mpr hx)).symm
  | some x =>
    obtain rfl : x.1 = k := by simpa using List.find?_some h
    exact (find?_key_eq_of_mem ((hp.map _).nodup_iff.mp hnd)
      (hp.mem_iff.mp (List.mem_of_find?_eq_some h))).symm

theorem GoMap.get_perm {m₁ m₂ : GoMap} (hp : m₁.entries.Perm m₂.entries) (k : String) :
    m₁.get k = m₂.get k := by
  unfold GoMap.get
  rw [find?_key_perm m₁.nodup hp]

theorem GoMap.contains_perm {m₁ m₂ : GoMap} (hp : m₁.entries.Perm m₂.entries) (k : String) :
    m₁.contains k = m₂.contains k := by
  unfold GoMap.contains
  rw [Bool.eq_iff_iff, List.any_eq_true, List.any_eq_true]
  exact exists_congr fun x => and_congr_left' hp.mem_iff

/-! ## The property loop -/

theorem unsupportedProperty_eq_none_iff (l : List (String × String)) :
    unsupportedProperty lib l = none ↔ ∀ p ∈ l,
      p.1 = lib.allowedHostsProp ∨ p.1 = lib.environmentProp ∨ p.1 = lib.resourceProp := by
  induction l with
  | nil => simp [unsupportedProperty]
  | cons p l ih =>
    obtain ⟨prop, v⟩ := p
    by_cases h : prop = lib.allowedHostsProp ∨ prop = lib.environmentProp ∨ prop = lib.resourceProp
    · simp [unsupportedProperty, h, ih]
    · simp only [unsupportedProperty, if_neg h, List.mem_cons, forall_eq_or_imp]
      simp only [reduceCtorEq, false_iff, not_and]
      exact fun h' => absurd h' h

/-- A key of the property map that the MONGODB-OIDC checks do not support. -/
def UnsupportedKey (m : GoMap) (prop : String) : Prop :=
  (∃ v, (prop, v) ∈ m.entries) ∧
    ¬ (prop = lib.allowedHostsProp ∨ prop = lib.environmentProp ∨ prop = lib.resourceProp)

theorem unsupportedProperty_mem {l : List (String × String)} {prop : String}
    (h : unsupportedProperty lib l = some prop) :
    (∃ v, (prop, v) ∈ l) ∧
      ¬ (prop = lib.allowedHostsProp ∨ prop = lib.environmentProp ∨ prop = lib.resourceProp) := by
  induction l with
  | nil => cases h
  | cons p l ih =>
    obtain ⟨q, v⟩ := p
    simp only [unsupportedProperty] at h
    split_ifs at h with hq
    · obtain ⟨⟨w, hw⟩, hn⟩ := ih h
      exact ⟨⟨w, List.mem_cons_of_mem _ hw⟩, hn⟩
    · cases h
      exact ⟨⟨v, List.mem_cons_self _ _⟩, hq⟩

theorem unsupportedProperty_eq_none_perm {l₁ l₂ : List (String × String)} (hp : l₁.Perm l₂) :
    unsupportedProperty lib l₁ = none ↔ unsupportedProperty lib l₂ = none := by
  rw [unsupportedProperty_eq_none_iff, unsupportedProperty_eq_none_iff]
  exact forall_congr' fun p => imp_congr_left hp.mem_iff

/-! ## The verdict does not depend on the iteration order of the property map -/

/-- The names of the `auth` and `connstring` packages; no URI is an SRV one. -/
def sampleValidateLib : ValidateLib where
  scheme _ := "mongodb"
  schemeMongoDBSRV := "mongodb+srv"
  serverAPIVersionValidate _ := none
  isValidServerMonitoringMode mode := mode = "auto" || mode = "stream" || mode = "poll"
  mongoDBOIDC := "MONGODB-OIDC"
  allowedHostsProp := "ALLOWED_HOSTS"
  environmentProp := "ENVIRONMENT"
  resourceProp := "TOKEN_RESOURCE"
  gcpEnvironmentValue := "gcp"
  azureEnvironmentValue := "azure"
  k8sEnvironmentValue := "k8s"
  testEnvironmentValue := "test"

theorem validate_eq :
    validate lib c = ((optionChecks lib c).findSome? id).or (oidcCheck lib c) := by
  rw [validate, List.findSome?_append]
  cases oidcCheck lib c <;> rfl

theorem validate_of_err {e : Ref} (h : c.err = some e) : validate lib c = some (.recorded e) := by
  rw [validate, optionChecks, List.cons_append, List.findSome?_cons, recordedCheck, h]; rfl

theorem optionChecks_setAuth (cred : Credential) :
    optionChecks lib (c.setAuth cred) = optionChecks lib c := by
  rfl

/-- Two chains of checks that differ only in their last branch agree, or both reach it. -/
theorem ite_congr_or {α : Type} {p : Prop} [Decidable p] {a x y x' y' : α}
    (h : x = y ∨ (x = x' ∧ y = y')) :
    (if p then a else x) = (if p then a else y) ∨
      ((if p then a else x) = x' ∧ (if p then a else y) = y') := by
  by_cases hp : p
  · exact .inl (by simp only [if_pos hp])
  · simpa only [if_neg hp] using h

theorem oidcCredentialCheck_perm (cred : Credential) {m₁ m₂ : GoMap}
    (hp : m₁.entries.Perm m₂.entries) :
    oidcCredentialCheck lib { cred with authMechanismProperties := m₁ } =
        oidcCredentialCheck lib { cred with authMechanismProperties := m₂ } ∨
      ∃ p₁ p₂, p₁ ≠ p₂ ∧ UnsupportedKey lib m₁ p₁ ∧ UnsupportedKey lib m₁ p₂ ∧
        oidcCredentialCheck lib { cred with authMechanismProperties := m₁ } =
          some (.oidcUnsupportedProperty p₁) ∧
        oidcCredentialCheck lib { cred with authMechanismProperties := m₂ } =
          some (.oidcUnsupportedProperty p₂) := by
  have henv (env : String) : environmentCheck lib { cred with authMechanismProperties := m₁ } env =
      environmentCheck lib { cred with authMechanismProperties := m₂ } env := by
    simp only [environmentCheck, GoMap.get_perm hp]
  simp only [oidcCredentialCheck, GoMap.get_perm hp, GoMap.contains_perm hp, henv]
  rcases h₁ : unsupportedProperty lib m₁.entries with _ | p₁ <;>
    rcases h₂ : unsupportedProperty lib m₂.entries with _ | p₂
  · exact .inl rfl
  · exact absurd ((unsupportedProperty_eq_none_perm lib hp).mp h₁) (by simp [h₂])
  · exact absurd ((unsupportedProperty_eq_none_perm lib hp).mpr h₂) (by simp [h₁])
  · -- both orders meet an unsupported key first, the same one or two different ones
    have hk₁ : UnsupportedKey lib m₁ p₁ := unsupportedProperty_mem lib h₁
    have hk₂ : UnsupportedKey lib m₁ p₂ := by
      obtain ⟨⟨v, hv⟩, hn⟩ := unsupportedProperty_mem lib h₂
      exact ⟨⟨v, hp.mem_iff.mpr hv⟩, hn⟩
    by_cases he : p₁ = p₂
    · subst he; exact .inl rfl
    · exact (ite_congr_or (ite_congr_or (ite_congr_or (ite_congr_or (.inr ⟨rfl, rfl⟩))))).imp id
        fun h => ⟨p₁, p₂, he, hk₁, hk₂, h⟩

/-- `Validate` does not depend on the order of the property map, but for which of two unsupported
keys it reports. -/
theorem validate_setAuth_perm (cred : Credential) {m₁ m₂ : GoMap}
    (hp : m₁.entries.Perm m₂.entries) :
    validate lib (c.setAuth { cred with authMechanismProperties := m₁ }) =
        validate lib (c.setAuth { cred with authMechanismProperties := m₂ }) ∨
      ∃ p₁ p₂, p₁ ≠ p₂ ∧ UnsupportedKey lib m₁ p₁ ∧ UnsupportedKey lib m₁ p₂ ∧
        validate lib (c.setAuth { cred with authMechanismProperties := m₁ }) =
          some (.oidcUnsupportedProperty p₁) ∧
        validate lib (c.setAuth { cred with authMechanismProperties := m₂ }) =
          some (.oidcUnsupportedProperty p₂) := by
  simp only [validate_eq, optionChecks_setAuth]
  cases (optionChecks lib c).findSome? id with
  | some e => exact .inl rfl
  | none =>
    simp only [Option.none_or, oidcCheck, ClientOptions.setAuth, ClientOptions.auth,
      ClientOptions.set_exported_self]
    split_ifs
    · exact oidcCredentialCheck_perm lib cred hp
    · exact .inl rfl

def sampleOIDCCredential : Credential :=
  ⟨"MONGODB-OIDC", .empty, "", "", "", false, none, none⟩

theorem validate_setAuth_perm_sample :
    let m₁ : GoMap := ⟨[("ENVIRONMENT", "test"), ("X", "1"), ("Y", "2")], by decide⟩
    let m₂ : GoMap := ⟨[("Y", "2"), ("ENVIRONMENT", "test"), ("X", "1")], by decide⟩
    m₁.entries.Perm m₂.entries ∧
      (validate sampleValidateLib
          (client.setAuth { sampleOIDCCredential with authMechanismProperties := m₁ }) =
        validate sampleValidateLib
          (client.setAuth { sampleOIDCCredential with authMechanismProperties := m₂ }) ∨
      ∃ p₁ p₂, p₁ ≠ p₂ ∧ UnsupportedKey sampleValidateLib m₁ p₁ ∧
        UnsupportedKey sampleValidateLib m₁ p₂ ∧
        validate sampleValidateLib
            (client.setAuth { sampleOIDCCredential with authMechanismProperties := m₁ }) =
          some (.oidcUnsupportedProperty p₁) ∧
        validate sampleValidateLib
            (client.setAuth { sampleOIDCCredential with authMechanismProperties := m₂ }) =
          some (.oidcUnsupportedProperty p₂)) :=
  have hp : List.Perm [("ENVIRONMENT", "test"), ("X", "1"), ("Y", "2")]
      [("Y", "2"), ("ENVIRONMENT", "test"), ("X", "1")] := by decide
  ⟨hp, validate_setAuth_perm sampleValidateLib client sampleOIDCCredential hp⟩

/-! ## Leaving options unset never makes them invalid -/

theorem validate_eq_none_iff : validate lib c = none ↔
    recordedCheck c = none ∧ directCheck lib c = none ∧ heartbeatCheck c = none ∧
      poolSizeCheck c = none ∧ serverAPICheck lib c = none ∧ loadBalancedCheck c = none ∧
      srvMaxHostsCheck c = none ∧ serverMonitoringModeCheck lib c = none ∧
      timeoutCheck c = none ∧ oidcCheck lib c = none := by
  simp only [validate, optionChecks, List.cons_append, List.nil_append,
    List.findSome?_eq_none_iff, List.mem_cons, List.not_mem_nil, or_false, forall_eq_or_imp,
    forall_eq, id]

/-- `c'` sets no more than `c`: what it sets, `connString` and `err` included, is `c`'s. -/
structure ClientOptions.SetsWithin (c' c : ClientOptions) : Prop where
  exported : ∀ f v, c'.exported f = some v → c.exported f = some v
  connString : ∀ v, c'.connString = some v → c.connString = some v
  err : ∀ v, c'.err = some v → c.err = some v

theorem Option.eq_none_or_eq_of_some {α : Type} {x y : Option α}
    (h : ∀ v, x = some v → y = some v) : x = none ∨ x = y := by
  cases x with
  | none => exact .inl rfl
  | some v => exact .inr (h v rfl).symm

namespace ClientOptions.SetsWithin

theorem set_none (f : Field) : (c.set f none).SetsWithin c where
  exported g v hv := by
    by_cases hg : g = f
    · subst hg; simp at hv
    · rwa [ClientOptions.set_exported_of_ne _ _ hg] at hv
  connString _ := id
  err _ := id

variable {c c' : ClientOptions} (h : c'.SetsWithin c)
include h

theorem exported_eq_or (f : Field) : c'.exported f = none ∨ c'.exported f = c.exported f :=
  Option.eq_none_or_eq_of_some (h.exported f)

theorem connString_eq_or : c'.connString = none ∨ c'.connString = c.connString :=
  Option.eq_none_or_eq_of_some h.connString

theorem err_eq_or : c'.err = none ∨ c'.err = c.err :=
  Option.eq_none_or_eq_of_some h.err

theorem hostCount_le : c'.hostCount ≤ c.hostCount := by
  unfold ClientOptions.hostCount ClientOptions.hosts
  rcases h.exported_eq_or .hosts with hx | hx <;> rw [hx]
  exact Nat.zero_le _

theorem recordedCheck_eq_none (hc : recordedCheck c = none) : recordedCheck c' = none := by
  unfold recordedCheck at *
  rcases h.err_eq_or with hx | hx
  · rw [hx]; rfl
  · rwa [hx]

theorem eq_none_of_eq_none (f : Field) (hf : c.exported f = none) : c'.exported f = none := by
  rcases h.exported_eq_or f with hx | hx
  · exact hx
  · rw [hx, hf]

theorem map_connString {β : Type} (g : Ref → β) {x : β} (hx : c'.connString.map g = some x) :
    c.connString.map g = some x := by
  obtain ⟨r, hr, rfl⟩ := Option.map_eq_some'.mp hx
  rw [h.connString r hr]
  rfl

theorem directCheck_eq_none (hc : directCheck lib c = none) : directCheck lib c' = none := by
  rw [directCheck_eq_none_iff] at hc ⊢
  intro hd
  obtain ⟨hn, hs⟩ := hc (h.exported .direct true hd)
  exact ⟨h.hostCount_le.trans hn, fun hs' => hs (h.map_connString _ hs')⟩

theorem heartbeatCheck_eq_none (hc : heartbeatCheck c = none) : heartbeatCheck c' = none := by
  unfold heartbeatCheck ClientOptions.heartbeatInterval at *
  rcases h.exported_eq_or .heartbeatInterval with hx | hx
  · rw [hx]
  · rwa [hx]

theorem poolSizeCheck_eq_none (hc : poolSizeCheck c = none) : poolSizeCheck c' = none := by
  unfold poolSizeCheck ClientOptions.maxPoolSize ClientOptions.minPoolSize at *
  rcases h.exported_eq_or .maxPoolSize with hx | hx <;>
    rcases h.exported_eq_or .minPoolSize with hy | hy <;> rw [hx, hy] <;>
    first | exact hc | (split <;> simp_all)

theorem serverAPICheck_eq_none (hc : serverAPICheck lib c = none) :
    serverAPICheck lib c' = none := by
  unfold serverAPICheck ClientOptions.serverAPIOptions at *
  rcases h.exported_eq_or .serverAPIOptions with hx | hx
  · rw [hx]
  · rwa [hx]

theorem loadBalancedCheck_eq_none (hc : loadBalancedCheck c = none) :
    loadBalancedCheck c' = none := by
  rw [loadBalancedCheck_eq_none_iff] at hc ⊢
  intro hlb
  obtain ⟨hn, hr, hd⟩ := hc (h.exported .loadBalanced true hlb)
  exact ⟨h.hostCount_le.trans hn, h.eq_none_of_eq_none .replicaSet hr,
    fun hd' => hd (h.exported .direct true hd')⟩

theorem srvMaxHostsCheck_eq_none (hc : srvMaxHostsCheck c = none) :
    srvMaxHostsCheck c' = none := by
  rw [srvMaxHostsCheck_eq_none_iff] at hc ⊢
  intro n hn hpos
  obtain ⟨hr, hlb⟩ := hc n (h.exported .srvMaxHosts n hn) hpos
  exact ⟨h.eq_none_of_eq_none .replicaSet hr, fun hlb' => hlb (h.exported .loadBalanced true hlb')⟩

theorem serverMonitoringModeCheck_eq_none (hc : serverMonitoringModeCheck lib c = none) :
    serverMonitoringModeCheck lib c' = none := by
  unfold serverMonitoringModeCheck ClientOptions.serverMonitoringMode at *
  rcases h.exported_eq_or .serverMonitoringMode with hx | hx
  · rw [hx]
  · rwa [hx]

theorem timeoutCheck_eq_none (hc : timeoutCheck c = none) : timeoutCheck c' = none := by
  unfold timeoutCheck ClientOptions.timeout at *
  rcases h.exported_eq_or .timeout with hx | hx
  · rw [hx]
  · rwa [hx]

theorem oidcCheck_eq_none (hc : oidcCheck lib c = none) : oidcCheck lib c' = none := by
  unfold oidcCheck ClientOptions.auth at *
  rcases h.exported_eq_or .auth with hx | hx
  · rw [hx]
  · rwa [hx]

/-- `Validate` rejects options only for what they set: unsetting fields keeps them accepted. -/
theorem validate_eq_none (hc : validate lib c = none) : validate lib c' = none := by
  rw [validate_eq_none_iff] at hc ⊢
  obtain ⟨h1, h2, h3, h4, h5, h6, h7, h8, h9, h10⟩ := hc
  exact ⟨h.recordedCheck_eq_none h1, h.directCheck_eq_none lib h2, h.heartbeatCheck_eq_none h3,
    h.poolSizeCheck_eq_none h4, h.serverAPICheck_eq_none lib h5, h.loadBalancedCheck_eq_none h6,
    h.srvMaxHostsCheck_eq_none h7, h.serverMonitoringModeCheck_eq_none lib h8,
    h.timeoutCheck_eq_none h9, h.oidcCheck_eq_none lib h10⟩

end ClientOptions.SetsWithin

theorem validate_eq_none_sample :
    validate sampleValidateLib (client.setDirect true) = none ∧
      validate sampleValidateLib ((client.setDirect true).set .direct none) = none :=
  have hc : validate sampleValidateLib (client.setDirect true) = none := by decide
  ⟨hc, (ClientOptions.SetsWithin.set_none (client.setDirect true) .direct).validate_eq_none
    sampleValidateLib hc⟩

end MongoDriver.Options
