import Mathlib.Logic.Function.Basic

/-! # Merging client options

`ClientOptions` as `MergeClientOptions` sees it through reflection. Every exported field is a
pointer, a slice, an interface or a map-like value, so its zero value is nil and `IsZero` asks
whether it is nil. The loop folds the non-nil arguments into `Client()`, the last non-nil value
of each field winning; the one-argument fast path returns its argument as it is, so it skips
the default HTTP client that `Client()` sets.
-/

namespace MongoDriver.Options

/-- A non-nil value the options code only tests against nil and copies, kept by identity. -/
structure Ref where
  addr : Nat
  deriving DecidableEq, Repr

/-- A Go `map[string]string`, its entries in one of the orders Go may iterate them. -/
structure GoMap where
  entries : List (String × String)
  nodup : (entries.map Prod.fst).Nodup

instance : DecidableEq GoMap := fun a b =>
  decidable_of_iff (a.entries = b.entries) (by cases a; cases b; simp)

def GoMap.get (m : GoMap) (k : String) : String :=
  ((m.entries.find? (·.1 = k)).map Prod.snd).getD ""

def GoMap.contains (m : GoMap) (k : String) : Bool := m.entries.any (·.1 = k)

def GoMap.empty : GoMap := ⟨[], List.nodup_nil⟩

/-- `Credential`, with each OIDC callback kept by whether it is nil. -/
structure Credential where
  authMechanism : String
  authMechanismProperties : GoMap
  authSource : String
  username : String
  password : String
  passwordSet : Bool
  oidcMachineCallback : Option Ref
  oidcHumanCallback : Option Ref
  deriving DecidableEq

inductive Field
  | appName | auth | autoEncryptionOptions | connectTimeout | compressors | dialer | direct
  | disableOCSPEndpointCheck | driverInfo | heartbeatInterval | hosts | httpClient
  | loadBalanced | localThreshold | loggerOptions | maxConnIdleTime | maxPoolSize | minPoolSize
  | maxConnecting | poolMonitor | monitor | serverMonitor | readConcern | readPreference
  | bsonOptions | registry | replicaSet | retryReads | retryWrites | serverAPIOptions
  | serverMonitoringMode | serverSelectionTimeout | srvMaxHosts | srvServiceName | timeout
  | tlsConfig | tlcpConfig | writeConcern | zlibLevel | zstdLevel | crypt | deployment | custom
  deriving DecidableEq, Repr

/-- What a non-nil value of each field holds. -/
def Field.Value : Field → Type
  | .appName | .replicaSet | .serverMonitoringMode | .srvServiceName => String
  | .auth => Credential
  | .direct | .disableOCSPEndpointCheck | .loadBalanced | .retryReads | .retryWrites => Bool
  | .connectTimeout | .heartbeatInterval | .localThreshold | .maxConnIdleTime
  | .serverSelectionTimeout | .timeout => Int
  | .maxPoolSize | .minPoolSize | .maxConnecting => UInt64
  | .srvMaxHosts | .zlibLevel | .zstdLevel => Int
  | .compressors | .hosts => List String
  | _ => Ref

/-- `ClientOptions`: each exported field is nil (`none`) or set. -/
@[ext]
structure ClientOptions where
  exported : (f : Field) → Option f.Value
  connString : Option Ref
  err : Option Ref

def isZero {α : Type} (v : Option α) : Bool := v.isNone

def ClientOptions.empty : ClientOptions := ⟨fun _ => none, none, none⟩

def ClientOptions.setHTTPClient (c : ClientOptions) (client : Option Ref) : ClientOptions :=
  { c with exported := Function.update c.exported .httpClient client }

/-- Modelled from the spec: `httputil.DefaultHTTPClient`, one fixed non-nil reference. -/
def defaultHTTPClient : Ref := ⟨0⟩

def client : ClientOptions := ClientOptions.empty.setHTTPClient (some defaultHTTPClient)

/-- One pass of the `range opts` loop of `MergeClientOptions`. -/
def mergeInto (c : ClientOptions) : Option ClientOptions → ClientOptions
  | none => c
  | some opt =>
    let c := { c with
      exported := fun f => if !isZero (opt.exported f) then opt.exported f else c.exported f }
    let c := if opt.err.isSome then { c with err := opt.err } else c
    if opt.connString.isSome then { c with connString := opt.connString } else c

def mergeClientOptions : List (Option ClientOptions) → ClientOptions
  | [none] => client
  | [some opt] => opt
  | opts => opts.foldl mergeInto client

def lastSet {α : Type} (get : ClientOptions → Option α) (opts : List (Option ClientOptions)) :
    Option α :=
  (opts.filterMap fun o => o.bind get).getLast?

/-- Last one wins: each field from the last argument that sets it, else from `Client()`. -/
def lastOneWins (opts : List (Option ClientOptions)) : ClientOptions where
  exported f := (lastSet (·.exported f) opts).or (client.exported f)
  connString := lastSet (·.connString) opts
  err := lastSet (·.err) opts

@[simp] theorem lastSet_nil {α : Type} (get : ClientOptions → Option α) :
    lastSet get [] = none :=
  rfl

theorem lastSet_cons {α : Type} (get : ClientOptions → Option α) (o : Option ClientOptions)
    (opts : List (Option ClientOptions)) :
    lastSet get (o :: opts) = (lastSet get opts).or (o.bind get) := by
  unfold lastSet
  rw [List.filterMap_cons]
  cases o.bind get with
  | none => cases (opts.filterMap fun o => o.bind get).getLast? <;> rfl
  | some v => rw [List.getLast?_cons]; cases (opts.filterMap fun o => o.bind get).getLast? <;> rfl

theorem if_isZero_eq_or {α : Type} (x y : Option α) : (if !isZero x then x else y) = x.or y := by
  cases x <;> rfl

@[simp] theorem mergeInto_exported (c : ClientOptions) (o : Option ClientOptions) (f : Field) :
    (mergeInto c o).exported f = (o.bind (·.exported f)).or (c.exported f) := by
  cases o with
  | none => rfl
  | some opt =>
    rcases opt with ⟨e, _ | _, _ | _⟩ <;> exact if_isZero_eq_or _ _

@[simp] theorem mergeInto_err (c : ClientOptions) (o : Option ClientOptions) :
    (mergeInto c o).err = (o.bind (·.err)).or c.err := by
  rcases o with _ | ⟨e, _ | _, _ | _⟩ <;> rfl

@[simp] theorem mergeInto_connString (c : ClientOptions) (o : Option ClientOptions) :
    (mergeInto c o).connString = (o.bind (·.connString)).or c.connString := by
  rcases o with _ | ⟨e, _ | _, _ | _⟩ <;> rfl

theorem get_foldl_mergeInto {α : Type} (get : ClientOptions → Option α)
    (hget : ∀ c o, get (mergeInto c o) = (o.bind get).or (get c))
    (opts : List (Option ClientOptions)) (c : ClientOptions) :
    get (opts.foldl mergeInto c) = (lastSet get opts).or (get c) := by
  induction opts generalizing c with
  | nil => rfl
  | cons o opts ih => rw [List.foldl_cons, ih, hget, lastSet_cons, Option.or_assoc]

theorem mergeClientOptions_eq_foldl {opts : List (Option ClientOptions)}
    (h : ∀ o, opts ≠ [some o]) : mergeClientOptions opts = opts.foldl mergeInto client := by
  match opts, h with
  | [none], _ => rfl
  | [some o], h => exact absurd rfl (h o)
  | [], _ => rfl
  | o :: _ :: _, _ => cases o <;> rfl

theorem mergeClientOptions_eq_lastOneWins {opts : List (Option ClientOptions)}
    (h : ∀ o, opts ≠ [some o]) : mergeClientOptions opts = lastOneWins opts := by
  rw [mergeClientOptions_eq_foldl h]
  ext1
  · funext f
    exact get_foldl_mergeInto (·.exported f) (mergeInto_exported · · f) opts client
  · exact (get_foldl_mergeInto _ mergeInto_connString opts client).trans Option.or_none
  · exact (get_foldl_mergeInto _ mergeInto_err opts client).trans Option.or_none

theorem mergeClientOptions_err (opts : List (Option ClientOptions)) :
    (mergeClientOptions opts).err = lastSet (·.err) opts := by
  by_cases hs : ∃ o, opts = [some o]
  · obtain ⟨o, rfl⟩ := hs
    rw [lastSet_cons]; rfl
  · exact congrArg (·.err) (mergeClientOptions_eq_lastOneWins fun o ho => hs ⟨o, ho⟩)

theorem client_exported_of_ne {f : Field} (h : f ≠ .httpClient) : client.exported f = none := by
  simp [client, ClientOptions.setHTTPClient, ClientOptions.empty, Function.update_noteq h]

theorem lastOneWins_single_eq_iff (o : ClientOptions) :
    lastOneWins [some o] = o ↔ (o.exported .httpClient).isSome := by
  have hlast {α : Type} (get : ClientOptions → Option α) : lastSet get [some o] = get o := by
    rw [lastSet_cons]; rfl
  constructor
  · intro h
    rw [← h]
    show ((lastSet _ [some o]).or (client.exported .httpClient)).isSome
    cases lastSet (·.exported .httpClient) [some o] <;> rfl
  · intro h
    ext1
    · funext f
      simp only [lastOneWins, hlast]
      by_cases hf : f = .httpClient
      · subst hf; exact Option.or_of_isSome h
      · rw [client_exported_of_ne hf, Option.or_none]
    · exact hlast _
    · exact hlast _

/-- `MergeClientOptions` is last one wins except on one non-nil argument without HTTP client. -/
theorem mergeClientOptions_last_one_wins_iff :
    (∀ opts, mergeClientOptions opts = lastOneWins opts ↔
      ∀ o, opts = [some o] → (o.exported .httpClient).isSome) ∧
    mergeClientOptions [some .empty] ≠ mergeClientOptions [some .empty, none] := by
  refine ⟨fun opts => ?_, fun h => ?_⟩
  · by_cases hs : ∃ o, opts = [some o]
    · obtain ⟨o, rfl⟩ := hs
      rw [show mergeClientOptions [some o] = o from rfl, eq_comm, lastOneWins_single_eq_iff]
      simp
    · have hs (o : ClientOptions) : opts ≠ [some o] := fun ho => hs ⟨o, ho⟩
      exact iff_of_true (mergeClientOptions_eq_lastOneWins hs) fun o ho => absurd ho (hs o)
  · exact absurd (congrArg (fun c => (c.exported .httpClient).isSome) h) (by decide)

end MongoDriver.Options
