import MongoDriver.Options.Certificates
import MongoDriver.Options.Validate
import MongoDriver.Options.X509

/-! # Applying a connection string

`ApplyURI` records the error of `setURIOpts` in `err`, and does nothing once an error is
recorded. `setURIOpts` parses the URI and then writes the options the connection string sets,
in the order of the source: the statements before the read preference, the read preference,
the statements up to TLS, the TLS configuration, and the rest. A read-preference or TLS error
returns at once, with what was written before it kept, the connection string included.
-/

namespace MongoDriver.Options

inductive ConnectMode
  | autoConnect
  | singleConnect
  deriving DecidableEq, Repr

/-- The fields of `connstring.ConnString` that `setURIOpts` and `GetURI` read. -/
structure ConnString where
  original : String := ""
  appName : String := ""
  authMechanism : String := ""
  authMechanismProperties : GoMap := .empty
  authSource : String := ""
  username : String := ""
  password : String := ""
  passwordSet : Bool := false
  connectSet : Bool := false
  connect : ConnectMode := .autoConnect
  directConnectionSet : Bool := false
  directConnection : Bool := false
  connectTimeoutSet : Bool := false
  connectTimeout : Int := 0
  compressors : List String := []
  heartbeatIntervalSet : Bool := false
  heartbeatInterval : Int := 0
  hosts : Option (List String) := none
  loadBalancedSet : Bool := false
  loadBalanced : Bool := false
  localThresholdSet : Bool := false
  localThreshold : Int := 0
  maxConnIdleTimeSet : Bool := false
  maxConnIdleTime : Int := 0
  maxPoolSizeSet : Bool := false
  maxPoolSize : UInt64 := 0
  minPoolSizeSet : Bool := false
  minPoolSize : UInt64 := 0
  maxConnectingSet : Bool := false
  maxConnecting : UInt64 := 0
  readConcernLevel : String := ""
  readPreference : String := ""
  readPreferenceTagSets : List GoMap := []
  maxStalenessSet : Bool := false
  maxStaleness : Int := 0
  retryWritesSet : Bool := false
  retryWrites : Bool := false
  retryReadsSet : Bool := false
  retryReads : Bool := false
  replicaSet : String := ""
  serverSelectionTimeoutSet : Bool := false
  serverSelectionTimeout : Int := 0
  srvMaxHosts : Int := 0
  srvServiceName : String := ""
  ssl : Bool := false
  sslCaFileSet : Bool := false
  sslCaFile : String := ""
  sslInsecure : Bool := false
  sslClientCertificateKeyPasswordSet : Bool := false
  sslClientCertificateKeyPassword : Option String := none
  sslClientCertificateKeyFileSet : Bool := false
  sslClientCertificateKeyFile : String := ""
  sslCertificateFileSet : Bool := false
  sslCertificateFile : String := ""
  sslPrivateKeyFileSet : Bool := false
  sslPrivateKeyFile : String := ""
  jSet : Bool := false
  j : Bool := false
  wString : String := ""
  wNumberSet : Bool := false
  wNumber : Int := 0
  zlibLevelSet : Bool := false
  zlibLevel : Int := 0
  zstdLevelSet : Bool := false
  zstdLevel : Int := 0
  sslDisableOCSPEndpointCheckSet : Bool := false
  sslDisableOCSPEndpointCheck : Bool := false
  timeoutSet : Bool := false
  timeout : Int := 0

inductive ReadPrefOption
  | withTagSets (tagSets : List Ref)
  | withMaxStaleness (maxStaleness : Int)

inductive WValue
  | str (w : String)
  | num (w : Int)

structure WriteConcern where
  w : Option WValue
  journal : Option Bool

/-- What `setURIOpts` uses from other packages. -/
structure URILib where
  parseAndValidate : String → Except Ref Ref
  connStringOf : Ref → ConnString
  hasAuthParameters : ConnString → Bool
  defaultZlibLevel : Int
  defaultZstdLevel : Int
  newReadConcern : String → Ref
  newTagSetsFromMaps : List GoMap → List Ref
  modeFromString : String → Except Ref Ref
  readprefNew : Ref → List ReadPrefOption → Option Ref × Option Ref
  cert : CertLib
  intSize : Nat
  toLower : String → String
  newTLSConfig : TLSConfig → Ref
  newWriteConcern : WriteConcern → Ref
  newCertError : CertError → Ref

def URILib.certError (lib : URILib) : CertError → Ref
  | .lib err => err
  | err => lib.newCertError err

def stringSliceContains : List String → String → Bool
  | [], _ => false
  | str :: source, target => if str = target then true else stringSliceContains source target

namespace ClientOptions

/-- `if cond { c.F = v }`. -/
def setIf (c : ClientOptions) (cond : Bool) (f : Field) (v : Option f.Value) : ClientOptions :=
  if cond then c.set f v else c

@[simp] theorem setIf_exported_self (c : ClientOptions) (cond : Bool) (f : Field)
    (v : Option f.Value) : (c.setIf cond f v).exported f = if cond then v else c.exported f := by
  cases cond <;> simp [setIf]

@[simp] theorem setIf_exported_of_ne (c : ClientOptions) (cond : Bool) {f g : Field}
    (v : Option f.Value) (h : g ≠ f) : (c.setIf cond f v).exported g = c.exported g := by
  cases cond <;> simp [setIf, h]

theorem setIf_set_comm (c : ClientOptions) (cond : Bool) {f g : Field} (h : f ≠ g)
    (v : Option f.Value) (w : Option g.Value) :
    (c.set f v).setIf cond g w = (c.setIf cond g w).set f v := by
  cases cond
  · rfl
  · exact c.set_comm h v w

@[simp] theorem setIf_connString (c : ClientOptions) (cond : Bool) (f : Field)
    (v : Option f.Value) : (c.setIf cond f v).connString = c.connString := by
  cases cond <;> rfl

@[simp] theorem setIf_err (c : ClientOptions) (cond : Bool) (f : Field) (v : Option f.Value) :
    (c.setIf cond f v).err = c.err := by
  cases cond <;> rfl

end ClientOptions

variable (lib : URILib)

def setCompressorsStep (cs : ConnString) (opts : ClientOptions) : ClientOptions :=
  if cs.compressors.length > 0 then
    let opts := opts.set .compressors (some cs.compressors)
    let opts := opts.setIf (stringSliceContains cs.compressors "zlib") .zlibLevel
      (some lib.defaultZlibLevel)
    opts.setIf (stringSliceContains cs.compressors "zstd") .zstdLevel (some lib.defaultZstdLevel)
  else opts

/-- The statements of `setURIOpts` from the application name to the read concern. -/
def setURIOptsHead (cs : ConnString) (opts : ClientOptions) : ClientOptions :=
  let cred : Credential := ⟨cs.authMechanism, cs.authMechanismProperties, cs.authSource,
    cs.username, cs.password, cs.passwordSet, none, none⟩
  opts
  |>.setIf (cs.appName ≠ "") .appName (some cs.appName)
  |>.setIf (lib.hasAuthParameters cs) .auth (some cred)
  |>.setIf cs.connectSet .direct (some (decide (cs.connect = .singleConnect)))
  |>.setIf cs.directConnectionSet .direct (some cs.directConnection)
  |>.setIf cs.connectTimeoutSet .connectTimeout (some cs.connectTimeout)
  |> setCompressorsStep lib cs
  |>.setIf cs.heartbeatIntervalSet .heartbeatInterval (some cs.heartbeatInterval)
  |>.set .hosts cs.hosts
  |>.setIf cs.loadBalancedSet .loadBalanced (some cs.loadBalanced)
  |>.setIf cs.localThresholdSet .localThreshold (some cs.localThreshold)
  |>.setIf cs.maxConnIdleTimeSet .maxConnIdleTime (some cs.maxConnIdleTime)
  |>.setIf cs.maxPoolSizeSet .maxPoolSize (some cs.maxPoolSize)
  |>.setIf cs.minPoolSizeSet .minPoolSize (some cs.minPoolSize)
  |>.setIf cs.maxConnectingSet .maxConnecting (some cs.maxConnecting)
  |>.setIf (cs.readConcernLevel ≠ "") .readConcern (some (lib.newReadConcern cs.readConcernLevel))

/-- The read preference; `readpref.New`'s pointer is stored even when it fails. -/
def readPreferenceStep (cs : ConnString) (opts : ClientOptions) : ClientOptions × Option Ref :=
  if cs.readPreference ≠ "" ∨ cs.readPreferenceTagSets.length > 0 ∨ cs.maxStalenessSet then
    let tagSets := lib.newTagSetsFromMaps cs.readPreferenceTagSets
    let readPrefOpts := (if tagSets.length > 0 then [.withTagSets tagSets] else []) ++
      (if cs.maxStaleness ≠ 0 then [.withMaxStaleness cs.maxStaleness] else [])
    match lib.modeFromString cs.readPreference with
    | .error err => (opts, some err)
    | .ok mode =>
      let (readPreference, err) := lib.readprefNew mode readPrefOpts
      (opts.set .readPreference readPreference, err)
  else (opts, none)

/-- The statements of `setURIOpts` from the retryable writes to the SRV service name. -/
def setURIOptsMiddle (cs : ConnString) (opts : ClientOptions) : ClientOptions :=
  opts
  |>.setIf cs.retryWritesSet .retryWrites (some cs.retryWrites)
  |>.setIf cs.retryReadsSet .retryReads (some cs.retryReads)
  |>.setIf (cs.replicaSet ≠ "") .replicaSet (some cs.replicaSet)
  |>.setIf cs.serverSelectionTimeoutSet .serverSelectionTimeout (some cs.serverSelectionTimeout)
  |>.setIf (cs.srvMaxHosts ≠ 0) .srvMaxHosts (some cs.srvMaxHosts)
  |>.setIf (cs.srvServiceName ≠ "") .srvServiceName (some cs.srvServiceName)

/-- The client certificate: from the concatenated file, else from the separate files, the
certificate file passed as `keyFile` and the private key file as `certFile`. -/
def clientCertStep (cs : ConnString) (tlsConfig : TLSConfig) (keyPasswd : String) :
    Except CertError (TLSConfig × String) :=
  if cs.sslClientCertificateKeyFileSet then
    (addClientCertFromConcatenatedFile lib.cert tlsConfig cs.sslClientCertificateKeyFile
      keyPasswd).get (addClientCertFromConcatenatedFile_isSome _ _ _)
  else if cs.sslCertificateFileSet || cs.sslPrivateKeyFileSet then
    (addClientCertFromSeparateFiles lib.cert lib.intSize tlsConfig cs.sslCertificateFile
      cs.sslPrivateKeyFile keyPasswd).get (addClientCertFromSeparateFiles_isSome _ _ _ _ _)
  else .ok (tlsConfig, "")

/-- The `if connString.SSL` block. -/
def tlsStep (cs : ConnString) (opts : ClientOptions) : ClientOptions × Option Ref :=
  if cs.ssl then
    let tlsConfig := TLSConfig.new
    let tlsConfig :=
      if cs.sslCaFileSet then addCACertFromFile lib.cert tlsConfig cs.sslCaFile else .ok tlsConfig
    match tlsConfig with
    | .error err => (opts, some (lib.certError err))
    | .ok tlsConfig =>
      let tlsConfig := if cs.sslInsecure then { tlsConfig with insecureSkipVerify := true }
        else tlsConfig
      let keyPasswd := if cs.sslClientCertificateKeyPasswordSet then
        cs.sslClientCertificateKeyPassword.getD "" else ""
      match clientCertStep lib cs tlsConfig keyPasswd with
      | .error err => (opts, some (lib.certError err))
      | .ok (tlsConfig, x509Subject) =>
        let opts := setX509Username lib.toLower opts x509Subject
        (opts.set .tlsConfig (some (lib.newTLSConfig tlsConfig)), none)
  else (opts, none)

def writeConcernW (cs : ConnString) : Option WValue :=
  if cs.wString.length > 0 then some (.str cs.wString)
  else if cs.wNumberSet then some (.num cs.wNumber) else none

/-- The statements of `setURIOpts` from the write concern to the timeout. -/
def setURIOptsTail (cs : ConnString) (opts : ClientOptions) : ClientOptions :=
  let wc : WriteConcern := ⟨writeConcernW cs, if cs.jSet then some cs.j else none⟩
  opts
  |>.setIf (cs.jSet || cs.wString ≠ "" || cs.wNumberSet) .writeConcern
    (some (lib.newWriteConcern wc))
  |>.setIf cs.zlibLevelSet .zlibLevel (some cs.zlibLevel)
  |>.setIf cs.zstdLevelSet .zstdLevel (some cs.zstdLevel)
  |>.setIf cs.sslDisableOCSPEndpointCheckSet .disableOCSPEndpointCheck
    (some cs.sslDisableOCSPEndpointCheck)
  |>.setIf cs.timeoutSet .timeout (some cs.timeout)

/-- `setURIOpts`: the options as the call leaves them, and the error it returns. -/
def setURIOpts (uri : String) (opts : ClientOptions) : ClientOptions × Option Ref :=
  match lib.parseAndValidate uri with
  | .error err => (opts, some err)
  | .ok connString =>
    let cs := lib.connStringOf connString
    let opts := setURIOptsHead lib cs { opts with connString := some connString }
    match readPreferenceStep lib cs opts with
    | (opts, some err) => (opts, some err)
    | (opts, none) =>
      match tlsStep lib cs (setURIOptsMiddle cs opts) with
      | (opts, some err) => (opts, some err)
      | (opts, none) => (setURIOptsTail lib cs opts, none)

def applyURI (uri : String) (c : ClientOptions) : ClientOptions :=
  if c.err.isSome then c
  else
    let (c, err) := setURIOpts lib uri c
    { c with err := err }

def getURI (c : ClientOptions) : String :=
  match c.connString with
  | some connString => (lib.connStringOf connString).original
  | none => ""

/-! ## What each statement writes -/

def headField : Field → Bool
  | .appName | .auth | .direct | .connectTimeout | .compressors | .zlibLevel | .zstdLevel
  | .heartbeatInterval | .hosts | .loadBalanced | .localThreshold | .maxConnIdleTime
  | .maxPoolSize | .minPoolSize | .maxConnecting | .readConcern => true
  | _ => false

def middleField : Field → Bool
  | .retryWrites | .retryReads | .replicaSet | .serverSelectionTimeout | .srvMaxHosts
  | .srvServiceName => true
  | _ => false

def tailField : Field → Bool
  | .writeConcern | .zlibLevel | .zstdLevel | .disableOCSPEndpointCheck | .timeout => true
  | _ => false

/-- The fields that `setURIOpts` may write. -/
def uriField (f : Field) : Bool :=
  headField f || f = .readPreference || middleField f || f = .auth || f = .tlsConfig ||
    tailField f

section Writes

variable (W : Field → Bool) {f : Field} (hf : W f = false)
include hf

theorem set_set_of_write (c : ClientOptions) {g : Field} (hg : W g = true) (v : Option f.Value)
    (w : Option g.Value) : (c.set f v).set g w = (c.set g w).set f v :=
  c.set_comm (fun h => by subst h; simp_all) v w

theorem setIf_set_of_write (c : ClientOptions) {g : Field} (hg : W g = true) (cond : Bool)
    (v : Option f.Value) (w : Option g.Value) :
    (c.set f v).setIf cond g w = (c.setIf cond g w).set f v :=
  c.setIf_set_comm cond (fun h => by subst h; simp_all) v w

end Writes

section Frame

variable {lib} {f : Field} (v : Option f.Value)

/-! Each group of statements commutes with the setter of a field it does not write, and keeps
that field. -/

theorem setCompressorsStep_set (hf : headField f = false) (cs : ConnString) (c : ClientOptions) :
    setCompressorsStep lib cs (c.set f v) = (setCompressorsStep lib cs c).set f v := by
  unfold setCompressorsStep
  split
  · simp (disch := decide) only [setIf_set_of_write headField hf, set_set_of_write headField hf]
  · rfl

theorem setURIOptsHead_set (hf : headField f = false) (cs : ConnString) (c : ClientOptions) :
    setURIOptsHead lib cs (c.set f v) = (setURIOptsHead lib cs c).set f v := by
  simp (disch := decide) only [setURIOptsHead, setIf_set_of_write headField hf,
    set_set_of_write headField hf, setCompressorsStep_set v hf]

theorem readPreferenceStep_set (hf : f ≠ .readPreference) (cs : ConnString) (c : ClientOptions) :
    readPreferenceStep lib cs (c.set f v) =
      ((readPreferenceStep lib cs c).1.set f v, (readPreferenceStep lib cs c).2) := by
  unfold readPreferenceStep
  by_cases hc : cs.readPreference ≠ "" ∨ cs.readPreferenceTagSets.length > 0 ∨ cs.maxStalenessSet
  · rw [if_pos hc, if_pos hc]
    dsimp only
    cases lib.modeFromString cs.readPreference with
    | error err => rfl
    | ok mode => exact congrArg (·, _) (c.set_comm hf v _)
  · rw [if_neg hc, if_neg hc]

theorem setURIOptsMiddle_set (hf : middleField f = false) (cs : ConnString) (c : ClientOptions) :
    setURIOptsMiddle cs (c.set f v) = (setURIOptsMiddle cs c).set f v := by
  simp (disch := decide) only [setURIOptsMiddle, setIf_set_of_write middleField hf]

theorem setX509Username_set (hf : f ≠ .auth) (toLower : String → String) (c : ClientOptions)
    (x509Subject : String) :
    setX509Username toLower (c.set f v) x509Subject =
      (setX509Username toLower c x509Subject).set f v := by
  unfold setX509Username
  rw [c.set_exported_of_ne v (Ne.symm hf)]
  split
  · split_ifs
    · exact c.set_comm hf v _
    · rfl
  · rfl

theorem tlsStep_set (hauth : f ≠ .auth) (htls : f ≠ .tlsConfig) (cs : ConnString)
    (c : ClientOptions) :
    tlsStep lib cs (c.set f v) = ((tlsStep lib cs c).1.set f v, (tlsStep lib cs c).2) := by
  unfold tlsStep
  split
  · dsimp only
    split
    · rfl
    · split
      · rfl
      · rw [setX509Username_set v hauth]
        exact congrArg (·, none) (ClientOptions.set_comm _ htls v _)
  · rfl

theorem setURIOptsTail_set (hf : tailField f = false) (cs : ConnString) (c : ClientOptions) :
    setURIOptsTail lib cs (c.set f v) = (setURIOptsTail lib cs c).set f v := by
  simp (disch := decide) only [setURIOptsTail, setIf_set_of_write tailField hf]

theorem exported_of_set_comm {F : ClientOptions → ClientOptions}
    (h : ∀ (c : ClientOptions) (v : Option f.Value), F (c.set f v) = (F c).set f v)
    (c : ClientOptions) : (F c).exported f = c.exported f := by
  conv_lhs => rw [← c.set_exported_eq_self f, h]
  exact ClientOptions.set_exported_self _ _ _

theorem setCompressorsStep_exported_of_ne (h₁ : f ≠ .compressors) (h₂ : f ≠ .zlibLevel)
    (h₃ : f ≠ .zstdLevel) (cs : ConnString) (opts : ClientOptions) :
    (setCompressorsStep lib cs opts).exported f = opts.exported f := by
  unfold setCompressorsStep
  split
  · simp [h₁, h₂, h₃]
  · rfl

theorem setURIOptsHead_exported (hf : headField f = false) (cs : ConnString)
    (opts : ClientOptions) : (setURIOptsHead lib cs opts).exported f = opts.exported f :=
  exported_of_set_comm (fun c v => setURIOptsHead_set v hf cs c) opts

theorem readPreferenceStep_exported (hf : f ≠ .readPreference) (cs : ConnString)
    (opts : ClientOptions) : (readPreferenceStep lib cs opts).1.exported f = opts.exported f :=
  exported_of_set_comm (F := fun c => (readPreferenceStep lib cs c).1)
    (fun c v => congrArg Prod.fst (readPreferenceStep_set v hf cs c)) opts

theorem setURIOptsMiddle_exported (hf : middleField f = false) (cs : ConnString)
    (opts : ClientOptions) : (setURIOptsMiddle cs opts).exported f = opts.exported f :=
  exported_of_set_comm (fun c v => setURIOptsMiddle_set v hf cs c) opts

theorem tlsStep_exported (hauth : f ≠ .auth) (htls : f ≠ .tlsConfig) (cs : ConnString)
    (opts : ClientOptions) : (tlsStep lib cs opts).1.exported f = opts.exported f :=
  exported_of_set_comm (F := fun c => (tlsStep lib cs c).1)
    (fun c v => congrArg Prod.fst (tlsStep_set v hauth htls cs c)) opts

theorem setURIOptsTail_exported (hf : tailField f = false) (cs : ConnString)
    (opts : ClientOptions) : (setURIOptsTail lib cs opts).exported f = opts.exported f :=
  exported_of_set_comm (fun c v => setURIOptsTail_set v hf cs c) opts

theorem setURIOpts_of_parse {uri : String} {connString : Ref}
    (hp : lib.parseAndValidate uri = .ok connString) (opts : ClientOptions) :
    let cs := lib.connStringOf connString
    let head := setURIOptsHead lib cs { opts with connString := some connString }
    setURIOpts lib uri opts =
      match readPreferenceStep lib cs head with
      | (opts, some err) => (opts, some err)
      | (opts, none) =>
        match tlsStep lib cs (setURIOptsMiddle cs opts) with
        | (opts, some err) => (opts, some err)
        | (opts, none) => (setURIOptsTail lib cs opts, none) := by
  simp only [setURIOpts, hp]

theorem setURIOpts_of_steps {uri : String} {connString : Ref}
    (hp : lib.parseAndValidate uri = .ok connString) (opts : ClientOptions)
    (P : ClientOptions → Prop)
    (hhead : P (setURIOptsHead lib (lib.connStringOf connString)
      { opts with connString := some connString }))
    (hrp : ∀ o, P o → P (readPreferenceStep lib (lib.connStringOf connString) o).1)
    (hm : ∀ o, P o → P (setURIOptsMiddle (lib.connStringOf connString) o))
    (htls : ∀ o, P o → P (tlsStep lib (lib.connStringOf connString) o).1)
    (ht : ∀ o, P o → P (setURIOptsTail lib (lib.connStringOf connString) o)) :
    P (setURIOpts lib uri opts).1 := by
  rw [setURIOpts_of_parse hp]
  have h1 := hrp _ hhead
  split
  · rename_i h; rw [h] at h1; exact h1
  rename_i opts' h
  rw [h] at h1
  have h2 := htls _ (hm _ h1)
  split
  · rename_i h'; rw [h'] at h2; exact h2
  · rename_i h'; rw [h'] at h2; exact ht _ h2

theorem setURIOpts_exported_of_head {uri : String} {connString : Ref}
    (hp : lib.parseAndValidate uri = .ok connString) (opts : ClientOptions)
    (hrp : f ≠ .readPreference) (hm : middleField f = false) (hauth : f ≠ .auth)
    (htls : f ≠ .tlsConfig) (ht : tailField f = false) :
    (setURIOpts lib uri opts).1.exported f =
      (setURIOptsHead lib (lib.connStringOf connString)
        { opts with connString := some connString }).exported f :=
  setURIOpts_of_steps hp opts (fun o => o.exported f = _) rfl
    (fun o h => (readPreferenceStep_exported hrp _ o).trans h)
    (fun o h => (setURIOptsMiddle_exported hm _ o).trans h)
    (fun o h => (tlsStep_exported hauth htls _ o).trans h)
    (fun o h => (setURIOptsTail_exported ht _ o).trans h)

theorem setURIOpts_exported (hf : uriField f = false) (uri : String) (opts : ClientOptions) :
    (setURIOpts lib uri opts).1.exported f = opts.exported f := by
  simp only [uriField, Bool.or_eq_false_iff, decide_eq_false_iff_not] at hf
  obtain ⟨⟨⟨⟨⟨hh, hrp⟩, hm⟩, hauth⟩, htls⟩, ht⟩ := hf
  cases hp : lib.parseAndValidate uri with
  | error err => simp only [setURIOpts, hp]
  | ok connString =>
    rw [setURIOpts_exported_of_head hp opts hrp hm hauth htls ht, setURIOptsHead_exported hh]

end Frame

/-! ## The connection string and the recorded error -/

section Unexported

variable {lib}

theorem setCompressorsStep_unexported (cs : ConnString) (opts : ClientOptions) :
    (setCompressorsStep lib cs opts).connString = opts.connString ∧
      (setCompressorsStep lib cs opts).err = opts.err := by
  unfold setCompressorsStep
  split <;> simp

theorem setURIOptsHead_unexported (cs : ConnString) (opts : ClientOptions) :
    (setURIOptsHead lib cs opts).connString = opts.connString ∧
      (setURIOptsHead lib cs opts).err = opts.err := by
  simp [setURIOptsHead, setCompressorsStep_unexported]

theorem readPreferenceStep_unexported (cs : ConnString) (opts : ClientOptions) :
    (readPreferenceStep lib cs opts).1.connString = opts.connString ∧
      (readPreferenceStep lib cs opts).1.err = opts.err := by
  unfold readPreferenceStep
  split
  · dsimp only
    split <;> simp
  · simp

theorem setURIOptsMiddle_unexported (cs : ConnString) (opts : ClientOptions) :
    (setURIOptsMiddle cs opts).connString = opts.connString ∧
      (setURIOptsMiddle cs opts).err = opts.err := by
  simp [setURIOptsMiddle]

theorem tlsStep_unexported (cs : ConnString) (opts : ClientOptions) :
    (tlsStep lib cs opts).1.connString = opts.connString ∧
      (tlsStep lib cs opts).1.err = opts.err := by
  unfold tlsStep
  split
  · dsimp only
    split
    · simp
    · split
      · simp
      · simp only [ClientOptions.set_connString, ClientOptions.set_err, setX509Username]
        split
        · split_ifs <;> simp
        · simp
  · simp

theorem setURIOptsTail_unexported (cs : ConnString) (opts : ClientOptions) :
    (setURIOptsTail lib cs opts).connString = opts.connString ∧
      (setURIOptsTail lib cs opts).err = opts.err := by
  simp [setURIOptsTail]

theorem setURIOpts_unexported_of_parse {uri : String} {connString : Ref}
    (hp : lib.parseAndValidate uri = .ok connString) (opts : ClientOptions) :
    (setURIOpts lib uri opts).1.connString = some connString ∧
      (setURIOpts lib uri opts).1.err = opts.err :=
  setURIOpts_of_steps hp opts (fun o => o.connString = some connString ∧ o.err = opts.err)
    (setURIOptsHead_unexported _ _)
    (fun o h => ⟨(readPreferenceStep_unexported _ o).1.trans h.1,
      (readPreferenceStep_unexported _ o).2.trans h.2⟩)
    (fun o h => ⟨(setURIOptsMiddle_unexported _ o).1.trans h.1,
      (setURIOptsMiddle_unexported _ o).2.trans h.2⟩)
    (fun o h => ⟨(tlsStep_unexported _ o).1.trans h.1, (tlsStep_unexported _ o).2.trans h.2⟩)
    (fun o h => ⟨(setURIOptsTail_unexported _ o).1.trans h.1,
      (setURIOptsTail_unexported _ o).2.trans h.2⟩)

end Unexported

/-! ## Applying a URI -/

/-- A library that parses three URIs to `localhost` and rejects any other. -/
def sampleURILib : URILib where
  parseAndValidate uri :=
    if uri = "mongodb://localhost/" then .ok ⟨1⟩
    else if uri = "mongodb://localhost/?readPreference=bogus" then .ok ⟨2⟩
    else if uri = "mongodb://localhost/?compressors=zlib,zstd&zstdCompressionLevel=3" then .ok ⟨3⟩
    else .error ⟨0⟩
  connStringOf r :=
    if r.addr = 2 then
      { original := "mongodb://localhost/?readPreference=bogus", hosts := some ["localhost"],
        readPreference := "bogus" }
    else if r.addr = 3 then
      { original := "mongodb://localhost/?compressors=zlib,zstd&zstdCompressionLevel=3",
        hosts := some ["localhost"], compressors := ["zlib", "zstd"], zstdLevelSet := true,
        zstdLevel := 3 }
    else { original := "mongodb://localhost/", hosts := some ["localhost"] }
  hasAuthParameters _ := false
  defaultZlibLevel := 6
  defaultZstdLevel := 6
  newReadConcern _ := ⟨3⟩
  newTagSetsFromMaps _ := []
  modeFromString mode := if mode = "" ∨ mode = "primary" then .ok ⟨4⟩ else .error ⟨5⟩
  readprefNew _ _ := (some ⟨6⟩, none)
  cert := sampleCertLib
  intSize := 64
  toLower s := s
  newTLSConfig _ := ⟨7⟩
  newWriteConcern _ := ⟨8⟩
  newCertError _ := ⟨9⟩

variable {lib}

theorem applyURI_of_err_none {c : ClientOptions} (uri : String) (hc : c.err = none) :
    applyURI lib uri c = { (setURIOpts lib uri c).1 with err := (setURIOpts lib uri c).2 } := by
  unfold applyURI
  rw [hc]
  cases setURIOpts lib uri c
  rfl

/-- `ApplyURI` never writes an option the connection string has no say in. -/
theorem applyURI_exported_of_not_uriField {f : Field} (hf : uriField f = false) (uri : String)
    (c : ClientOptions) : (applyURI lib uri c).exported f = c.exported f := by
  unfold applyURI
  split
  · rfl
  · exact setURIOpts_exported hf uri c

theorem applyURI_exported_dialer_sample :
    (applyURI sampleURILib "mongodb://localhost/" client).exported .dialer =
      client.exported .dialer :=
  applyURI_exported_of_not_uriField (rfl : uriField .dialer = false) _ _

/-- A URI that parses is recorded: `GetURI` returns it even when applying it fails later. -/
theorem getURI_applyURI {c : ClientOptions} {uri : String} {connString : Ref} (hc : c.err = none)
    (hp : lib.parseAndValidate uri = .ok connString) :
    getURI lib (applyURI lib uri c) = (lib.connStringOf connString).original := by
  rw [applyURI_of_err_none uri hc, getURI]
  dsimp only
  rw [(setURIOpts_unexported_of_parse hp c).1]

theorem getURI_applyURI_sample :
    (applyURI sampleURILib "mongodb://localhost/?readPreference=bogus" client).err = some ⟨5⟩ ∧
      getURI sampleURILib (applyURI sampleURILib "mongodb://localhost/?readPreference=bogus"
        client) = "mongodb://localhost/?readPreference=bogus" :=
  ⟨rfl, (getURI_applyURI rfl (rfl : sampleURILib.parseAndValidate
    "mongodb://localhost/?readPreference=bogus" = .ok ⟨2⟩)).trans rfl⟩

theorem readPreferenceStep_err (cs : ConnString) (o₁ o₂ : ClientOptions) :
    (readPreferenceStep lib cs o₁).2 = (readPreferenceStep lib cs o₂).2 := by
  unfold readPreferenceStep
  split_ifs <;> (try cases lib.modeFromString cs.readPreference) <;> rfl

theorem tlsStep_err (cs : ConnString) (o₁ o₂ : ClientOptions) :
    (tlsStep lib cs o₁).2 = (tlsStep lib cs o₂).2 := by
  unfold tlsStep
  split
  · dsimp only
    split
    · rfl
    · split <;> rfl
  · rfl

theorem setURIOpts_err (uri : String) (o₁ o₂ : ClientOptions) :
    (setURIOpts lib uri o₁).2 = (setURIOpts lib uri o₂).2 := by
  rcases hp : lib.parseAndValidate uri with err | connString
  · simp only [setURIOpts, hp]
  rw [setURIOpts_of_parse hp, setURIOpts_of_parse hp]
  generalize hr₁ : readPreferenceStep lib _ _ = r₁
  generalize hr₂ : readPreferenceStep lib _ _ = r₂
  have hr := (congrArg Prod.snd hr₁).symm.trans
    ((readPreferenceStep_err _ _ _).trans (congrArg Prod.snd hr₂))
  rcases r₁ with ⟨a₁, _ | e₁⟩ <;> rcases r₂ with ⟨a₂, _ | e₂⟩ <;> cases hr
  · dsimp only
    generalize ht₁ : tlsStep lib _ (setURIOptsMiddle _ a₁) = t₁
    generalize ht₂ : tlsStep lib _ (setURIOptsMiddle _ a₂) = t₂
    have ht := (congrArg Prod.snd ht₁).symm.trans
      ((tlsStep_err _ _ _).trans (congrArg Prod.snd ht₂))
    rcases t₁ with ⟨b₁, _ | f₁⟩ <;> rcases t₂ with ⟨b₂, _ | f₂⟩ <;> cases ht <;> rfl
  · rfl

/-- Whether `ApplyURI` fails, and with which error, depends on the URI alone. -/
theorem applyURI_err_eq (uri : String) {c₁ c₂ : ClientOptions} (h₁ : c₁.err = none)
    (h₂ : c₂.err = none) : (applyURI lib uri c₁).err = (applyURI lib uri c₂).err := by
  rw [applyURI_of_err_none uri h₁, applyURI_of_err_none uri h₂]
  exact setURIOpts_err uri c₁ c₂

theorem applyURI_err_eq_sample :
    client.err = none ∧ (client.setDirect true).err = none ∧
      (applyURI sampleURILib "mongodb://localhost/?readPreference=bogus" client).err =
        (applyURI sampleURILib "mongodb://localhost/?readPreference=bogus"
          (client.setDirect true)).err :=
  ⟨rfl, rfl, applyURI_err_eq _ rfl rfl⟩

/-! ## The first error wins -/

/-- A call on the options: `ApplyURI`, or a `Set*` method. -/
inductive BuilderCall
  | applyURI (uri : String)
  | set (f : Field) (v : Option f.Value)

variable (lib) in
def runCalls : List BuilderCall → ClientOptions → ClientOptions
  | [], c => c
  | .applyURI uri :: calls, c => runCalls calls (applyURI lib uri c)
  | .set f v :: calls, c => runCalls calls (c.set f v)

theorem applyURI_of_err_some {c : ClientOptions} {e : Ref} (uri : String) (h : c.err = some e) :
    applyURI lib uri c = c := by
  rw [applyURI, h]
  rfl

theorem runCalls_err_of_some (calls : List BuilderCall) {c : ClientOptions} {e : Ref}
    (h : c.err = some e) : (runCalls lib calls c).err = some e := by
  induction calls generalizing c with
  | nil => exact h
  | cons call calls ih =>
    cases call with
    | applyURI uri => rw [runCalls, applyURI_of_err_some uri h]; exact ih h
    | set f v => exact ih h

/-- The first error is kept, and `Validate` returns it before any other check. -/
theorem validate_runCalls_of_err (vlib : ValidateLib) (calls : List BuilderCall)
    {c : ClientOptions} {e : Ref} (h : c.err = some e) :
    validate vlib (runCalls lib calls c) = some (.recorded e) :=
  validate_of_err vlib _ (runCalls_err_of_some calls h)

theorem validate_runCalls_of_err_sample :
    validate sampleValidateLib (runCalls sampleURILib
      [.applyURI "", .applyURI "mongodb://localhost/", .set .direct (some true)]
      client) = some (.recorded ⟨0⟩) :=
  have h : (applyURI sampleURILib "" client).err = some ⟨0⟩ := rfl
  validate_runCalls_of_err sampleValidateLib
    [.applyURI "mongodb://localhost/", .set .direct (some true)] h

/-- `Validate` of merged options returns the last recorded error, whatever else is set. -/
theorem validate_mergeClientOptions_of_err (vlib : ValidateLib)
    (opts : List (Option ClientOptions)) {e : Ref} (h : lastSet (·.err) opts = some e) :
    validate vlib (mergeClientOptions opts) = some (.recorded e) :=
  validate_of_err vlib _ ((mergeClientOptions_err opts).trans h)

theorem validate_mergeClientOptions_of_err_sample :
    lastSet (·.err) [some (applyURI sampleURILib "" client), some (client.setDirect true)] =
        some ⟨0⟩ ∧
      validate sampleValidateLib (mergeClientOptions
        [some (applyURI sampleURILib "" client), some (client.setDirect true)]) =
        some (.recorded ⟨0⟩) :=
  have h : lastSet (·.err) [some (applyURI sampleURILib "" client), some (client.setDirect true)] =
      some ⟨0⟩ := rfl
  ⟨h, validate_mergeClientOptions_of_err sampleValidateLib _ h⟩

/-! ## Setters the URI has no say in -/

section Commute

variable {f : Field} (v : Option f.Value)

theorem setURIOpts_set (hf : uriField f = false) (uri : String) (c : ClientOptions) :
    setURIOpts lib uri (c.set f v) =
      ((setURIOpts lib uri c).1.set f v, (setURIOpts lib uri c).2) := by
  simp only [uriField, Bool.or_eq_false_iff, decide_eq_false_iff_not] at hf
  obtain ⟨⟨⟨⟨⟨hh, hrp⟩, hm⟩, hauth⟩, htls⟩, ht⟩ := hf
  cases hp : lib.parseAndValidate uri with
  | error err => simp only [setURIOpts, hp]
  | ok connString =>
    have hc : { c.set f v with connString := some connString } =
        { c with connString := some connString }.set f v := rfl
    rw [setURIOpts_of_parse hp, setURIOpts_of_parse hp, hc, setURIOptsHead_set v hh,
      readPreferenceStep_set v hrp]
    rcases readPreferenceStep lib _ _ with ⟨a, _ | e⟩
    · dsimp only
      rw [setURIOptsMiddle_set v hm, tlsStep_set v hauth htls]
      rcases tlsStep lib _ _ with ⟨b, _ | e⟩
      · dsimp only
        rw [setURIOptsTail_set v ht]
      · rfl
    · rfl

/-- `ApplyURI` commutes with every setter of an option the URI has no say in. -/
theorem applyURI_set_comm (hf : uriField f = false) (uri : String) (c : ClientOptions) :
    applyURI lib uri (c.set f v) = (applyURI lib uri c).set f v := by
  rcases hc : c.err with _ | e
  · have hc' : (c.set f v).err = none := hc
    rw [applyURI_of_err_none uri hc, applyURI_of_err_none uri hc', setURIOpts_set v hf]
    rfl
  · have hc' : (c.set f v).err = some e := hc
    rw [applyURI_of_err_some uri hc, applyURI_of_err_some uri hc']

theorem applyURI_set_comm_sample :
    uriField .dialer = false ∧
      applyURI sampleURILib "mongodb://localhost/?readPreference=bogus"
          (client.set .dialer (some (⟨7⟩ : Ref))) =
        (applyURI sampleURILib "mongodb://localhost/?readPreference=bogus" client).set .dialer
          (some (⟨7⟩ : Ref)) :=
  ⟨rfl, applyURI_set_comm _ (rfl : uriField .dialer = false) _ _⟩

end Commute

/-! ## Which setting wins -/

theorem stringSliceContains_iff (source : List String) (target : String) :
    stringSliceContains source target = true ↔ target ∈ source := by
  induction source with
  | nil => simp [stringSliceContains]
  | cons str source ih =>
    by_cases h : str = target
    · simp [stringSliceContains, h]
    · simp [stringSliceContains, h, ih, Ne.symm h]

theorem setCompressorsStep_zlibLevel (cs : ConnString) (opts : ClientOptions) :
    (setCompressorsStep lib cs opts).exported .zlibLevel =
      if "zlib" ∈ cs.compressors then some lib.defaultZlibLevel else opts.exported .zlibLevel := by
  unfold setCompressorsStep
  split
  · simp [stringSliceContains_iff]
  · rename_i h
    rw [if_neg fun hz => h (List.length_pos_of_mem hz)]

theorem setCompressorsStep_zstdLevel (cs : ConnString) (opts : ClientOptions) :
    (setCompressorsStep lib cs opts).exported .zstdLevel =
      if "zstd" ∈ cs.compressors then some lib.defaultZstdLevel else opts.exported .zstdLevel := by
  unfold setCompressorsStep
  split
  · simp [stringSliceContains_iff]
  · rename_i h
    rw [if_neg fun hz => h (List.length_pos_of_mem hz)]

theorem setURIOpts_of_ok {uri : String} {connString : Ref}
    (hp : lib.parseAndValidate uri = .ok connString) (opts : ClientOptions)
    (hs : (setURIOpts lib uri opts).2 = none) :
    let cs := lib.connStringOf connString
    (setURIOpts lib uri opts).1 = setURIOptsTail lib cs (tlsStep lib cs (setURIOptsMiddle cs
      (readPreferenceStep lib cs (setURIOptsHead lib cs
        { opts with connString := some connString })).1)).1 := by
  rw [setURIOpts_of_parse hp] at hs ⊢
  dsimp only at hs ⊢
  split at hs
  · cases hs
  rename_i opts' h
  simp only [h] at hs ⊢
  split at hs
  · cases hs
  rename_i h'
  simp only [h']

/-- A level in the URI beats the default that naming its compressor sets. -/
theorem setURIOpts_compressionLevels {uri : String} {connString : Ref}
    (hp : lib.parseAndValidate uri = .ok connString) (opts : ClientOptions)
    (hs : (setURIOpts lib uri opts).2 = none) :
    let cs := lib.connStringOf connString
    (setURIOpts lib uri opts).1.exported .zlibLevel =
        (if cs.zlibLevelSet then some cs.zlibLevel
        else if "zlib" ∈ cs.compressors then some lib.defaultZlibLevel
        else opts.exported .zlibLevel) ∧
      (setURIOpts lib uri opts).1.exported .zstdLevel =
        (if cs.zstdLevelSet then some cs.zstdLevel
        else if "zstd" ∈ cs.compressors then some lib.defaultZstdLevel
        else opts.exported .zstdLevel) := by
  rw [setURIOpts_of_ok hp opts hs]
  simp only [setURIOptsTail, ne_eq, reduceCtorEq, not_false_eq_true,
    ClientOptions.setIf_exported_of_ne, ClientOptions.setIf_exported_self]
  rw [tlsStep_exported (by decide) (by decide), tlsStep_exported (by decide) (by decide),
    setURIOptsMiddle_exported (by rfl), setURIOptsMiddle_exported (by rfl),
    readPreferenceStep_exported (by decide), readPreferenceStep_exported (by decide)]
  simp only [setURIOptsHead, ne_eq, reduceCtorEq, not_false_eq_true,
    ClientOptions.setIf_exported_of_ne, ClientOptions.set_exported_of_ne,
    setCompressorsStep_zlibLevel, setCompressorsStep_zstdLevel, and_self]

theorem setURIOpts_compressionLevels_sample :
    (setURIOpts sampleURILib "mongodb://localhost/?compressors=zlib,zstd&zstdCompressionLevel=3"
        client).2 = none ∧
      (setURIOpts sampleURILib "mongodb://localhost/?compressors=zlib,zstd&zstdCompressionLevel=3"
        client).1.exported .zlibLevel = some (6 : Int) ∧
      (setURIOpts sampleURILib "mongodb://localhost/?compressors=zlib,zstd&zstdCompressionLevel=3"
        client).1.exported .zstdLevel = some (3 : Int) :=
  have hs : (setURIOpts sampleURILib
      "mongodb://localhost/?compressors=zlib,zstd&zstdCompressionLevel=3" client).2 = none := rfl
  ⟨hs, setURIOpts_compressionLevels (rfl : sampleURILib.parseAndValidate
    "mongodb://localhost/?compressors=zlib,zstd&zstdCompressionLevel=3" = .ok ⟨3⟩) client hs⟩

end MongoDriver.Options
