import MongoDriver.Options.ClientOptions

/-! # Setters and typed fields of client options

Every `Set*` method of `ClientOptions` stores its argument in one exported field: a value
argument as a pointer to a copy, which is never nil, and a pointer, slice or interface argument
as it is, nil included. The typed readers below give the fields that `Validate` and
`setURIOpts` read at their Go types.
-/

namespace MongoDriver.Options

namespace ClientOptions

variable (c : ClientOptions)

/-- `c.F = v` for the exported field `F`. -/
def set (f : Field) (v : Option f.Value) : ClientOptions :=
  { c with exported := Function.update c.exported f v }

@[simp] theorem set_exported_self (f : Field) (v : Option f.Value) : (c.set f v).exported f = v :=
  Function.update_same _ _ _

@[simp] theorem set_exported_of_ne {f g : Field} (v : Option f.Value) (h : g ≠ f) :
    (c.set f v).exported g = c.exported g :=
  Function.update_noteq h _ _

@[simp] theorem set_err (f : Field) (v : Option f.Value) : (c.set f v).err = c.err := rfl

@[simp] theorem set_connString (f : Field) (v : Option f.Value) :
    (c.set f v).connString = c.connString := rfl

theorem set_exported_eq_self (f : Field) : c.set f (c.exported f) = c := by
  simp only [set, Function.update_eq_self]

theorem set_comm {f g : Field} (h : f ≠ g) (v : Option f.Value) (w : Option g.Value) :
    (c.set f v).set g w = (c.set g w).set f v := by
  simp only [set, Function.update_comm h]

theorem setHTTPClient_eq_set (client : Option Ref) :
    c.setHTTPClient client = c.set .httpClient client := rfl

-- The `Set*` methods, each writing one exported field.
def setAppName (s : String) : ClientOptions := c.set .appName (some s)
def setAuth (auth : Credential) : ClientOptions := c.set .auth (some auth)
def setCompressors (comps : Option (List String)) : ClientOptions := c.set .compressors comps
def setConnectTimeout (d : Int) : ClientOptions := c.set .connectTimeout (some d)
def setDialer (d : Option Ref) : ClientOptions := c.set .dialer d
def setDirect (b : Bool) : ClientOptions := c.set .direct (some b)
def setHeartbeatInterval (d : Int) : ClientOptions := c.set .heartbeatInterval (some d)
def setHosts (s : Option (List String)) : ClientOptions := c.set .hosts s
def setLoadBalanced (lb : Bool) : ClientOptions := c.set .loadBalanced (some lb)
def setLocalThreshold (d : Int) : ClientOptions := c.set .localThreshold (some d)
def setLoggerOptions (lopts : Option Ref) : ClientOptions := c.set .loggerOptions lopts
def setMaxConnIdleTime (d : Int) : ClientOptions := c.set .maxConnIdleTime (some d)
def setMaxPoolSize (u : UInt64) : ClientOptions := c.set .maxPoolSize (some u)
def setMinPoolSize (u : UInt64) : ClientOptions := c.set .minPoolSize (some u)
def setMaxConnecting (u : UInt64) : ClientOptions := c.set .maxConnecting (some u)
def setPoolMonitor (m : Option Ref) : ClientOptions := c.set .poolMonitor m
def setMonitor (m : Option Ref) : ClientOptions := c.set .monitor m
def setServerMonitor (m : Option Ref) : ClientOptions := c.set .serverMonitor m
def setReadConcern (rc : Option Ref) : ClientOptions := c.set .readConcern rc
def setReadPreference (rp : Option Ref) : ClientOptions := c.set .readPreference rp
def setBSONOptions (bopts : Option Ref) : ClientOptions := c.set .bsonOptions bopts
def setRegistry (registry : Option Ref) : ClientOptions := c.set .registry registry
def setReplicaSet (s : String) : ClientOptions := c.set .replicaSet (some s)
def setRetryWrites (b : Bool) : ClientOptions := c.set .retryWrites (some b)
def setRetryReads (b : Bool) : ClientOptions := c.set .retryReads (some b)
def setServerSelectionTimeout (d : Int) : ClientOptions := c.set .serverSelectionTimeout (some d)
def setTimeout (d : Int) : ClientOptions := c.set .timeout (some d)
def setTLSConfig (cfg : Option Ref) : ClientOptions := c.set .tlsConfig cfg
def setTLCPConfig (cfg : Option Ref) : ClientOptions := c.set .tlcpConfig cfg
def setWriteConcern (wc : Option Ref) : ClientOptions := c.set .writeConcern wc
def setZlibLevel (level : Int) : ClientOptions := c.set .zlibLevel (some level)
def setZstdLevel (level : Int) : ClientOptions := c.set .zstdLevel (some level)
def setAutoEncryptionOptions (aeopts : Option Ref) : ClientOptions :=
  c.set .autoEncryptionOptions aeopts
def setDisableOCSPEndpointCheck (disableCheck : Bool) : ClientOptions :=
  c.set .disableOCSPEndpointCheck (some disableCheck)
def setServerAPIOptions (sopts : Option Ref) : ClientOptions := c.set .serverAPIOptions sopts
def setServerMonitoringMode (mode : String) : ClientOptions :=
  c.set .serverMonitoringMode (some mode)
def setSRVMaxHosts (srvMaxHosts : Int) : ClientOptions := c.set .srvMaxHosts (some srvMaxHosts)
def setSRVServiceName (srvName : String) : ClientOptions := c.set .srvServiceName (some srvName)
def setDriverInfo (info : Option Ref) : ClientOptions := c.set .driverInfo info

-- The fields the checks read.
def auth : Option Credential := c.exported .auth
def compressors : Option (List String) := c.exported .compressors
def direct : Option Bool := c.exported .direct
def heartbeatInterval : Option Int := c.exported .heartbeatInterval
def hosts : Option (List String) := c.exported .hosts
def loadBalanced : Option Bool := c.exported .loadBalanced
def maxPoolSize : Option UInt64 := c.exported .maxPoolSize
def minPoolSize : Option UInt64 := c.exported .minPoolSize
def replicaSet : Option String := c.exported .replicaSet
def serverAPIOptions : Option Ref := c.exported .serverAPIOptions
def serverMonitoringMode : Option String := c.exported .serverMonitoringMode
def srvMaxHosts : Option Int := c.exported .srvMaxHosts
def timeout : Option Int := c.exported .timeout

/-- `len(c.Hosts)`: a nil slice has none. -/
def hostCount : Nat := (c.hosts.getD []).length

end ClientOptions

end MongoDriver.Options
