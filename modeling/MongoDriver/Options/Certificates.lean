import Mathlib.Data.List.Infix
import MongoDriver.Options.ClientOptions

/-! # Loading client certificates

`addClientCertFromBytes` walks the PEM blocks of its input with `pem.Decode`. It keeps the text
of each CERTIFICATE block and of each unencrypted PRIVATE KEY block as a slice of the input,
from the end of the previous kept block (`start`) to the end of its own, so that text between
blocks and blocks of other types travel with the next kept one; an encrypted key is decrypted
and encoded again. The two lists go to `tls.X509KeyPair`, and the subject returned is that of
the first certificate.

The loop recurs on what `pem.Decode` leaves, a strict suffix of its input, and it is a fold of
one step over the blocks that `pem.Decode` finds one after the other. Every slice it takes
stays in bounds.
-/

namespace MongoDriver.Options

structure PemBlock where
  type : String
  headers : GoMap
  bytes : List UInt8

/-- `pem.Decode`: the next block and a strict suffix of the input, or `none`. -/
structure PemDecoder where
  decode : List UInt8 → Option (PemBlock × List UInt8)
  rest_suffix : ∀ {data b rest}, decode data = some (b, rest) → rest <:+ data
  rest_shorter : ∀ {data b rest}, decode data = some (b, rest) → rest.length < data.length

/-- The fields of `tls.Config` that `setURIOpts` writes. -/
structure TLSConfig where
  rootCAs : Option Ref
  insecureSkipVerify : Bool
  certificates : List Ref

def TLSConfig.new : TLSConfig := ⟨none, false, []⟩

/-- What the certificate code uses from `os`, `pem`, `x509`, `tls` and `pkcs8`. -/
structure CertLib where
  readFile : String → Except Ref (List UInt8)
  newCertPool : Ref
  appendCertsFromPEM : Ref → List UInt8 → Ref × Bool
  decoder : PemDecoder
  isEncryptedPEMBlock : PemBlock → Bool
  decryptPEMBlock : PemBlock → List UInt8 → Except Ref (List UInt8)
  parsePKCS8PrivateKey : List UInt8 → List UInt8 → Except Ref Ref
  marshalPKCS8PrivateKey : Ref → Except Ref (List UInt8)
  pemEncode : PemBlock → Except Ref (List UInt8)
  x509KeyPair : List UInt8 → List UInt8 → Except Ref Ref
  parseCertificate : List UInt8 → Except Ref Ref
  subjectString : Ref → String

/-- The errors of the certificate code. -/
inductive CertError
  -- An error that a library call returned, passed on as it is.
  | lib (err : Ref)
  -- `the specified CA file does not contain any valid certificates`.
  | noValidCACertificates
  -- `X.509 key must be less than 64 MiB`.
  | keyTooLarge
  -- `X.509 certificate must be less than 64 MiB`.
  | certificateTooLarge
  -- `size overflow`.
  | sizeOverflow
  -- `no password provided to decrypt private key`.
  | noPassword
  -- `error encoding private key as PEM: %w`.
  | encodingKey (err : Ref)
  -- `failed to find CERTIFICATE`.
  | noCertificate
  -- `failed to find PRIVATE KEY`.
  | noPrivateKey
  deriving DecidableEq, Repr

def stringsHasSuffix (s suffix : String) : Bool := suffix.data.isSuffixOf s.data

def stringsContains (s substr : String) : Bool := decide (substr.data <:+: s.data)

def bytesJoin (s : List (List UInt8)) (sep : List UInt8) : List UInt8 := sep.intercalate s

/-- `data[lo:hi]`, or `none` where Go panics. -/
def goSlice (data : List UInt8) (lo hi : Nat) : Option (List UInt8) :=
  if lo ≤ hi ∧ hi ≤ data.length then some ((data.take hi).drop lo) else none

def PemBlock.isCertificate (b : PemBlock) : Bool := b.type = "CERTIFICATE"

def PemBlock.isPrivateKey (b : PemBlock) : Bool := stringsHasSuffix b.type "PRIVATE KEY"

/-- The variables of the loop of `addClientCertFromBytes` besides `remaining`. -/
structure PemScan where
  start : Nat
  certDecodedBlock : Option (List UInt8)
  certBlocks : List (List UInt8)
  keyBlocks : List (List UInt8)

def PemScan.init : PemScan := ⟨0, none, [], []⟩

variable (lib : CertLib)

def addCACertFromFile (cfg : TLSConfig) (file : String) : Except CertError TLSConfig :=
  match lib.readFile file with
  | .error err => .error (.lib err)
  | .ok data =>
    let (pool, ok) := lib.appendCertsFromPEM (cfg.rootCAs.getD lib.newCertPool) data
    if ok then .ok { cfg with rootCAs := some pool } else .error .noValidCACertificates

def isEncrypted (b : PemBlock) : Bool :=
  lib.isEncryptedPEMBlock b || stringsContains b.type "ENCRYPTED PRIVATE KEY"

def decryptKey (keyPasswd : String) (b : PemBlock) : Except CertError (List UInt8) :=
  if keyPasswd = "" then .error .noPassword
  else do
    let passwd := keyPasswd.toUTF8.toList
    let keyBytes ←
      if lib.isEncryptedPEMBlock b then (lib.decryptPEMBlock b passwd).mapError .lib
      else if stringsContains b.type "ENCRYPTED" then do
        let decrypted ← (lib.parsePKCS8PrivateKey b.bytes passwd).mapError .lib
        (lib.marshalPKCS8PrivateKey decrypted).mapError .lib
      else pure []
    (lib.pemEncode ⟨b.type, .empty, keyBytes⟩).mapError .encodingKey

section Loop

variable (data : List UInt8) (keyPasswd : String)

/-- One pass of the loop on the block `b`; `none` where a slice expression panics. -/
def scanStep (s : PemScan) (b : PemBlock) (remaining : List UInt8) :
    Option (Except CertError PemScan) :=
  let stop := data.length - remaining.length
  if b.isCertificate then
    (goSlice data s.start stop).map fun certBlock =>
      let certDecodedBlock := if s.certDecodedBlock.isNone then some b.bytes else s.certDecodedBlock
      .ok ⟨s.start + certBlock.length, certDecodedBlock, s.certBlocks ++ [certBlock], s.keyBlocks⟩
  else if b.isPrivateKey then
    if isEncrypted lib b then
      some ((decryptKey lib keyPasswd b).map fun keyBlock =>
        { s with keyBlocks := s.keyBlocks ++ [keyBlock], start := stop })
    else
      (goSlice data s.start stop).map fun keyBlock =>
        .ok { s with keyBlocks := s.keyBlocks ++ [keyBlock], start := s.start + keyBlock.length }
  else some (.ok s)

/-- The loop `for { currentBlock, remaining = pem.Decode(remaining); ... }`. -/
def scanLoop (s : PemScan) (remaining : List UInt8) : Option (Except CertError PemScan) :=
  match h : lib.decoder.decode remaining with
  | none => some (.ok s)
  | some (b, rest) =>
    match scanStep lib data keyPasswd s b rest with
    | some (.ok s') => scanLoop s' rest
    | r => r
termination_by remaining.length
decreasing_by exact lib.decoder.rest_shorter h

def scanBlocks : PemScan → List (PemBlock × List UInt8) → Option (Except CertError PemScan)
  | s, [] => some (.ok s)
  | s, (b, rest) :: bs =>
    match scanStep lib data keyPasswd s b rest with
    | some (.ok s') => scanBlocks s' bs
    | r => r

end Loop

def pemBlocks (remaining : List UInt8) : List (PemBlock × List UInt8) :=
  match h : lib.decoder.decode remaining with
  | none => []
  | some (b, rest) => (b, rest) :: pemBlocks rest
termination_by remaining.length
decreasing_by exact lib.decoder.rest_shorter h

theorem pemBlocks_of_decode_none {remaining : List UInt8}
    (h : lib.decoder.decode remaining = none) : pemBlocks lib remaining = [] := by
  rw [pemBlocks]; split <;> simp_all

theorem pemBlocks_of_decode_some {remaining rest : List UInt8} {b : PemBlock}
    (h : lib.decoder.decode remaining = some (b, rest)) :
    pemBlocks lib remaining = (b, rest) :: pemBlocks lib rest := by
  rw [pemBlocks]; split <;> simp_all

theorem scanLoop_of_decode_none {data : List UInt8} {keyPasswd : String} {s : PemScan}
    {remaining : List UInt8} (h : lib.decoder.decode remaining = none) :
    scanLoop lib data keyPasswd s remaining = some (.ok s) := by
  rw [scanLoop]; split <;> simp_all

theorem scanLoop_of_decode_some {data : List UInt8} {keyPasswd : String} {s : PemScan}
    {remaining rest : List UInt8} {b : PemBlock}
    (h : lib.decoder.decode remaining = some (b, rest)) :
    scanLoop lib data keyPasswd s remaining =
      match scanStep lib data keyPasswd s b rest with
      | some (.ok s') => scanLoop lib data keyPasswd s' rest
      | r => r := by
  rw [scanLoop]; split <;> simp_all

theorem scanLoop_eq_scanBlocks (data : List UInt8) (keyPasswd : String) (s : PemScan)
    (remaining : List UInt8) :
    scanLoop lib data keyPasswd s remaining =
      scanBlocks lib data keyPasswd s (pemBlocks lib remaining) := by
  cases h : lib.decoder.decode remaining with
  | none => rw [scanLoop_of_decode_none lib h, pemBlocks_of_decode_none lib h]; rfl
  | some p =>
    obtain ⟨b, rest⟩ := p
    have := lib.decoder.rest_shorter h
    rw [scanLoop_of_decode_some lib h, pemBlocks_of_decode_some lib h, scanBlocks]
    split <;> simp only [scanLoop_eq_scanBlocks data keyPasswd _ rest]
termination_by remaining.length

/-- `addClientCertFromBytes`: the configuration and the first subject; `none` on a panic. -/
def addClientCertFromBytes (cfg : TLSConfig) (data : List UInt8) (keyPasswd : String) :
    Option (Except CertError (TLSConfig × String)) :=
  (scanLoop lib data keyPasswd .init data).map fun r => r.bind fun s =>
    if s.certBlocks.length = 0 then .error .noCertificate
    else if s.keyBlocks.length = 0 then .error .noPrivateKey
    else do
      let cert ←
        (lib.x509KeyPair (bytesJoin s.certBlocks [10]) (bytesJoin s.keyBlocks [10])).mapError .lib
      let cfg := { cfg with certificates := cfg.certificates ++ [cert] }
      let crt ← (lib.parseCertificate (s.certDecodedBlock.getD [])).mapError .lib
      pure (cfg, lib.subjectString crt)

def addClientCertFromConcatenatedFile (cfg : TLSConfig) (certKeyFile keyPassword : String) :
    Option (Except CertError (TLSConfig × String)) :=
  match lib.readFile certKeyFile with
  | .error err => some (.error (.lib err))
  | .ok data => addClientCertFromBytes lib cfg data keyPassword

/-- `math.MaxInt` on a platform whose `int` has `intSize` bits. -/
def maxInt (intSize : Nat) : Nat := Nat.pow 2 (intSize - 1) - 1

def addClientCertFromSeparateFiles (intSize : Nat) (cfg : TLSConfig)
    (keyFile certFile keyPassword : String) : Option (Except CertError (TLSConfig × String)) :=
  match lib.readFile keyFile with
  | .error err => some (.error (.lib err))
  | .ok keyData =>
    match lib.readFile certFile with
    | .error err => some (.error (.lib err))
    | .ok certData =>
      let keySize := keyData.length
      if keySize > 64 * 1024 * 1024 then some (.error .keyTooLarge)
      else
        let certSize := certData.length
        if certSize > 64 * 1024 * 1024 then some (.error .certificateTooLarge)
        else
          let dataSize := keySize + certSize + 1
          if dataSize > maxInt intSize then some (.error .sizeOverflow)
          else addClientCertFromBytes lib cfg (keyData ++ [10] ++ certData) keyPassword

/-! ## Every slice stays in bounds, and the slices tile the input -/

def isEncryptedKey (b : PemBlock) : Bool :=
  !b.isCertificate && b.isPrivateKey && isEncrypted lib b

/-- The loop invariant: `remaining` is a suffix of `data`, and `start` is within what is read. -/
def ScanInv (data remaining : List UInt8) (s : PemScan) : Prop :=
  remaining <:+ data ∧ s.start ≤ data.length - remaining.length

/-- The kept slices cut `data` up to `start` into consecutive pieces. -/
def Tiles (data : List UInt8) (s : PemScan) : Prop :=
  ∃ pieces : List (Bool × List UInt8), (pieces.map Prod.snd).flatten = data.take s.start ∧
    (pieces.filter Prod.fst).map Prod.snd = s.certBlocks ∧
    (pieces.filter (fun p => !p.1)).map Prod.snd = s.keyBlocks

theorem goSlice_eq_some {data : List UInt8} {lo hi : Nat} (h : lo ≤ hi) (h' : hi ≤ data.length) :
    goSlice data lo hi = some ((data.take hi).drop lo) :=
  if_pos ⟨h, h'⟩

theorem length_slice {data : List UInt8} {lo hi : Nat} (h' : hi ≤ data.length) :
    ((data.take hi).drop lo).length = hi - lo := by
  rw [List.length_drop, List.length_take, Nat.min_eq_left h']

theorem take_append_slice (data : List UInt8) {lo hi : Nat} (h : lo ≤ hi) :
    data.take lo ++ (data.take hi).drop lo = data.take hi := by
  conv_rhs => rw [← List.take_append_drop lo (data.take hi)]
  rw [List.take_take, Nat.min_eq_left h]

theorem Tiles.snoc {data : List UInt8} {s : PemScan} (ht : Tiles data s) (c : Bool) {hi : Nat}
    (h : s.start ≤ hi) :
    ∃ pieces : List (Bool × List UInt8), (pieces.map Prod.snd).flatten = data.take hi ∧
      (pieces.filter Prod.fst).map Prod.snd =
        s.certBlocks ++ (if c then [(data.take hi).drop s.start] else []) ∧
      (pieces.filter (fun p => !p.1)).map Prod.snd =
        s.keyBlocks ++ (if c then [] else [(data.take hi).drop s.start]) := by
  obtain ⟨pieces, hj, hc, hk⟩ := ht
  refine ⟨pieces ++ [(c, (data.take hi).drop s.start)], ?_, ?_, ?_⟩
  · simp [hj, take_append_slice data h]
  · cases c <;> simp [List.filter_append, hc]
  · cases c <;> simp [List.filter_append, hk]

variable {lib}

theorem scanStep_of_isEncryptedKey_false {data : List UInt8} (keyPasswd : String) {s : PemScan}
    {b : PemBlock} {remaining rest : List UInt8} (hinv : ScanInv data remaining s)
    (hrest : rest <:+ remaining) (hb : isEncryptedKey lib b = false) :
    ∃ s', scanStep lib data keyPasswd s b rest = some (.ok s') ∧ ScanInv data rest s' ∧
      (Tiles data s → Tiles data s') := by
  obtain ⟨hrem, hst⟩ := hinv
  have hlen := hrest.length_le
  have hstop : s.start ≤ data.length - rest.length := by omega
  have hsl : ((data.take (data.length - rest.length)).drop s.start).length =
      data.length - rest.length - s.start :=
    length_slice (Nat.sub_le _ _)
  unfold scanStep
  by_cases hc : b.isCertificate
  · simp only [hc, if_true, goSlice_eq_some hstop (Nat.sub_le _ _), Option.map_some']
    refine ⟨_, rfl, ⟨hrest.trans hrem, by simp only [hsl]; omega⟩, fun ht => ?_⟩
    simpa [hsl, Nat.add_sub_cancel' hstop] using ht.snoc true hstop
  by_cases hk : b.isPrivateKey
  · have he : isEncrypted lib b = false := by simpa [isEncryptedKey, hc, hk] using hb
    simp only [hc, hk, he, if_true, if_false, Bool.false_eq_true,
      goSlice_eq_some hstop (Nat.sub_le _ _), Option.map_some']
    refine ⟨_, rfl, ⟨hrest.trans hrem, by simp only [hsl]; omega⟩, fun ht => ?_⟩
    simpa [hsl, Nat.add_sub_cancel' hstop] using ht.snoc false hstop
  · simp only [hc, hk, if_false, Bool.false_eq_true]
    exact ⟨_, rfl, ⟨hrest.trans hrem, hstop⟩, id⟩

theorem scanStep_of_isEncryptedKey_true {data : List UInt8} (keyPasswd : String) {s : PemScan}
    {b : PemBlock} {rest : List UInt8} (hb : isEncryptedKey lib b = true) :
    scanStep lib data keyPasswd s b rest = some ((decryptKey lib keyPasswd b).map fun keyBlock =>
      { s with keyBlocks := s.keyBlocks ++ [keyBlock], start := data.length - rest.length }) := by
  simp only [isEncryptedKey, Bool.and_eq_true, Bool.not_eq_true'] at hb
  obtain ⟨⟨hc, hk⟩, he⟩ := hb
  simp [scanStep, hc, hk, he]

theorem scanInv_init (data : List UInt8) : ScanInv data data .init :=
  ⟨List.suffix_refl data, Nat.zero_le _⟩

theorem tiles_init (data : List UInt8) : Tiles data .init := ⟨[], rfl, rfl, rfl⟩

theorem scanLoop_isSome {data : List UInt8} (keyPasswd : String) {s : PemScan}
    {remaining : List UInt8} (hinv : ScanInv data remaining s) :
    (scanLoop lib data keyPasswd s remaining).isSome := by
  cases h : lib.decoder.decode remaining with
  | none => rw [scanLoop_of_decode_none lib h]; rfl
  | some p =>
    obtain ⟨b, rest⟩ := p
    have := lib.decoder.rest_shorter h
    rw [scanLoop_of_decode_some lib h]
    cases hb : isEncryptedKey lib b with
    | false =>
      obtain ⟨s', hs', hinv', -⟩ :=
        scanStep_of_isEncryptedKey_false keyPasswd hinv (lib.decoder.rest_suffix h) hb
      rw [hs']
      exact scanLoop_isSome keyPasswd hinv'
    | true =>
      rw [scanStep_of_isEncryptedKey_true keyPasswd hb]
      cases decryptKey lib keyPasswd b with
      | error e => rfl
      | ok keyBlock =>
        exact scanLoop_isSome keyPasswd ⟨(lib.decoder.rest_suffix h).trans hinv.1, Nat.le_refl _⟩
termination_by remaining.length

theorem scanLoop_tiles {data : List UInt8} (keyPasswd : String) {s : PemScan}
    {remaining : List UInt8} (hinv : ScanInv data remaining s) (ht : Tiles data s)
    (hno : ∀ p ∈ pemBlocks lib remaining, isEncryptedKey lib p.1 = false) :
    ∃ s', scanLoop lib data keyPasswd s remaining = some (.ok s') ∧ Tiles data s' := by
  cases h : lib.decoder.decode remaining with
  | none => exact ⟨s, scanLoop_of_decode_none lib h, ht⟩
  | some p =>
    obtain ⟨b, rest⟩ := p
    have := lib.decoder.rest_shorter h
    rw [pemBlocks_of_decode_some lib h] at hno
    obtain ⟨s', hs', hinv', ht'⟩ := scanStep_of_isEncryptedKey_false keyPasswd hinv
      (lib.decoder.rest_suffix h) (hno _ (List.mem_cons_self _ _))
    rw [scanLoop_of_decode_some lib h, hs']
    exact scanLoop_tiles keyPasswd hinv' (ht' ht) fun q hq => hno q (List.mem_cons_of_mem _ hq)
termination_by remaining.length

theorem scanLoop_noPassword {data : List UInt8} {s : PemScan} {remaining : List UInt8}
    (hinv : ScanInv data remaining s)
    (hk : ∃ p ∈ pemBlocks lib remaining, isEncryptedKey lib p.1 = true) :
    scanLoop lib data "" s remaining = some (.error .noPassword) := by
  cases h : lib.decoder.decode remaining with
  | none => rw [pemBlocks_of_decode_none lib h] at hk; simp at hk
  | some p =>
    obtain ⟨b, rest⟩ := p
    have := lib.decoder.rest_shorter h
    rw [pemBlocks_of_decode_some lib h] at hk
    rw [scanLoop_of_decode_some lib h]
    cases hb : isEncryptedKey lib b with
    | true => rw [scanStep_of_isEncryptedKey_true "" hb]; rfl
    | false =>
      obtain ⟨s', hs', hinv', -⟩ :=
        scanStep_of_isEncryptedKey_false "" hinv (lib.decoder.rest_suffix h) hb
      rw [hs']
      obtain ⟨q, hq, hqk⟩ := hk
      rcases List.mem_cons.mp hq with rfl | hq
      · rw [hb] at hqk; cases hqk
      · exact scanLoop_noPassword hinv' ⟨q, hq, hqk⟩
termination_by remaining.length

/-! ## What the loop collects -/

theorem PemBlock.isPrivateKey_of_isCertificate {b : PemBlock} (h : b.isCertificate = true) :
    b.isPrivateKey = false := by
  have : b.type = "CERTIFICATE" := by simpa [PemBlock.isCertificate] using h
  rw [PemBlock.isPrivateKey, this]
  decide

theorem scanStep_ok {data : List UInt8} {keyPasswd : String} {s s' : PemScan} {b : PemBlock}
    {rest : List UInt8} (h : scanStep lib data keyPasswd s b rest = some (.ok s')) :
    s'.certBlocks.length = s.certBlocks.length + (if b.isCertificate then 1 else 0) ∧
    s'.keyBlocks.length = s.keyBlocks.length + (if b.isPrivateKey then 1 else 0) ∧
    s'.certDecodedBlock =
      if b.isCertificate then s.certDecodedBlock.or (some b.bytes) else s.certDecodedBlock := by
  unfold scanStep at h
  by_cases hc : b.isCertificate
  · obtain ⟨_, -, hx⟩ := Option.map_eq_some'.mp (by simpa only [hc, if_true] using h)
    cases hx
    simp only [hc, PemBlock.isPrivateKey_of_isCertificate hc, if_true, List.length_append]
    refine ⟨rfl, rfl, ?_⟩
    cases s.certDecodedBlock <;> rfl
  by_cases hk : b.isPrivateKey
  · simp only [hc, hk, if_true, if_false, Bool.false_eq_true] at h ⊢
    split at h
    · revert h
      cases decryptKey lib keyPasswd b <;> simp only [Except.map, Option.some.injEq, reduceCtorEq,
        false_implies, Except.ok.injEq]
      rintro rfl; simp
    · obtain ⟨_, -, hx⟩ := Option.map_eq_some'.mp h
      cases hx; simp
  · simp only [hc, hk, if_false, Bool.false_eq_true, Option.some.injEq, Except.ok.injEq] at h ⊢
    subst h
    simp

theorem scanBlocks_ok {data : List UInt8} {keyPasswd : String} {s s' : PemScan}
    {bs : List (PemBlock × List UInt8)} (h : scanBlocks lib data keyPasswd s bs = some (.ok s')) :
    s'.certBlocks.length = s.certBlocks.length + bs.countP (·.1.isCertificate) ∧
    s'.keyBlocks.length = s.keyBlocks.length + bs.countP (·.1.isPrivateKey) ∧
    s'.certDecodedBlock =
      s.certDecodedBlock.or ((bs.find? (·.1.isCertificate)).map (·.1.bytes)) := by
  induction bs generalizing s with
  | nil => cases h; simp
  | cons p bs ih =>
    obtain ⟨b, rest⟩ := p
    unfold scanBlocks at h
    split at h
    · rename_i s'' hs''
      obtain ⟨hc, hk, hd⟩ := scanStep_ok hs''
      obtain ⟨hc', hk', hd'⟩ := ih h
      refine ⟨by simp only [List.countP_cons]; omega, by simp only [List.countP_cons]; omega, ?_⟩
      rw [hd', hd, List.find?_cons]
      cases b.isCertificate <;> cases s.certDecodedBlock <;> rfl
    · rename_i r hr
      exact (hr s' h).elim

/-! ## A library to run the loader on -/

def sampleBlockType (x : UInt8) : String :=
  if x = 1 then "CERTIFICATE" else if x = 2 then "RSA PRIVATE KEY"
  else if x = 3 then "ENCRYPTED PRIVATE KEY" else "EC PARAMETERS"

def sampleDecoder : PemDecoder where
  decode := fun
    | [] => none
    | x :: rest => some (⟨sampleBlockType x, .empty, [x]⟩, rest)
  rest_suffix {data _ _} h := by
    cases data with
    | nil => cases h
    | cons x xs => cases h; exact List.suffix_cons _ _
  rest_shorter {data _ _} h := by
    cases data with
    | nil => cases h
    | cons x xs => cases h; exact Nat.lt_succ_self _

/-- A library whose `key.pem` holds a key block and whose `cert.pem` a certificate. -/
def sampleCertLib : CertLib where
  readFile f :=
    if f = "key.pem" then .ok [2] else if f = "cert.pem" then .ok [1] else .error ⟨0⟩
  newCertPool := ⟨1⟩
  appendCertsFromPEM pool data := (pool, !data.isEmpty)
  decoder := sampleDecoder
  isEncryptedPEMBlock _ := false
  decryptPEMBlock _ _ := .error ⟨2⟩
  parsePKCS8PrivateKey _ _ := .error ⟨2⟩
  marshalPKCS8PrivateKey _ := .error ⟨2⟩
  pemEncode b := .ok b.bytes
  x509KeyPair _ _ := .ok ⟨3⟩
  parseCertificate der := .ok ⟨der.length⟩
  subjectString _ := "CN=client,O=MongoDB"

theorem pemBlocks_sample :
    pemBlocks sampleCertLib [1, 2] =
      [(⟨"CERTIFICATE", .empty, [1]⟩, [2]), (⟨"RSA PRIVATE KEY", .empty, [2]⟩, [])] := by
  rw [pemBlocks_of_decode_some _ rfl, pemBlocks_of_decode_some _ rfl,
    pemBlocks_of_decode_none _ rfl]
  rfl

theorem scanLoop_of_scanStep_ok {data : List UInt8} {keyPasswd : String} {s s' : PemScan}
    {remaining rest : List UInt8} {b : PemBlock} (h : lib.decoder.decode remaining = some (b, rest))
    (hs : scanStep lib data keyPasswd s b rest = some (.ok s')) :
    scanLoop lib data keyPasswd s remaining = scanLoop lib data keyPasswd s' rest := by
  rw [scanLoop_of_decode_some lib h, hs]

/-! ## The certificate loader -/

theorem addClientCertFromBytes_of_scanLoop {cfg : TLSConfig} {data : List UInt8}
    {keyPasswd : String} {s : PemScan}
    (hs : scanLoop lib data keyPasswd .init data = some (.ok s)) :
    addClientCertFromBytes lib cfg data keyPasswd = some (
      if s.certBlocks.length = 0 then .error .noCertificate
      else if s.keyBlocks.length = 0 then .error .noPrivateKey
      else match lib.x509KeyPair (bytesJoin s.certBlocks [10]) (bytesJoin s.keyBlocks [10]),
          lib.parseCertificate (s.certDecodedBlock.getD []) with
        | .ok cert, .ok crt =>
          .ok ({ cfg with certificates := cfg.certificates ++ [cert] }, lib.subjectString crt)
        | .error err, _ => .error (.lib err)
        | .ok _, .error err => .error (.lib err)) := by
  rw [addClientCertFromBytes, hs, Option.map_some']
  congr 1
  show (if _ then _ else _) = _
  split_ifs <;> try rfl
  cases lib.x509KeyPair (bytesJoin s.certBlocks [10]) (bytesJoin s.keyBlocks [10]) <;>
    cases lib.parseCertificate (s.certDecodedBlock.getD []) <;> rfl

/-- `addClientCertFromBytes` never panics: every slice it takes is in bounds. -/
theorem addClientCertFromBytes_isSome (cfg : TLSConfig) (data : List UInt8)
    (keyPasswd : String) : (addClientCertFromBytes lib cfg data keyPasswd).isSome := by
  rw [addClientCertFromBytes, Option.isSome_map']
  exact scanLoop_isSome keyPasswd (scanInv_init data)

/-- Without encrypted keys the loop ends normally, its kept slices tiling the input. -/
theorem scanLoop_init_tiles (data : List UInt8) (keyPasswd : String)
    (h : ∀ p ∈ pemBlocks lib data, isEncryptedKey lib p.1 = false) :
    ∃ s, scanLoop lib data keyPasswd .init data = some (.ok s) ∧ Tiles data s :=
  scanLoop_tiles keyPasswd (scanInv_init data) (tiles_init data) h

theorem scanLoop_init_tiles_sample :
    (∀ p ∈ pemBlocks sampleCertLib [1, 2], isEncryptedKey sampleCertLib p.1 = false) ∧
      ∃ s, scanLoop sampleCertLib [1, 2] "" .init [1, 2] = some (.ok s) ∧ Tiles [1, 2] s :=
  have h : ∀ p ∈ pemBlocks sampleCertLib [1, 2], isEncryptedKey sampleCertLib p.1 = false := by
    rw [pemBlocks_sample]; decide
  ⟨h, scanLoop_init_tiles [1, 2] "" h⟩

/-- Without a password, an encrypted key anywhere fails the call, whatever precedes it. -/
theorem addClientCertFromBytes_noPassword (cfg : TLSConfig) (data : List UInt8)
    (h : ∃ p ∈ pemBlocks lib data, isEncryptedKey lib p.1 = true) :
    addClientCertFromBytes lib cfg data "" = some (.error .noPassword) := by
  rw [addClientCertFromBytes, scanLoop_noPassword (scanInv_init data) h]
  rfl

theorem addClientCertFromBytes_noPassword_sample :
    (∃ p ∈ pemBlocks sampleCertLib [1, 3], isEncryptedKey sampleCertLib p.1 = true) ∧
      addClientCertFromBytes sampleCertLib .new [1, 3] "" = some (.error .noPassword) :=
  have h : ∃ p ∈ pemBlocks sampleCertLib [1, 3], isEncryptedKey sampleCertLib p.1 = true := by
    rw [pemBlocks_of_decode_some _ rfl, pemBlocks_of_decode_some _ rfl,
      pemBlocks_of_decode_none _ rfl]
    decide
  ⟨h, addClientCertFromBytes_noPassword .new [1, 3] h⟩

/-- Without encrypted keys, the call fails exactly when a CERTIFICATE or PRIVATE KEY is missing. -/
theorem addClientCertFromBytes_missing_block (cfg : TLSConfig) (data : List UInt8)
    (keyPasswd : String) (h : ∀ p ∈ pemBlocks lib data, isEncryptedKey lib p.1 = false) :
    (addClientCertFromBytes lib cfg data keyPasswd = some (.error .noCertificate) ↔
      ∀ p ∈ pemBlocks lib data, p.1.isCertificate = false) ∧
    (addClientCertFromBytes lib cfg data keyPasswd = some (.error .noPrivateKey) ↔
      (∃ p ∈ pemBlocks lib data, p.1.isCertificate = true) ∧
        ∀ p ∈ pemBlocks lib data, p.1.isPrivateKey = false) := by
  obtain ⟨s, hs, -⟩ := scanLoop_tiles keyPasswd (scanInv_init data) (tiles_init data) h
  obtain ⟨hc, hk, -⟩ :=
    scanBlocks_ok ((scanLoop_eq_scanBlocks lib data keyPasswd _ _).symm.trans hs)
  have hc0 : s.certBlocks.length = 0 ↔ ∀ p ∈ pemBlocks lib data, p.1.isCertificate = false := by
    simp [hc, PemScan.init, List.countP_eq_zero]
  have hk0 : s.keyBlocks.length = 0 ↔ ∀ p ∈ pemBlocks lib data, p.1.isPrivateKey = false := by
    simp [hk, PemScan.init, List.countP_eq_zero]
  have hex : (∃ p ∈ pemBlocks lib data, p.1.isCertificate = true) ↔ s.certBlocks.length ≠ 0 := by
    rw [Ne, hc0]; simp
  rw [addClientCertFromBytes_of_scanLoop hs, ← hc0, hex, ← hk0]
  by_cases h1 : s.certBlocks.length = 0
  · simp [h1]
  by_cases h2 : s.keyBlocks.length = 0
  · simp [h1, h2]
  simp only [h1, h2, if_false, false_and, iff_false, Option.some.injEq, not_false_eq_true,
    and_false]
  constructor <;> split <;> simp

theorem addClientCertFromBytes_missing_block_sample :
    (∀ p ∈ pemBlocks sampleCertLib [1, 2], isEncryptedKey sampleCertLib p.1 = false) ∧
    (addClientCertFromBytes sampleCertLib .new [1, 2] "" = some (.error .noCertificate) ↔
      ∀ p ∈ pemBlocks sampleCertLib [1, 2], p.1.isCertificate = false) ∧
    (addClientCertFromBytes sampleCertLib .new [1, 2] "" = some (.error .noPrivateKey) ↔
      (∃ p ∈ pemBlocks sampleCertLib [1, 2], p.1.isCertificate = true) ∧
        ∀ p ∈ pemBlocks sampleCertLib [1, 2], p.1.isPrivateKey = false) :=
  have h : ∀ p ∈ pemBlocks sampleCertLib [1, 2], isEncryptedKey sampleCertLib p.1 = false := by
    rw [pemBlocks_sample]; decide
  ⟨h, addClientCertFromBytes_missing_block .new [1, 2] "" h⟩

/-- A successful call returns the first certificate's subject and adds one certificate. -/
theorem addClientCertFromBytes_subject {cfg cfg' : TLSConfig} {data : List UInt8}
    {keyPasswd subject : String}
    (h : addClientCertFromBytes lib cfg data keyPasswd = some (.ok (cfg', subject))) :
    ∃ b rest crt, (pemBlocks lib data).find? (·.1.isCertificate) = some (b, rest) ∧
      lib.parseCertificate b.bytes = .ok crt ∧ subject = lib.subjectString crt ∧
      ∃ cert, cfg' = { cfg with certificates := cfg.certificates ++ [cert] } := by
  rcases hs : scanLoop lib data keyPasswd .init data with _ | _ | s
  · rw [addClientCertFromBytes, hs] at h; cases h
  · rw [addClientCertFromBytes, hs] at h; cases h
  obtain ⟨hc, -, hd⟩ :=
    scanBlocks_ok ((scanLoop_eq_scanBlocks lib data keyPasswd _ _).symm.trans hs)
  rw [addClientCertFromBytes_of_scanLoop hs] at h
  split_ifs at h with h1 h2
  · cases h
  · cases h
  have hpos : 0 < (pemBlocks lib data).countP (·.1.isCertificate) := by
    simp only [PemScan.init, List.length_nil, Nat.zero_add] at hc; omega
  obtain ⟨⟨b, rest⟩, hb⟩ := Option.isSome_iff_exists.mp
    (List.find?_isSome.mpr (List.countP_pos_iff.mp hpos))
  simp only [PemScan.init, hb, Option.map_some', Option.none_or] at hd
  rw [hd, Option.getD_some] at h
  split at h
  · rename_i cert crt _ hcrt
    cases h
    exact ⟨b, rest, crt, hb, hcrt, rfl, cert, rfl⟩
  · cases h
  · cases h

theorem addClientCertFromBytes_subject_sample :
    addClientCertFromBytes sampleCertLib .new [1, 2] "" =
        some (.ok (⟨none, false, [⟨3⟩]⟩, "CN=client,O=MongoDB")) ∧
      ∃ b rest crt, (pemBlocks sampleCertLib [1, 2]).find? (·.1.isCertificate) = some (b, rest) ∧
        sampleCertLib.parseCertificate b.bytes = .ok crt ∧
        "CN=client,O=MongoDB" = sampleCertLib.subjectString crt ∧
        ∃ cert, (⟨none, false, [⟨3⟩]⟩ : TLSConfig) =
          { TLSConfig.new with certificates := TLSConfig.new.certificates ++ [cert] } :=
  have h : addClientCertFromBytes sampleCertLib .new [1, 2] "" =
      some (.ok (⟨none, false, [⟨3⟩]⟩, "CN=client,O=MongoDB")) := by
    have h1 : scanLoop sampleCertLib [1, 2] "" .init [1, 2] =
        scanLoop sampleCertLib [1, 2] "" ⟨1, some [1], [[1]], []⟩ [2] :=
      scanLoop_of_scanStep_ok rfl rfl
    have h2 : scanLoop sampleCertLib [1, 2] "" ⟨1, some [1], [[1]], []⟩ [2] =
        scanLoop sampleCertLib [1, 2] "" ⟨2, some [1], [[1]], [[2]]⟩ [] :=
      scanLoop_of_scanStep_ok rfl rfl
    rw [addClientCertFromBytes_of_scanLoop (h1.trans (h2.trans (scanLoop_of_decode_none _ rfl)))]
    rfl
  ⟨h, addClientCertFromBytes_subject h⟩

theorem addClientCertFromConcatenatedFile_isSome (cfg : TLSConfig)
    (certKeyFile keyPassword : String) :
    (addClientCertFromConcatenatedFile lib cfg certKeyFile keyPassword).isSome := by
  unfold addClientCertFromConcatenatedFile
  split
  · rfl
  · rw [addClientCertFromBytes, Option.isSome_map']; exact scanLoop_isSome _ (scanInv_init _)

theorem addClientCertFromSeparateFiles_isSome (intSize : Nat) (cfg : TLSConfig)
    (keyFile certFile keyPassword : String) :
    (addClientCertFromSeparateFiles lib intSize cfg keyFile certFile keyPassword).isSome := by
  unfold addClientCertFromSeparateFiles
  split
  · rfl
  split
  · rfl
  dsimp only
  split_ifs
  iterate 3 rfl
  rw [addClientCertFromBytes, Option.isSome_map']; exact scanLoop_isSome _ (scanInv_init _)

end MongoDriver.Options
