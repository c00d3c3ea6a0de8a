import MongoDriver.Topology.System

/-! # What the winning `connect` call leaves

The winner's steps read only the configuration and the fields it writes itself, so what it
does is fixed by the collaborators' answers, whatever the other goroutines do: they only move
the state from connected to disconnected, write the read marker and close the socket. Below,
what `connect` attempts is written out stage by stage, and each point of the winner carries
what it has established, step by step.
-/

namespace MongoDriver.Topology

namespace ConnectOutcomes

variable (o : ConnectOutcomes) (cfg : ConnectionConfig)

def dialedSocket : Option NetConn :=
  match o.dial with
  | .ok localAddr => some (.raw localAddr)
  | .error _ => none

def tlsFails : Bool :=
  match cfg.tlsConfig with
  | none => false
  | some t => o.tlsHandshake.isSome || (!t.insecureSkipVerify && o.ocspVerify.isSome)

def tlcpFails : Bool := cfg.tlcpConfig && o.tlcpHandshake.isSome

def handshakeFails : Bool :=
  match o.getHandshakeInformation with
  | .error _ => true
  | .ok info => (cfg.loadBalanced && info.description.serviceID.isNone) || o.finishHandshake.isSome

/-- Some step `connect` attempts fails, or load-balanced mode meets a nil service id. -/
def fails : Bool :=
  o.dialedSocket.isNone || o.tlsFails cfg || o.tlcpFails cfg ||
    (cfg.handshaker && o.handshakeFails cfg)

def tlsSocket : Option NetConn :=
  if cfg.tlsConfig.isSome then o.dialedSocket.map .tls else o.dialedSocket

def tlcpSocket : Option NetConn :=
  if cfg.tlcpConfig then (o.tlsSocket cfg).map .tlcp else o.tlsSocket cfg

/-- The socket actually dialed, in its last successfully wrapped form. -/
def finalSocket : Option NetConn :=
  if o.tlsFails cfg then o.dialedSocket
  else if o.tlcpFails cfg then o.tlsSocket cfg
  else o.tlcpSocket cfg

def reachesHandshake : Bool :=
  o.dialedSocket.isSome && !o.tlsFails cfg && !o.tlcpFails cfg && cfg.handshaker

/-- What hello returned, when `connect` called it and it succeeded. -/
def hello? : Option HandshakeInformation :=
  if o.reachesHandshake cfg then
    match o.getHandshakeInformation with
    | .ok info => some info
    | .error _ => none
  else none

def generationCalls : List (Option ObjectID) :=
  match o.hello? cfg, cfg.getGenerationFn with
  | some info, some _ =>
    if cfg.loadBalanced && info.description.serviceID.isSome then [info.description.serviceID]
    else []
  | _, _ => []

def finalDesc (d : Server) : Server :=
  match o.hello? cfg with
  | some info => info.description
  | none => d

def finalGeneration (g : Nat) : Nat :=
  match o.hello? cfg, cfg.getGenerationFn with
  | some info, some getGenerationFn =>
    if cfg.loadBalanced && info.description.serviceID.isSome then
      getGenerationFn info.description.serviceID
    else g
  | _, _ => g

/-- The socket `connect` holds at each of its points. -/
def ncAt : ConnectPc → Option NetConn
  | .tls | .tlsConfigured _ => o.dialedSocket
  | .tlcp | .tlcpConfigured _ => o.tlsSocket cfg
  | .handshake | .generation | .finish | .compress => o.tlcpSocket cfg
  | .teardown _ | .closeNc _ | .done _ | .returned _ => o.finalSocket cfg
  | _ => none

/-- The answers that lead `connect` to each of its points. -/
def PathAt : ConnectPc → Prop
  | .dial => True
  | .dialed n => o.dialedSocket = some n
  | .tls => o.dialedSocket.isSome
  | .tlsConfigured n =>
    o.dialedSocket.isSome ∧ o.tlsFails cfg = false ∧ o.tlsSocket cfg = some n
  | .tlcp => o.dialedSocket.isSome ∧ o.tlsFails cfg = false
  | .tlcpConfigured n =>
    o.dialedSocket.isSome ∧ o.tlsFails cfg = false ∧ o.tlcpFails cfg = false ∧
      o.tlcpSocket cfg = some n
  | .handshake => o.dialedSocket.isSome ∧ o.tlsFails cfg = false ∧ o.tlcpFails cfg = false
  | .generation | .finish =>
    o.reachesHandshake cfg ∧
      (∃ info, o.getHandshakeInformation = .ok info ∧
        (cfg.loadBalanced → info.description.serviceID.isSome)) ∧
      o.fails cfg = o.finishHandshake.isSome
  | .compress => o.reachesHandshake cfg ∧ o.fails cfg = false
  | .teardown _ | .closeNc _ => o.fails cfg
  | .done r | .returned r => r.isSome = o.fails cfg
  | .start | .lost | .panicked => False

end ConnectOutcomes

namespace ConnectPc

/-- The points after hello or a failure, where the description is final. -/
def described : ConnectPc → Bool
  | .generation | .finish | .compress | .teardown _ | .closeNc _ | .done _ | .returned _ => true
  | _ => false

/-- The points after `setGenerationNumber` or a failure, where the generation is final too. -/
def final : ConnectPc → Bool
  | .finish | .compress | .teardown _ | .closeNc _ | .done _ | .returned _ => true
  | _ => false

def stored : ConnectPc → Bool
  | .closeNc _ => true
  | .done r | .returned r => r.isSome
  | _ => false

def closed : ConnectPc → Bool
  | .done r | .returned r => r.isSome
  | _ => false

def isReturned : ConnectPc → Bool
  | .returned _ => true
  | _ => false

def early : ConnectPc → Bool
  | .dial | .dialed _ | .tls | .tlsConfigured _ | .tlcp | .tlcpConfigured _ | .handshake => true
  | _ => false

theorem flags_of_early {pc : ConnectPc} (h : pc.early) :
    pc.described = false ∧ pc.final = false ∧ pc.isReturned = false ∧ pc.stored = false ∧
      pc.closed = false := by
  cases pc <;> simp_all [early, described, final, isReturned, stored, closed]

theorem described_of_final {pc : ConnectPc} (h : pc.final) : pc.described := by
  cases pc <;> simp_all [described, final]

end ConnectPc

def Invocation.isGetGenerationFn : Invocation → Bool
  | .getGenerationFn _ => true
  | _ => false

def generationLog (log : List (Option Nat × Invocation)) : List (Option Nat × Invocation) :=
  log.filter fun e => e.2.isGetGenerationFn

@[simp] theorem generationLog_append (l₁ l₂ : List (Option Nat × Invocation)) :
    generationLog (l₁ ++ l₂) = generationLog l₁ ++ generationLog l₂ := by
  simp only [generationLog, List.filter_append]

@[simp] theorem generationLog_nil : generationLog [] = [] := rfl

@[simp] theorem generationLog_cons (e : Option Nat × Invocation)
    (l : List (Option Nat × Invocation)) :
    generationLog (e :: l) =
      if e.2.isGetGenerationFn then e :: generationLog l else generationLog l := by
  simp only [generationLog, List.filter_cons]

theorem generationLog_map {i : Option Nat} {l : List Invocation}
    (h : ∀ x ∈ l, x.isGetGenerationFn = false) : generationLog (l.map (i, ·)) = [] := by
  induction l with
  | nil => rfl
  | cons x l ih =>
    simp [h x (List.mem_cons_self x l), ih fun y hy => h y (List.mem_cons_of_mem x hy)]

/-- What the winning call `i` has established at point `pc`, from what `newConnection` left. -/
structure ConnectAt (c₀ : Connection) (log₀ : List (Option Nat × Invocation))
    (o : ConnectOutcomes) (i : Nat) (pc : ConnectPc) (c : Connection)
    (log : List (Option Nat × Invocation)) : Prop where
  path : o.PathAt c₀.config pc
  nc : c.nc = o.ncAt c₀.config pc
  desc : c.desc = if pc.described then o.finalDesc c₀.config c₀.desc else c₀.desc
  generation :
    c.generation =
      if pc.final then o.finalGeneration c₀.config c₀.generation else c₀.generation
  connectDone : c.connectDone = pc.isReturned
  generations : generationLog log = generationLog log₀ ++
    if pc.final then (o.generationCalls c₀.config).map fun sid => (some i, .getGenerationFn sid)
    else []
  hello : pc.described → o.reachesHandshake c₀.config → (some i, .getHandshakeInformation) ∈ log
  stored : pc.stored → c.state = .disconnected
  closed : pc.closed → ∀ n, o.finalSocket c₀.config = some n →
    (some i, .netConnClose n) ∈ log

section Frame

variable {c₀ c c' : Connection} {log₀ log : List (Option Nat × Invocation)}
  {o : ConnectOutcomes} {i : Nat} {pc : ConnectPc}

/-- Another goroutine's step keeps what the winner has established. -/
theorem ConnectAt.frame (h : ConnectAt c₀ log₀ o i pc c log) (hf : c.Frame c')
    (new : List (Option Nat × Invocation)) (hnew : generationLog new = []) :
    ConnectAt c₀ log₀ o i pc c' (log ++ new) := by
  obtain ⟨hst, hc'⟩ := hf
  obtain ⟨hp, hn, hd, hg, hdone, hgen, hhello, hstored, hclosed⟩ := h
  have hD : c.state = .disconnected → c'.state = .disconnected := by
    intro hd'; rcases hst with hs | ⟨hs, -⟩
    · rw [hs, hd']
    · rw [hd'] at hs; cases hs
  have hnc : c'.nc = c.nc := by rw [hc']
  have hdesc : c'.desc = c.desc := by rw [hc']
  have hgn : c'.generation = c.generation := by rw [hc']
  have hcd : c'.connectDone = c.connectDone := by rw [hc']
  refine ⟨hp, hnc ▸ hn, hdesc ▸ hd, hgn ▸ hg, hcd ▸ hdone,
    by rw [generationLog_append, hnew, List.append_nil, hgen],
    fun a b => List.mem_append_left _ (hhello a b), fun a => hD (hstored a),
    fun a n hn' => List.mem_append_left _ (hclosed a n hn')⟩

end Frame

namespace ConnectOutcomes

variable {o : ConnectOutcomes} {cfg : ConnectionConfig}

theorem tlsSocket_isSome : (o.tlsSocket cfg).isSome = o.dialedSocket.isSome := by
  unfold tlsSocket; split <;> simp

theorem finalSocket_of_dial (h : o.dialedSocket = none) : o.finalSocket cfg = none := by
  simp [finalSocket, tlsSocket, tlcpSocket, h]

theorem finalSocket_of_tlsFails (h : o.tlsFails cfg = true) : o.finalSocket cfg = o.dialedSocket :=
  if_pos h

theorem finalSocket_of_tlcpFails (h₁ : o.tlsFails cfg = false) (h₂ : o.tlcpFails cfg = true) :
    o.finalSocket cfg = o.tlsSocket cfg := by
  simp [finalSocket, h₁, h₂]

theorem finalSocket_of_secured (h₁ : o.tlsFails cfg = false) (h₂ : o.tlcpFails cfg = false) :
    o.finalSocket cfg = o.tlcpSocket cfg := by
  simp [finalSocket, h₁, h₂]

theorem final_of_hello_none (h : o.hello? cfg = none) :
    (∀ d, o.finalDesc cfg d = d) ∧ (∀ g, o.finalGeneration cfg g = g) ∧
      o.generationCalls cfg = [] := by
  simp [finalDesc, finalGeneration, generationCalls, h]

theorem hello_of_not_reaches (h : o.reachesHandshake cfg = false) : o.hello? cfg = none := by
  simp [hello?, h]

theorem success_of_not_fails (hf : o.fails cfg = false) (hk : cfg.handshaker) :
    ∃ info, o.getHandshakeInformation = .ok info ∧ o.hello? cfg = some info ∧
      (o.finalSocket cfg).isSome ∧ (cfg.loadBalanced → info.description.serviceID.isSome) := by
  simp only [fails, Bool.or_eq_false_iff, Option.isNone_iff_eq_none] at hf
  obtain ⟨⟨⟨hd, ht⟩, hp⟩, hh⟩ := hf
  obtain ⟨n, hn⟩ : ∃ n, o.dialedSocket = some n := by
    cases h : o.dialedSocket with
    | none => simp [h] at hd
    | some n => exact ⟨n, rfl⟩
  rw [hk, Bool.true_and] at hh
  have hreach : o.reachesHandshake cfg := by simp [reachesHandshake, ht, hp, hk, hn]
  rcases hi : o.getHandshakeInformation with e | info
  · simp [handshakeFails, hi] at hh
  · refine ⟨info, rfl, by simp [hello?, hreach, hi], ?_, fun hlb => ?_⟩
    · rw [finalSocket_of_secured ht hp]
      unfold tlcpSocket tlsSocket
      simp only [hn]
      split <;> split <;> rfl
    · simp only [handshakeFails, hi, hlb, Bool.true_and, Bool.or_eq_false_iff] at hh
      cases hs : info.description.serviceID <;> simp_all

theorem generation_of_no_call {info : HandshakeInformation} (hh : o.hello? cfg = some info)
    (h : (cfg.loadBalanced && info.description.serviceID.isSome) = false) :
    o.generationCalls cfg = [] ∧ ∀ g, o.finalGeneration cfg g = g := by
  unfold generationCalls finalGeneration
  rw [hh]
  cases cfg.getGenerationFn <;> simp [h]

theorem generation_of_no_fn (hfn : cfg.getGenerationFn = none) :
    o.generationCalls cfg = [] ∧ ∀ g, o.finalGeneration cfg g = g := by
  unfold generationCalls finalGeneration
  rw [hfn]
  cases o.hello? cfg <;> simp

theorem generation_of_call {info : HandshakeInformation} {getGenerationFn : Option ObjectID → Nat}
    (hh : o.hello? cfg = some info) (hfn : cfg.getGenerationFn = some getGenerationFn)
    (hlb : cfg.loadBalanced) (hsid : info.description.serviceID.isSome) :
    o.generationCalls cfg = [info.description.serviceID] ∧
      ∀ g, o.finalGeneration cfg g = getGenerationFn info.description.serviceID := by
  simp [generationCalls, finalGeneration, hh, hfn, hlb, hsid]

theorem generation_of_not_loadBalanced (hlb : cfg.loadBalanced = false) :
    o.generationCalls cfg = [] ∧ ∀ g, o.finalGeneration cfg g = g := by
  unfold generationCalls finalGeneration
  constructor <;> split <;> simp [hlb]

theorem secured_of_reaches (h : o.reachesHandshake cfg) :
    o.tlsFails cfg = false ∧ o.tlcpFails cfg = false := by
  revert h; unfold reachesHandshake
  cases o.tlsFails cfg <;> cases o.tlcpFails cfg <;> simp

end ConnectOutcomes

section Step

variable {lib : Library} {c₀ c c' : Connection} {log₀ log : List (Option Nat × Invocation)}
  {o : ConnectOutcomes} {i : Nat} {pc pc' : ConnectPc}

theorem ConnectAt.early_iff (he : pc.early) :
    ConnectAt c₀ log₀ o i pc c log ↔
      o.PathAt c₀.config pc ∧ c.nc = o.ncAt c₀.config pc ∧
      c.desc = c₀.desc ∧ c.generation = c₀.generation ∧ c.connectDone = false ∧
      generationLog log = generationLog log₀ := by
  obtain ⟨hD, hf, hr, hs, hc⟩ := ConnectPc.flags_of_early he
  constructor
  · rintro ⟨hp, hn, hd, hg, hdone, hgen, -, -, -⟩
    simp only [hD, hf, hr, if_false, Bool.false_eq_true, List.append_nil] at hd hg hdone hgen
    exact ⟨hp, hn, hd, hg, hdone, hgen⟩
  · rintro ⟨hp, hn, hd, hg, hdone, hgen⟩
    exact ⟨hp, hn, by simp [hD, hd], by simp [hf, hg], by simp [hr, hdone], by simp [hf, hgen],
      by simp [hD], by simp [hs], by simp [hc]⟩

theorem ConnectAt.advance (he : pc.early) (he' : pc'.early) (h : ConnectAt c₀ log₀ o i pc c log)
    (hp : o.PathAt c₀.config pc') (hn : c'.nc = o.ncAt c₀.config pc') (hd : c'.desc = c.desc)
    (hg : c'.generation = c.generation) (hdone : c'.connectDone = c.connectDone)
    (new : List (Option Nat × Invocation)) (hnew : generationLog new = []) :
    ConnectAt c₀ log₀ o i pc' c' (log ++ new) := by
  obtain ⟨-, -, hd₀, hg₀, hdone₀, hgen₀⟩ := (ConnectAt.early_iff he).mp h
  exact (ConnectAt.early_iff he').mpr
    ⟨hp, hn, hd.trans hd₀, hg.trans hg₀, hdone.trans hdone₀,
      by rw [generationLog_append, hnew, List.append_nil, hgen₀]⟩

theorem ConnectAt.fail (he : pc.early) (h : ConnectAt c₀ log₀ o i pc c log)
    (hf : o.fails c₀.config) (hhello : o.hello? c₀.config = none)
    (hn : c.nc = o.finalSocket c₀.config) (new : List (Option Nat × Invocation))
    (hnew : generationLog new = []) (hr : o.reachesHandshake c₀.config →
      (some i, .getHandshakeInformation) ∈ log ++ new) (e : Error) :
    ConnectAt c₀ log₀ o i (.teardown e) c (log ++ new) := by
  obtain ⟨-, -, hd₀, hg₀, hdone₀, hgen₀⟩ := (ConnectAt.early_iff he).mp h
  obtain ⟨hD, hG, hC⟩ := ConnectOutcomes.final_of_hello_none hhello
  exact ⟨hf, hn, by simp [ConnectPc.described, hD, hd₀], by simp [ConnectPc.final, hG, hg₀],
    by simp [ConnectPc.isReturned, hdone₀], by simp [ConnectPc.final, hC, hnew, hgen₀],
    fun _ => hr, by simp [ConnectPc.stored], by simp [ConnectPc.closed]⟩

theorem ConnectAt.late (h : ConnectAt c₀ log₀ o i pc c log) (hf : pc.final) (hf' : pc'.final)
    (hp : o.PathAt c₀.config pc') (hn : c'.nc = o.ncAt c₀.config pc') (hd : c'.desc = c.desc)
    (hg : c'.generation = c.generation) (hdone : c'.connectDone = pc'.isReturned)
    (new : List (Option Nat × Invocation)) (hnew : generationLog new = [])
    (hst : pc'.stored → c'.state = .disconnected)
    (hcl : pc'.closed → ∀ n, o.finalSocket c₀.config = some n →
      (some i, .netConnClose n) ∈ log ++ new) :
    ConnectAt c₀ log₀ o i pc' c' (log ++ new) := by
  obtain ⟨-, -, hd₀, hg₀, -, hgen₀, hhello, -, -⟩ := h
  have hD := ConnectPc.described_of_final hf
  simp only [hD, hf, if_true] at hd₀ hg₀ hgen₀
  exact ⟨hp, hn, by rw [hd, hd₀, if_pos (ConnectPc.described_of_final hf')],
    by rw [hg, hg₀, if_pos hf'], hdone,
    by rw [generationLog_append, hnew, List.append_nil, hgen₀, if_pos hf'],
    fun _ hr => List.mem_append_left _ (hhello hD hr), hst, hcl⟩

open ConnectOutcomes

theorem ConnectAt.step_dial (h : ConnectAt c₀ log₀ o i .dial c log) :
    ConnectAt c₀ log₀ o i (connectStep lib o c .dial).2.1 (connectStep lib o c .dial).1
      (log ++ (connectStep lib o c .dial).2.2.map (some i, ·)) := by
  have hn : c.nc = none := h.nc
  simp only [connectStep]
  rcases hdial : o.dial with e | a
  · have hds : o.dialedSocket = none := by simp [dialedSocket, hdial]
    have hreach : o.reachesHandshake c₀.config = false := by simp [reachesHandshake, hds]
    exact h.fail (by rfl) (by simp [fails, hds]) (hello_of_not_reaches hreach)
      (by rw [hn, finalSocket_of_dial hds]) _ (by simp [Invocation.isGetGenerationFn])
      (by simp [hreach]) _
  · exact h.advance (by rfl) (by rfl) (by simp [PathAt, dialedSocket, hdial])
      (by simp [ncAt, hn]) (by rfl) (by rfl) (by rfl) _ (by simp [Invocation.isGetGenerationFn])

theorem ConnectAt.step_dialed {n : NetConn} (h : ConnectAt c₀ log₀ o i (.dialed n) c log) :
    ConnectAt c₀ log₀ o i (connectStep lib o c (.dialed n)).2.1
      (connectStep lib o c (.dialed n)).1
      (log ++ (connectStep lib o c (.dialed n)).2.2.map (some i, ·)) := by
  have hp : o.dialedSocket = some n := h.path
  simp only [connectStep]
  exact h.advance (by rfl) (by rfl) (by simp [PathAt, hp]) (by simp [ncAt, hp])
    (by rfl) (by rfl) (by rfl) _ (by rfl)

theorem ConnectAt.step_tls (hcfg : c.config = c₀.config)
    (h : ConnectAt c₀ log₀ o i .tls c log) :
    ConnectAt c₀ log₀ o i (connectStep lib o c .tls).2.1 (connectStep lib o c .tls).1
      (log ++ (connectStep lib o c .tls).2.2.map (some i, ·)) := by
  have hp : o.dialedSocket.isSome := h.path
  have hn : c.nc = o.dialedSocket := h.nc
  obtain ⟨n, hn'⟩ := Option.isSome_iff_exists.mp hp
  rcases ht : c₀.config.tlsConfig with _ | t
  · have hf : o.tlsFails c₀.config = false := by simp [tlsFails, ht]
    simp only [connectStep, hcfg, ht]
    exact h.advance (by rfl) (by rfl) (by exact ⟨hp, hf⟩)
      (by simp [ncAt, tlsSocket, ht, hn, hn']) (by rfl) (by rfl) (by rfl) _ (by rfl)
  have hfail : o.tlsFails c₀.config = true → ∀ new e, generationLog new = [] →
      ConnectAt c₀ log₀ o i (.teardown e) c (log ++ new) := fun hf new e hnew =>
    h.fail (by rfl) (by simp [fails, hf]) (hello_of_not_reaches (by simp [reachesHandshake, hf]))
      (by rw [hn, finalSocket_of_tlsFails hf]) new hnew (by simp [reachesHandshake, hf]) e
  have hok : o.tlsFails c₀.config = false → ∀ new, generationLog new = [] →
      ConnectAt c₀ log₀ o i (.tlsConfigured (.tls n)) c (log ++ new) := fun hf new hnew =>
    h.advance (by rfl) (by rfl) (by exact ⟨hp, hf, by simp [tlsSocket, ht, hn']⟩)
      (by simp [ncAt, hn, hn']) (by rfl) (by rfl) (by rfl) new hnew
  simp only [connectStep, hcfg, ht, hn, hn']
  rcases hh : o.tlsHandshake with _ | e
  · simp only
    split
    · exact hok (by simp [tlsFails, ht, hh, *]) _ (by simp [Invocation.isGetGenerationFn])
    · rcases ho : o.ocspVerify with _ | e
      · exact hok (by simp [tlsFails, ht, hh, ho]) _ (by simp [Invocation.isGetGenerationFn])
      · exact hfail (by simp [tlsFails, ht, hh, ho, *]) _ _
          (by simp [Invocation.isGetGenerationFn])
  · exact hfail (by simp [tlsFails, ht, hh]) _ _ (by simp [Invocation.isGetGenerationFn])

theorem ConnectAt.step_tlsConfigured {n : NetConn}
    (h : ConnectAt c₀ log₀ o i (.tlsConfigured n) c log) :
    ConnectAt c₀ log₀ o i (connectStep lib o c (.tlsConfigured n)).2.1
      (connectStep lib o c (.tlsConfigured n)).1
      (log ++ (connectStep lib o c (.tlsConfigured n)).2.2.map (some i, ·)) := by
  obtain ⟨hd, hf, hs⟩ : o.dialedSocket.isSome ∧ o.tlsFails c₀.config = false ∧
      o.tlsSocket c₀.config = some n := h.path
  simp only [connectStep]
  exact h.advance (by rfl) (by rfl) (by exact ⟨hd, hf⟩) (by simp [ncAt, hs]) (by rfl) (by rfl)
    (by rfl) _ (by rfl)

theorem ConnectAt.step_tlcp (hcfg : c.config = c₀.config)
    (h : ConnectAt c₀ log₀ o i .tlcp c log) :
    ConnectAt c₀ log₀ o i (connectStep lib o c .tlcp).2.1 (connectStep lib o c .tlcp).1
      (log ++ (connectStep lib o c .tlcp).2.2.map (some i, ·)) := by
  obtain ⟨hd, hf⟩ : o.dialedSocket.isSome ∧ o.tlsFails c₀.config = false := h.path
  have hn : c.nc = o.tlsSocket c₀.config := h.nc
  have hts : (o.tlsSocket c₀.config).isSome := tlsSocket_isSome.trans hd
  obtain ⟨n, hn'⟩ := Option.isSome_iff_exists.mp hts
  cases htc : c₀.config.tlcpConfig
  · have hf' : o.tlcpFails c₀.config = false := by simp [tlcpFails, htc]
    simp only [connectStep, hcfg, htc]
    exact h.advance (by rfl) (by rfl) (by exact ⟨hd, hf, hf'⟩)
      (by simp [ncAt, tlcpSocket, htc, hn]) (by rfl) (by rfl) (by rfl) _ (by rfl)
  simp only [connectStep, hcfg, htc, hn, hn']
  rcases hh : o.tlcpHandshake with _ | e
  · have hf' : o.tlcpFails c₀.config = false := by simp [tlcpFails, hh]
    exact h.advance (by rfl) (by rfl)
      (by exact ⟨hd, hf, hf', by simp [tlcpSocket, htc, hn']⟩) (by simp [ncAt, hn, hn'])
      (by rfl) (by rfl) (by rfl) _ (by simp [Invocation.isGetGenerationFn])
  · have hf' : o.tlcpFails c₀.config = true := by simp [tlcpFails, htc, hh]
    exact h.fail (by rfl) (by simp [fails, hf'])
      (hello_of_not_reaches (by simp [reachesHandshake, hf']))
      (by rw [hn, finalSocket_of_tlcpFails hf hf']) _ (by simp [Invocation.isGetGenerationFn])
      (by simp [reachesHandshake, hf']) _

theorem ConnectAt.step_tlcpConfigured {n : NetConn}
    (h : ConnectAt c₀ log₀ o i (.tlcpConfigured n) c log) :
    ConnectAt c₀ log₀ o i (connectStep lib o c (.tlcpConfigured n)).2.1
      (connectStep lib o c (.tlcpConfigured n)).1
      (log ++ (connectStep lib o c (.tlcpConfigured n)).2.2.map (some i, ·)) := by
  obtain ⟨hd, hf, hf', hs⟩ : o.dialedSocket.isSome ∧ o.tlsFails c₀.config = false ∧
      o.tlcpFails c₀.config = false ∧ o.tlcpSocket c₀.config = some n := h.path
  simp only [connectStep]
  exact h.advance (by rfl) (by rfl) (by exact ⟨hd, hf, hf'⟩) (by simp [ncAt, hs]) (by rfl)
    (by rfl) (by rfl) _ (by rfl)

theorem ConnectAt.step_handshake (hcfg : c.config = c₀.config)
    (h : ConnectAt c₀ log₀ o i .handshake c log) :
    ConnectAt c₀ log₀ o i (connectStep lib o c .handshake).2.1
      (connectStep lib o c .handshake).1
      (log ++ (connectStep lib o c .handshake).2.2.map (some i, ·)) := by
  obtain ⟨hd, hf, hf'⟩ : o.dialedSocket.isSome ∧ o.tlsFails c₀.config = false ∧
      o.tlcpFails c₀.config = false := h.path
  obtain ⟨-, hn, hdesc, hgen, hdone, hgl⟩ := (ConnectAt.early_iff (by rfl)).mp h
  have hsock : c.nc = o.finalSocket c₀.config := by rw [hn, finalSocket_of_secured hf hf']; rfl
  cases hk : c₀.config.handshaker
  · -- no handshaker: `connect` returns nil
    have hreach : o.reachesHandshake c₀.config = false := by simp [reachesHandshake, hk]
    obtain ⟨hD, hG, hC⟩ := final_of_hello_none (hello_of_not_reaches hreach)
    simp only [connectStep, hcfg, hk, Bool.not_false, if_true]
    exact ⟨by simp [PathAt, fails, hd, hf, hf', hk], hsock,
      by simp [ConnectPc.described, hD, hdesc],
      by simp [ConnectPc.final, hG, hgen], by simp [ConnectPc.isReturned, hdone],
      by simp [ConnectPc.final, hC, hgl], by simp [hreach], by simp [ConnectPc.stored],
      by simp [ConnectPc.closed]⟩
  have hreach : o.reachesHandshake c₀.config = true := by
    simp [reachesHandshake, hd, hf, hf', hk]
  simp only [connectStep, hcfg, hk, Bool.not_true, Bool.false_eq_true, if_false]
  rcases hi : o.getHandshakeInformation with e | info
  · -- hello fails
    exact h.fail (by rfl) (by simp [fails, handshakeFails, hi, hk]) (by simp [hello?, hi]) hsock _
      (by simp [Invocation.isGetGenerationFn]) (fun _ => by simp) _
  have hhello : o.hello? c₀.config = some info := by simp [hello?, hreach, hi]
  have hdesc' : o.finalDesc c₀.config c₀.desc = info.description := by simp [finalDesc, hhello]
  -- hello returned: the description is stored, then the check of load-balanced mode
  simp only
  split
  · -- load-balanced mode without a service id
    obtain ⟨hlb, hsid⟩ := ‹_ ∧ _›
    obtain ⟨hC, hG⟩ := generation_of_no_call hhello (by simp [hsid])
    exact ⟨by simp [PathAt, fails, handshakeFails, hi, hk, hlb, hsid], hsock,
      by simp [ConnectPc.described, hdesc'], by simp [ConnectPc.final, hG, hgen],
      by simp [ConnectPc.isReturned, hdone],
      by simp [ConnectPc.final, hC, hgl, Invocation.isGetGenerationFn], fun _ _ => by simp,
      by simp [ConnectPc.stored], by simp [ConnectPc.closed]⟩
  rename_i hm
  have hlbs : (c₀.config.loadBalanced && info.description.serviceID.isNone) = false := by
    cases hlb : c₀.config.loadBalanced
    · rfl
    · cases hs : info.description.serviceID
      · exact absurd ⟨hlb, hs⟩ hm
      · rfl
  have hdn : o.dialedSocket ≠ none := fun h' => by simp [h'] at hd
  refine ⟨⟨hreach, ⟨info, hi, fun hlb => ?_⟩, ?_⟩, by simpa [ncAt] using hn,
    by simp [ConnectPc.described, hdesc'], by simpa [ConnectPc.final] using hgen,
    by simpa [ConnectPc.isReturned] using hdone,
    by simp [ConnectPc.final, hgl, Invocation.isGetGenerationFn], fun _ _ => by simp,
    by simp [ConnectPc.stored], by simp [ConnectPc.closed]⟩
  · simpa [hlb] using hlbs
  · simp [fails, handshakeFails, hi, hk, hlbs, hdn, hf, hf']

theorem ConnectAt.step_generation (hcfg : c.config = c₀.config)
    (h : ConnectAt c₀ log₀ o i .generation c log) :
    ConnectAt c₀ log₀ o i (connectStep lib o c .generation).2.1
      (connectStep lib o c .generation).1
      (log ++ (connectStep lib o c .generation).2.2.map (some i, ·)) := by
  obtain ⟨hreach, ⟨info, hi, hsid⟩, hfails⟩ := h.path
  have hhello : o.hello? c₀.config = some info := by simp [hello?, hreach, hi]
  have hd : c.desc = info.description := by
    simpa [ConnectPc.described, finalDesc, hhello] using h.desc
  have hg : c.generation = c₀.generation := by simpa [ConnectPc.final] using h.generation
  have hgl : generationLog log = generationLog log₀ := by
    simpa [ConnectPc.final] using h.generations
  -- `setGenerationNumber` fixes the generation; the rest of the handshake comes next
  have hat : ∀ (c' : Connection) (new : List (Option Nat × Invocation)), c'.nc = c.nc →
      c'.desc = c.desc → c'.generation = o.finalGeneration c₀.config c₀.generation →
      c'.connectDone = c.connectDone →
      generationLog new =
        (o.generationCalls c₀.config).map (fun sid => (some i, .getGenerationFn sid)) →
      ConnectAt c₀ log₀ o i .finish c' (log ++ new) := fun c' new hn hd' hg' hcd hnew =>
    ⟨h.path, hn.trans h.nc, hd'.trans h.desc, by simp [ConnectPc.final, hg'],
      hcd.trans h.connectDone, by simp [ConnectPc.final, hnew, hgl],
      fun _ hr => List.mem_append_left _ (h.hello rfl hr), by simp [ConnectPc.stored],
      by simp [ConnectPc.closed]⟩
  simp only [connectStep, hcfg]
  split
  · rename_i hlb
    simp only [setGenerationNumber, hcfg]
    cases hfn : c₀.config.getGenerationFn with
    | none =>
      obtain ⟨hC, hG⟩ := generation_of_no_fn (o := o) hfn
      exact hat _ _ rfl rfl (by rw [hG, hg]) rfl (by simp [hC])
    | some getGenerationFn =>
      obtain ⟨hC, hG⟩ := generation_of_call hhello hfn hlb (hsid hlb)
      exact hat _ _ rfl rfl (by rw [hG, hd]) rfl (by simp [hC, hd, Invocation.isGetGenerationFn])
  · rename_i hlb
    obtain ⟨hC, hG⟩ := @generation_of_not_loadBalanced o c₀.config (by simpa using hlb)
    exact hat _ _ rfl rfl (by rw [hG, hg]) rfl (by simp [hC])

theorem ConnectAt.step_finish (h : ConnectAt c₀ log₀ o i .finish c log) :
    ConnectAt c₀ log₀ o i (connectStep lib o c .finish).2.1 (connectStep lib o c .finish).1
      (log ++ (connectStep lib o c .finish).2.2.map (some i, ·)) := by
  obtain ⟨hreach, -, hfails⟩ := h.path
  have hn : c.nc = o.tlcpSocket c₀.config := h.nc
  have hsock := finalSocket_of_secured (secured_of_reaches hreach).1 (secured_of_reaches hreach).2
  have hcd : c.connectDone = false := h.connectDone
  simp only [connectStep]
  rcases hfh : o.finishHandshake with _ | e
  · exact h.late rfl (by rfl) (by exact ⟨hreach, by rw [hfails, hfh]; rfl⟩)
      (by simp [ncAt, hn]) (by rfl) (by rfl) (by simp [ConnectPc.isReturned, hcd]) _
      (by simp [Invocation.isGetGenerationFn]) (by simp [ConnectPc.stored])
      (by simp [ConnectPc.closed])
  · exact h.late rfl (by rfl) (by simp [PathAt, hfails, hfh]) (by simp [ncAt, hn, hsock])
      (by rfl) (by rfl) (by simp [ConnectPc.isReturned, hcd]) _
      (by simp [Invocation.isGetGenerationFn]) (by simp [ConnectPc.stored])
      (by simp [ConnectPc.closed])

theorem ConnectAt.step_compress (h : ConnectAt c₀ log₀ o i .compress c log) :
    ConnectAt c₀ log₀ o i (connectStep lib o c .compress).2.1 (connectStep lib o c .compress).1
      (log ++ (connectStep lib o c .compress).2.2.map (some i, ·)) := by
  obtain ⟨hreach, hnf⟩ : o.reachesHandshake c₀.config ∧ o.fails c₀.config = false :=
    h.path
  have hn : c.nc = o.tlcpSocket c₀.config := h.nc
  have hsock := finalSocket_of_secured (secured_of_reaches hreach).1 (secured_of_reaches hreach).2
  have hcd : c.connectDone = false := h.connectDone
  obtain ⟨a, b, d, hsel⟩ := selectCompressor_eq lib c
  simp only [connectStep, hsel]
  exact h.late rfl (by rfl) (by simp [PathAt, hnf]) (by simp [ncAt, hn, hsock]) (by rfl) (by rfl)
    (by simp [ConnectPc.isReturned, hcd]) _ (by rfl) (by simp [ConnectPc.stored])
    (by simp [ConnectPc.closed])

theorem ConnectAt.step_teardown {e : Error} (h : ConnectAt c₀ log₀ o i (.teardown e) c log) :
    ConnectAt c₀ log₀ o i (connectStep lib o c (.teardown e)).2.1
      (connectStep lib o c (.teardown e)).1
      (log ++ (connectStep lib o c (.teardown e)).2.2.map (some i, ·)) := by
  have hcd : c.connectDone = false := h.connectDone
  simp only [connectStep]
  exact h.late rfl (by rfl) (by exact h.path) (by exact h.nc) (by rfl) (by rfl)
    (by simp [ConnectPc.isReturned, hcd]) _ (by rfl) (fun _ => rfl) (by simp [ConnectPc.closed])

theorem ConnectAt.step_closeNc {e : Error} (h : ConnectAt c₀ log₀ o i (.closeNc e) c log) :
    ConnectAt c₀ log₀ o i (connectStep lib o c (.closeNc e)).2.1
      (connectStep lib o c (.closeNc e)).1
      (log ++ (connectStep lib o c (.closeNc e)).2.2.map (some i, ·)) := by
  have hcd : c.connectDone = false := h.connectDone
  have hn : c.nc = o.finalSocket c₀.config := h.nc
  have hD : c.state = .disconnected := h.stored rfl
  simp only [connectStep]
  refine h.late rfl (by rfl) (by exact (h.path : o.fails c₀.config = true).symm)
    (by exact h.nc) (by rfl) (by rfl) (by simp [ConnectPc.isReturned, hcd]) _ ?_ (fun _ => hD) ?_
  · split <;> simp [Invocation.isGetGenerationFn]
  · intro _ n hs
    rw [← hn] at hs
    simp [hs]

theorem ConnectAt.step_done {r : Option Error} (h : ConnectAt c₀ log₀ o i (.done r) c log) :
    ConnectAt c₀ log₀ o i (connectStep lib o c (.done r)).2.1 (connectStep lib o c (.done r)).1
      (log ++ (connectStep lib o c (.done r)).2.2.map (some i, ·)) := by
  simp only [connectStep]
  exact h.late rfl (by rfl) (by exact h.path) (by exact h.nc) (by rfl) (by rfl) (by rfl) _ (by rfl)
    (fun hs => h.stored hs) (fun hc n hn => by simpa using h.closed hc n hn)

/-- The winner's own step keeps what it has established, point by point. -/
theorem ConnectAt.step (hcfg : c.config = c₀.config) (h : ConnectAt c₀ log₀ o i pc c log) :
    ConnectAt c₀ log₀ o i (connectStep lib o c pc).2.1 (connectStep lib o c pc).1
      (log ++ (connectStep lib o c pc).2.2.map (some i, ·)) := by
  cases pc with
  | start | lost | panicked => exact absurd h.path id
  | dial => exact h.step_dial
  | dialed => exact h.step_dialed
  | tls => exact h.step_tls hcfg
  | tlsConfigured => exact h.step_tlsConfigured
  | tlcp => exact h.step_tlcp hcfg
  | tlcpConfigured => exact h.step_tlcpConfigured
  | handshake => exact h.step_handshake hcfg
  | generation => exact h.step_generation hcfg
  | finish => exact h.step_finish
  | compress => exact h.step_compress
  | teardown => exact h.step_teardown
  | closeNc => exact h.step_closeNc
  | done => exact h.step_done
  | returned => simpa [connectStep] using h

end Step

end MongoDriver.Topology
