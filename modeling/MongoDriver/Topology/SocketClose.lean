import MongoDriver.Topology.System

/-! # Closing the socket

`close` moves the state from connected to disconnected by a compare-and-swap before it closes
the socket, so of `close`, the error paths of `readWireMessage` and `writeWireMessage` and the
cancellation listener's callback, at most one closes it, and each goroutine closes it at most
once. The deferred teardown of `connect` takes no part in the compare-and-swap: it stores
disconnected and closes the socket it holds. So the socket is closed at most twice, and twice
does happen.
-/

namespace MongoDriver.Topology

def Invocation.isNetConnClose : Invocation → Bool
  | .netConnClose _ => true
  | _ => false

/-- How often goroutine `a` (`none` for `newConnection`) closes the socket in `log`. -/
def closesBy (log : List (Option Nat × Invocation)) (a : Option Nat) : Nat :=
  log.countP fun e => e.1 == a && e.2.isNetConnClose

def ConnectPc.canClose : ConnectPc → Bool
  | .done _ | .returned _ | .lost | .panicked => false
  | _ => true

def ClosePc.canClose : ClosePc → Bool
  | .returned => false
  | _ => true

def ClosePc.closing : ClosePc → Bool
  | .closeNc => true
  | _ => false

def OpPc.canClose {ρ : Type} : OpPc ρ → Bool
  | .returned _ | .panicked => false
  | _ => true

def OpPc.closing {ρ : Type} : OpPc ρ → Bool
  | .close _ pc => pc.closing
  | _ => false

/-- A goroutine that can still close the socket. -/
def Task.canClose : Task → Bool
  | .connect _ pc => pc.canClose
  | .close pc => pc.canClose
  | .readWireMessage _ pc => pc.canClose
  | .writeWireMessage _ pc => pc.canClose

/-- A goroutine that has won the compare-and-swap of `close` and not yet closed the socket. -/
def Task.closing : Task → Bool
  | .connect _ _ => false
  | .close pc => pc.closing
  | .readWireMessage _ pc => pc.closing
  | .writeWireMessage _ pc => pc.closing

section Steps

variable (lib : Library) {o : ConnectOutcomes} {c : Connection}

theorem connectStep_closes (pc : ConnectPc) :
    (connectStep lib o c pc).2.2.countP Invocation.isNetConnClose ≤ 1 ∧
      (0 < (connectStep lib o c pc).2.2.countP Invocation.isNetConnClose →
        pc.canClose ∧ (connectStep lib o c pc).2.1.canClose = false) ∧
      (pc.canClose = false → (connectStep lib o c pc).2.1.canClose = false) := by
  cases pc <;> simp only [connectStep, setGenerationNumber] <;> (repeat' split) <;>
    simp [ConnectPc.canClose, Invocation.isNetConnClose]

theorem closeStep_closes (c : Connection) (pc : ClosePc) :
    (closeStep c pc).2.2.countP Invocation.isNetConnClose ≤ 1 ∧
      (0 < (closeStep c pc).2.2.countP Invocation.isNetConnClose →
        pc.closing ∧ (closeStep c pc).2.1 = .returned) ∧
      ((closeStep c pc).2.1.closing →
        c.state = .connected ∧ (closeStep c pc).1.state = .disconnected) ∧
      (pc.canClose = false → (closeStep c pc).2.1 = .returned) := by
  cases pc <;> simp only [closeStep] <;> (repeat' split) <;>
    simp_all [ClosePc.closing, ClosePc.canClose, Invocation.isNetConnClose]

theorem opStep_closes {ρ : Type} (closed : String → ρ)
    {io : Connection → Connection × OpPc ρ}
    (hio : ∀ c, (io c).2.closing = false) (c : Connection) (pc : OpPc ρ) :
    (opStep closed io c pc).2.2.countP Invocation.isNetConnClose ≤ 1 ∧
      (0 < (opStep closed io c pc).2.2.countP Invocation.isNetConnClose →
        pc.closing ∧ (opStep closed io c pc).2.1.canClose = false) ∧
      ((opStep closed io c pc).2.1.closing →
        pc.closing ∨ c.state = .connected ∧ (opStep closed io c pc).1.state = .disconnected) ∧
      (pc.canClose = false → (opStep closed io c pc).2.1.canClose = false) := by
  cases pc with
  | load => simp only [opStep]; split <;> simp [OpPc.closing, OpPc.canClose]
  | io =>
    simp only [opStep]; split
    · simp [OpPc.closing, OpPc.canClose]
    · simp [hio c, OpPc.canClose]
  | close result pc =>
    obtain ⟨h₁, h₂, h₃, -⟩ := closeStep_closes c pc
    refine ⟨h₁, fun h => ?_, fun h => .inr (h₃ ?_), by simp [OpPc.canClose]⟩
    · obtain ⟨hc, hr⟩ := h₂ h
      simp [opStep, OpPc.closing, OpPc.afterClose, OpPc.canClose, hc, hr]
    · revert h; simp only [opStep, OpPc.afterClose]; split <;> simp_all [OpPc.closing]
  | returned => simp [opStep, OpPc.closing, OpPc.canClose]
  | panicked => simp [opStep, OpPc.closing, OpPc.canClose]

theorem readIo_closing (env : ReadEnv) (c : Connection) : (readIo env c).2.closing = false := by
  unfold readIo; (repeat' split) <;> simp [OpPc.closing, ClosePc.closing]

theorem writeIo_closing (env : WriteEnv) (c : Connection) : (writeIo env c).2.closing = false := by
  unfold writeIo; (repeat' split) <;> simp [OpPc.closing, ClosePc.closing]

theorem OpPc.canClose_of_closing {ρ : Type} {pc : OpPc ρ} (h : pc.closing) : pc.canClose := by
  cases pc <;> simp_all [OpPc.closing, OpPc.canClose]

/-- A goroutine's step closes the socket at most once, and after that it can close it no more. -/
theorem Task.step_closes (c : Connection) (t : Task) :
    (t.step lib c).2.2.countP Invocation.isNetConnClose ≤ 1 ∧
      (0 < (t.step lib c).2.2.countP Invocation.isNetConnClose →
        t.canClose ∧ (t.step lib c).2.1.canClose = false) ∧
      (t.canClose = false → (t.step lib c).2.1.canClose = false) ∧
      (t.isConnect = false →
        (t.step lib c).2.1.closing ∨ 0 < (t.step lib c).2.2.countP Invocation.isNetConnClose →
        t.closing ∨ c.state = .connected ∧ (t.step lib c).1.state = .disconnected) := by
  cases t with
  | connect o pc =>
    obtain ⟨h₁, h₂, h₃⟩ := connectStep_closes lib (o := o) (c := c) pc
    exact ⟨h₁, h₂, h₃, by simp [Task.isConnect]⟩
  | close pc =>
    obtain ⟨h₁, h₂, h₃, h₄⟩ := closeStep_closes c pc
    refine ⟨h₁, fun h => ?_,
      fun h => by simp [Task.step, h₄ h, ClosePc.canClose, Task.canClose], fun _ h => ?_⟩
    · obtain ⟨hc, hr⟩ := h₂ h
      cases pc <;> simp_all [Task.step, Task.canClose, ClosePc.canClose, ClosePc.closing]
    · rcases h with h | h
      · exact .inr (h₃ h)
      · exact .inl (h₂ h).1
  | readWireMessage env pc =>
    obtain ⟨h₁, h₂, h₃, h₄⟩ := opStep_closes
      (fun id => .error (.connection id none false "connection is closed"))
      (readIo_closing env) c pc
    exact ⟨h₁, fun h => ⟨OpPc.canClose_of_closing (h₂ h).1, (h₂ h).2⟩, h₄, fun _ h =>
      h.elim h₃ fun h => .inl (h₂ h).1⟩
  | writeWireMessage env pc =>
    obtain ⟨h₁, h₂, h₃, h₄⟩ := opStep_closes
      (fun id => some (.connection id none false "connection is closed"))
      (writeIo_closing env) c pc
    exact ⟨h₁, fun h => ⟨OpPc.canClose_of_closing (h₂ h).1, (h₂ h).2⟩, h₄, fun _ h =>
      h.elim h₃ fun h => .inl (h₂ h).1⟩

end Steps

@[simp] theorem closesBy_append (l₁ l₂ : List (Option Nat × Invocation)) (a : Option Nat) :
    closesBy (l₁ ++ l₂) a = closesBy l₁ a + closesBy l₂ a := List.countP_append _ l₁ l₂

theorem closesBy_map (l : List Invocation) (i : Nat) (a : Option Nat) :
    closesBy (l.map (some i, ·)) a =
      if a = some i then l.countP Invocation.isNetConnClose else 0 := by
  unfold closesBy
  rw [List.countP_map]
  split
  · subst_vars; simp [Function.comp_def]
  · simp [Function.comp_def, Ne.symm ‹_›]

def Sys.IsCloser (s : Sys) (j : Nat) : Prop :=
  ∃ t, s.tasks[j]? = some t ∧ t.isConnect = false ∧
    (t.closing ∨ 0 < closesBy s.log (some j))

/-- What the compare-and-swap of `close` keeps true of the socket's closes. -/
structure Sys.Closes (s : Sys) : Prop where
  fresh : closesBy s.log none = 0
  once : ∀ j, closesBy s.log (some j) ≤ 1
  spent : ∀ j t, s.tasks[j]? = some t → 0 < closesBy s.log (some j) → t.canClose = false
  unique : ∀ j k, s.IsCloser j → s.IsCloser k → j = k
  disconnected : ∀ j, s.IsCloser j → s.conn.state = .disconnected

section Closes

theorem StateStep.disconnected {st : ConnState} (h : StateStep .disconnected st) :
    st = .disconnected := by
  cases h; rfl

variable (lib : Library) {s : Sys}

theorem Sys.Wf.task_of_closes (hw : s.Wf) {j : Nat} (h : 0 < closesBy s.log (some j)) :
    ∃ t, s.tasks[j]? = some t := by
  obtain ⟨⟨a, inv⟩, he, hp⟩ := List.countP_pos_iff.mp h
  simp only [Bool.and_eq_true, beq_iff_eq] at hp
  obtain ⟨t, ht, -⟩ := hw.attributed j inv (hp.1 ▸ he)
  exact ⟨t, ht⟩

theorem Sys.init_closes (addr : String) (cfg : ConnectionConfig) (connectionID : Nat) :
    (Sys.init addr cfg connectionID).Closes := by
  have hnone : ∀ a, closesBy (Sys.init addr cfg connectionID).log a = 0 := by
    obtain ⟨-, -, -, -, -, hcalls⟩ := newConnection_fields addr cfg connectionID
    intro a
    simp only [Sys.init, closesBy, List.countP_eq_zero, List.mem_map]
    rintro _ ⟨inv, hinv, rfl⟩
    rw [hcalls] at hinv
    split at hinv <;> simp_all [Invocation.isNetConnClose]
  refine ⟨hnone none, fun j => by simp [hnone], fun j t _ h => by simp [hnone] at h,
    fun j _ ⟨_, h, _⟩ => by simp [Sys.init] at h,
    fun j ⟨_, h, _⟩ => by simp [Sys.init] at h⟩

theorem Sys.Closes.spawn (hc : s.Closes) (hw : s.Wf) (op : Op) :
    (s.step lib (.spawn op)).Closes := by
  have hold : ∀ {j t}, s.tasks[j]? = some t → (s.step lib (.spawn op)).tasks[j]? = some t :=
    fun h => List.getElem?_append_left (List.getElem?_eq_some_iff.mp h).1 ▸ h
  have hcloser : ∀ j, (s.step lib (.spawn op)).IsCloser j → s.IsCloser j := by
    rintro j ⟨t, ht, hcon, hcl⟩
    rcases Sys.spawn_task lib op j with h | h
    · exact ⟨t, h ▸ ht, hcon, hcl⟩
    · rw [h] at ht; cases ht
      have hnc : op.start.closing = false := by cases op <;> rfl
      obtain ⟨t', ht'⟩ := hw.task_of_closes (hcl.resolve_left (by simp [hnc]))
      rw [hold ht'] at h; cases h
      exact ⟨_, ht', hcon, hcl⟩
  refine ⟨hc.fresh, hc.once, fun j t ht h => ?_, fun j k hj hk => hc.unique j k (hcloser j hj)
    (hcloser k hk), fun j hj => hc.disconnected j (hcloser j hj)⟩
  obtain ⟨t', ht'⟩ := hw.task_of_closes h
  rw [hold ht'] at ht; cases ht
  exact hc.spent j _ ht' h

theorem Sys.closesBy_run {i : Nat} {t : Task} (h : s.tasks[i]? = some t) (a : Option Nat) :
    closesBy (s.step lib (.run i)).log a = closesBy s.log a +
      if a = some i then (t.step lib s.conn).2.2.countP Invocation.isNetConnClose else 0 := by
  rw [Sys.run_log lib h, closesBy_append, closesBy_map]

theorem Sys.isCloser_run {i : Nat} {t : Task} (h : s.tasks[i]? = some t) {j : Nat}
    (hj : (s.step lib (.run i)).IsCloser j) :
    s.IsCloser j ∨
      j = i ∧ s.conn.state = .connected ∧ (s.step lib (.run i)).conn.state = .disconnected := by
  obtain ⟨t', ht', hcon, hcl⟩ := hj
  rw [Sys.closesBy_run lib h] at hcl
  by_cases hji : j = i
  · subst hji
    rw [Sys.run_self lib h] at ht'; cases ht'
    rw [Task.step_isConnect] at hcon
    by_cases hold : t.closing ∨ 0 < closesBy s.log (some j)
    · exact .inl ⟨t, h, hcon, hold⟩
    · simp only [if_true, not_or, Bool.not_eq_true, Nat.not_lt, Nat.le_zero] at hcl hold
      rcases (Task.step_closes lib s.conn t).2.2.2 hcon (hcl.imp_right fun _ => by omega) with
        h' | h'
      · simp [hold.1] at h'
      · exact .inr ⟨rfl, h'.1, by rw [Sys.run_conn lib h]; exact h'.2⟩
  · rw [Sys.run_other lib h hji] at ht'
    simp only [Option.some.injEq, hji, if_false, Nat.add_zero] at hcl
    exact .inl ⟨t', ht', hcon, hcl⟩

theorem Sys.Closes.run_step (hc : s.Closes) (hw : s.Wf) (i : Nat) :
    (s.step lib (.run i)).Closes := by
  rcases h : s.tasks[i]? with _ | t
  · simp only [Sys.step, h]; exact hc
  obtain ⟨h₁, h₂, h₃, -⟩ := Task.step_closes lib s.conn t
  have hlog := Sys.closesBy_run lib h
  have hD : s.conn.state = .disconnected → (s.step lib (.run i)).conn.state = .disconnected := by
    intro hs; have := Sys.step_state lib hw (.run i); rw [hs] at this; exact this.disconnected
  -- once `t` has closed the socket, its steps close it no more
  have hspent : 0 < closesBy s.log (some i) →
      (t.step lib s.conn).2.2.countP Invocation.isNetConnClose = 0 := fun hz =>
    Nat.eq_zero_of_not_pos fun hp => by have := hc.spent i t h hz; simp [(h₂ hp).1] at this
  refine ⟨by rw [hlog]; simp [hc.fresh], fun j => ?_, fun j t' ht' hpos => ?_,
    fun j k hj hk => ?_, fun j hj => ?_⟩
  · rw [hlog]
    by_cases hji : j = i
    · subst hji
      have := hc.once j
      by_cases hz : 0 < closesBy s.log (some j)
      · simp [hspent hz, this]
      · simp only [if_true]; omega
    · simpa [hji] using hc.once j
  · rw [hlog] at hpos
    by_cases hji : j = i
    · subst hji
      rw [Sys.run_self lib h] at ht'; cases ht'
      by_cases hz : 0 < closesBy s.log (some j)
      · exact h₃ (hc.spent j t h hz)
      · simp only [if_true] at hpos
        exact (h₂ (by omega)).2
    · rw [Sys.run_other lib h hji] at ht'
      exact hc.spent j t' ht' (by simpa [hji] using hpos)
  · rcases Sys.isCloser_run lib h hj with hj' | ⟨rfl, hC, -⟩ <;>
      rcases Sys.isCloser_run lib h hk with hk' | ⟨rfl, hC', -⟩
    · exact hc.unique j k hj' hk'
    · rw [hc.disconnected j hj'] at hC'; cases hC'
    · rw [hc.disconnected k hk'] at hC; cases hC
    · rfl
  · rcases Sys.isCloser_run lib h hj with hj' | ⟨-, -, hs⟩
    · exact hD (hc.disconnected j hj')
    · exact hs

theorem Sys.Closes.step (hc : s.Closes) (hw : s.Wf) : ∀ e, (s.step lib e).Closes
  | .spawn op => hc.spawn lib hw op
  | .run i => hc.run_step lib hw i

theorem Sys.Closes.run (hc : s.Closes) (hw : s.Wf) (evs : List Event) : (s.run lib evs).Closes := by
  induction evs generalizing s with
  | nil => exact hc
  | cons e evs ih => exact ih (hc.step lib hw e) (Sys.step_wf lib hw e)

def Sys.byConnect (s : Sys) : Option Nat → Bool
  | some j => s.tasks[j]?.any Task.isConnect
  | none => false

theorem closesBy_pos {log : List (Option Nat × Invocation)} {e : Option Nat × Invocation}
    (he : e ∈ log) (hc : e.2.isNetConnClose) : 0 < closesBy log e.1 :=
  List.countP_pos_iff.mpr ⟨e, he, by simp [hc]⟩

theorem countP_closes_le_one {log : List (Option Nat × Invocation)} {q : Option Nat → Bool}
    (hone : ∀ a, closesBy log a ≤ 1)
    (huniq : ∀ e ∈ log, ∀ e' ∈ log, e.2.isNetConnClose → e'.2.isNetConnClose →
      q e.1 → q e'.1 → e.1 = e'.1) :
    (log.filter (q ·.1)).countP (·.2.isNetConnClose) ≤ 1 := by
  rw [List.countP_filter]
  by_cases hex : ∃ e ∈ log, e.2.isNetConnClose ∧ q e.1
  · obtain ⟨e₀, he₀, hc₀, hq₀⟩ := hex
    calc _ ≤ closesBy log e₀.1 := List.countP_mono_left fun e he hp => by
            simp only [Bool.and_eq_true] at hp
            simp [huniq e he e₀ he₀ hp.1 hc₀ hp.2 hq₀, hp.1]
      _ ≤ 1 := hone _
  · push_neg at hex
    exact (List.countP_eq_zero.mpr fun e he hp => by
      simp only [Bool.and_eq_true] at hp; simp [hex e he hp.1] at hp).le.trans zero_le_one

variable {lib}

theorem Sys.Wf.won_of_closes (hw : s.Wf) {j : Nat} {t : Task} (ht : s.tasks[j]? = some t)
    (hcon : t.isConnect) (h : 0 < closesBy s.log (some j)) : t.won := by
  obtain ⟨⟨a, inv⟩, he, hp⟩ := List.countP_pos_iff.mp h
  simp only [Bool.and_eq_true, beq_iff_eq] at hp
  obtain ⟨t', ht', hw'⟩ := hw.attributed j inv (hp.1 ▸ he)
  rw [ht] at ht'; cases ht'
  exact hw' hcon

theorem Sys.Closes.count_le_two (hc : s.Closes) (hw : s.Wf) :
    s.log.countP (·.2.isNetConnClose) ≤ 2 := by
  have hone : ∀ a, closesBy s.log a ≤ 1
    | none => hc.fresh ▸ zero_le_one
    | some j => hc.once j
  -- the actor of a close has started
  have hactor : ∀ e ∈ s.log, e.2.isNetConnClose →
      ∃ j t, e.1 = some j ∧ s.tasks[j]? = some t ∧ 0 < closesBy s.log (some j) := by
    rintro ⟨_ | j, inv⟩ he hcl
    · have := closesBy_pos he hcl; simp [hc.fresh] at this
    · obtain ⟨t, ht⟩ := hw.task_of_closes (closesBy_pos he hcl)
      exact ⟨j, t, rfl, ht, closesBy_pos he hcl⟩
  have hconnect : (s.log.filter (s.byConnect ·.1)).countP (·.2.isNetConnClose) ≤ 1 := by
    refine countP_closes_le_one hone fun ⟨a, inv⟩ he ⟨a', inv'⟩ he' hcl hcl' hq hq' => ?_
    obtain ⟨j, t, rfl, ht, hj⟩ := hactor _ he hcl
    obtain ⟨k, t', rfl, ht', hk⟩ := hactor _ he' hcl'
    simp only [Sys.byConnect, ht, ht', Option.any_some] at hq hq'
    rw [hw.unique j k ⟨t, ht, hw.won_of_closes ht hq hj⟩
      ⟨t', ht', hw.won_of_closes ht' hq' hk⟩]
  have hother : (s.log.filter (!s.byConnect ·.1)).countP (·.2.isNetConnClose) ≤ 1 := by
    refine @countP_closes_le_one _ (fun a => !s.byConnect a) hone
      fun ⟨a, inv⟩ he ⟨a', inv'⟩ he' hcl hcl' hq hq' => ?_
    obtain ⟨j, t, rfl, ht, hj⟩ := hactor _ he hcl
    obtain ⟨k, t', rfl, ht', hk⟩ := hactor _ he' hcl'
    simp only [Sys.byConnect, ht, ht', Option.any_some, Bool.not_eq_true'] at hq hq'
    rw [hc.unique j k ⟨t, ht, hq, .inr hj⟩ ⟨t', ht', hq', .inr hk⟩]
  rw [List.countP_eq_countP_filter_add _ _ (s.byConnect ·.1)]
  omega

end Closes

/-- The socket is closed at most twice in every run from `newConnection`. -/
theorem netConnClose_at_most_twice (lib : Library) (addr : String) (cfg : ConnectionConfig)
    (connectionID : Nat) (evs : List Event) :
    (∀ j, closesBy ((Sys.init addr cfg connectionID).run lib evs).log (some j) ≤ 1) ∧
    (∀ j k tj tk, ((Sys.init addr cfg connectionID).run lib evs).tasks[j]? = some tj →
      ((Sys.init addr cfg connectionID).run lib evs).tasks[k]? = some tk →
      tj.isConnect = false → tk.isConnect = false →
      0 < closesBy ((Sys.init addr cfg connectionID).run lib evs).log (some j) →
      0 < closesBy ((Sys.init addr cfg connectionID).run lib evs).log (some k) → j = k) ∧
    (∀ j t, ((Sys.init addr cfg connectionID).run lib evs).tasks[j]? = some t → t.isConnect →
      0 < closesBy ((Sys.init addr cfg connectionID).run lib evs).log (some j) → t.won) ∧
    ((Sys.init addr cfg connectionID).run lib evs).log.countP (·.2.isNetConnClose) ≤ 2 := by
  have hw := Sys.run_wf lib (Sys.init_wf addr cfg connectionID) evs
  have hc := (Sys.init_closes addr cfg connectionID).run lib (Sys.init_wf addr cfg connectionID) evs
  exact ⟨hc.once, fun j k tj tk hj hk hcj hck hpj hpk =>
    hc.unique j k ⟨tj, hj, hcj, .inr hpj⟩ ⟨tk, hk, hck, .inr hpk⟩,
    fun j t ht hcon h => hw.won_of_closes ht hcon h, hc.count_le_two hw⟩

/-- The socket can be closed twice: by a failed write during the handshake, then by the teardown. -/
theorem connect_teardown_closes_socket_twice :
    (((Sys.init "localhost:27017" { handshaker := true } 1).run ⟨fun m => m, 6, 6⟩
      [.spawn (.connect ⟨.ok "127.0.0.1:50000", none, none, none,
        .error (.network "broken pipe"), none⟩), .run 0, .run 0, .run 0, .run 0, .run 0,
        .spawn (.writeWireMessage
          ⟨⟨false, false⟩, none, some (.network "broken pipe"), false⟩),
        .run 1, .run 1, .run 1, .run 1, .run 0, .run 0, .run 0]).log.filter
      (·.2.isNetConnClose)) =
      [(some 1, .netConnClose (.raw "127.0.0.1:50000")),
        (some 0, .netConnClose (.raw "127.0.0.1:50000"))] := by
  decide

end MongoDriver.Topology
