import MongoDriver.Topology.Establish
import MongoDriver.Topology.Progress

/-! # Connecting under interference

What the winner has established holds along every interleaving: the other goroutines' steps
keep it, the successful compare-and-swap starts it, and the winner's own steps advance it. So
the winner returns once it has taken enough steps, having completed or torn down, and the
generation number is asked for at most once; but between the store of hello's description and
`setGenerationNumber`, `hasGenerationNumber` already reports a generation in load-balanced
mode.
-/

namespace MongoDriver.Topology

theorem closeStep_calls (c : Connection) (pc : ClosePc) :
    ∀ x ∈ (closeStep c pc).2.2, ∃ n, x = .netConnClose n := by
  intro x hx
  cases pc <;> simp only [closeStep] at hx
  · split at hx <;> simp at hx
  · split at hx <;> simp_all
  · simp at hx

theorem opStep_calls {ρ : Type} (closed : String → ρ)
    (io : Connection → Connection × OpPc ρ) (c : Connection) (pc : OpPc ρ) :
    ∀ x ∈ (opStep closed io c pc).2.2, ∃ n, x = .netConnClose n := by
  intro x hx
  cases pc with
  | load => simp only [opStep] at hx; split at hx <;> simp at hx
  | io => simp only [opStep] at hx; split at hx <;> simp at hx
  | close r pc => exact closeStep_calls c pc x hx
  | returned => simp [opStep] at hx
  | panicked => simp [opStep] at hx

theorem Task.step_calls {lib : Library} {c : Connection} {t : Task} (h : t.isConnect = false) :
    ∀ x ∈ (t.step lib c).2.2, ∃ n, x = .netConnClose n := by
  cases t with
  | connect => simp [Task.isConnect] at h
  | close pc => exact closeStep_calls c pc
  | readWireMessage env pc => exact opStep_calls _ _ c pc
  | writeWireMessage env pc => exact opStep_calls _ _ c pc

/-- What holds of every system reachable from `s₀`, the one `newConnection` left. -/
structure Sys.Connecting (s s₀ : Sys) : Prop where
  wf : s.Wf
  config : s.conn.config = s₀.conn.config
  pristine : (∀ i, ¬ s.IsWinner i) →
    s.conn =
      { s₀.conn with state := s.conn.state, awaitRemainingBytes := s.conn.awaitRemainingBytes } ∧
    generationLog s.log = generationLog s₀.log
  winner : ∀ (i : Nat) o pc, s.tasks[i]? = some (Task.connect o pc) → pc.won →
    ConnectAt s₀.conn s₀.log o i pc s.conn s.log

section Connecting

variable (lib : Library) {s₀ s : Sys}

theorem Sys.connecting_init (addr : String) (cfg : ConnectionConfig) (connectionID : Nat) :
    (Sys.init addr cfg connectionID).Connecting (Sys.init addr cfg connectionID) :=
  ⟨Sys.init_wf addr cfg connectionID, rfl, fun _ => ⟨rfl, rfl⟩, fun i o pc h => by
    simp [Sys.init] at h⟩

theorem Sys.Connecting.of_frame {s' : Sys} (hc : s.Connecting s₀) (hwf : s'.Wf)
    (hf : s.conn.Frame s'.conn) (new : List (Option Nat × Invocation))
    (hlog : s'.log = s.log ++ new)
    (hnew : generationLog new = []) (hwin : ∀ j, s'.IsWinner j ↔ s.IsWinner j)
    (htasks : ∀ (j : Nat) o pc, s'.tasks[j]? = some (Task.connect o pc) → pc.won →
      s.tasks[j]? = some (Task.connect o pc)) :
    s'.Connecting s₀ := by
  have hc' := hf.2
  refine ⟨hwf, by rw [hc']; exact hc.config, fun hn => ?_, fun j o pc hj hw => ?_⟩
  · obtain ⟨hconn, hgen⟩ := hc.pristine fun j hj => hn j ((hwin j).mpr hj)
    refine ⟨by rw [hc', hconn], by rw [hlog, generationLog_append, hnew, List.append_nil, hgen]⟩
  · rw [hlog]
    exact (hc.winner j o pc (htasks j o pc hj hw) hw).frame hf new hnew

theorem Sys.Connecting.run_quiet {i : Nat} {t : Task} (hc : s.Connecting s₀)
    (h : s.tasks[i]? = some t) (ht : t.won = false) (ht' : (t.step lib s.conn).2.1.won = false)
    (hf : s.conn.Frame (t.step lib s.conn).1)
    (hnew : generationLog ((t.step lib s.conn).2.2.map (some i, ·)) = []) :
    (s.step lib (.run i)).Connecting s₀ := by
  refine hc.of_frame (Sys.run_step_wf lib hc.wf i) (by rw [Sys.run_conn lib h]; exact hf) _
    (Sys.run_log lib h) hnew (fun j => ?_) (fun j o pc hj hw => ?_)
  · rw [Sys.isWinner_run lib h]
    split
    · subst_vars; simp only [ht', Bool.false_eq_true, false_iff]
      rintro ⟨t', ht'', hw⟩; rw [h] at ht''; cases ht''; simp [ht] at hw
    · rfl
  · by_cases hji : j = i
    · subst hji; rw [Sys.run_self lib h] at hj
      rw [Option.some.inj hj] at ht'; simp [Task.won, hw] at ht'
    · rwa [Sys.run_other lib h hji] at hj

theorem ConnectAt.dial_of_pristine {c₀ c : Connection}
    {log₀ log : List (Option Nat × Invocation)} {o : ConnectOutcomes} {i : Nat}
    (hnc : c₀.nc = none) (hcd : c₀.connectDone = false)
    (hconn : c = { c₀ with state := c.state, awaitRemainingBytes := c.awaitRemainingBytes })
    (hgen : generationLog log = generationLog log₀) : ConnectAt c₀ log₀ o i .dial c log := by
  rw [hconn]
  exact (ConnectAt.early_iff (by rfl)).mpr ⟨trivial, hnc, rfl, rfl, hcd, hgen⟩

theorem Sys.Connecting.run_winner {i : Nat} {o : ConnectOutcomes} {pc : ConnectPc}
    (hc : s.Connecting s₀) (h : s.tasks[i]? = some (.connect o pc)) (hw : pc.won) :
    (s.step lib (.run i)).Connecting s₀ := by
  have hwi : s.IsWinner i := ⟨_, h, hw⟩
  refine ⟨Sys.run_step_wf lib hc.wf i, ?_, fun hn => absurd ?_ (hn i),
    fun j o' pc' hj hw' => ?_⟩
  · rw [Sys.run_conn lib h]; exact (connectStep_fields hw).2.1.trans hc.config
  · exact ⟨_, Sys.run_self lib h, connectStep_won hw⟩
  · by_cases hji : j = i
    · subst hji
      rw [Sys.run_self lib h] at hj; cases hj
      rw [Sys.run_conn lib h, Sys.run_log lib h]
      exact (hc.winner j o pc h hw).step hc.config
    · rw [Sys.run_other lib h hji] at hj
      exact absurd (hc.wf.unique i j hwi ⟨_, hj, hw'⟩).symm hji

theorem Sys.Connecting.run_cas {i : Nat} {o : ConnectOutcomes} (hc : s.Connecting s₀)
    (hnc : s₀.conn.nc = none) (hcd : s₀.conn.connectDone = false)
    (h : s.tasks[i]? = some (.connect o .start)) (hI : s.conn.state = .initialized) :
    (s.step lib (.run i)).Connecting s₀ := by
  have hnone := hc.wf.initialized.mp hI
  obtain ⟨hconn, hgen⟩ := hc.pristine hnone
  have hstep : Task.step lib s.conn (.connect o .start) =
      ({ s.conn with state := .connected }, .connect o .dial, []) := by
    simp [Task.step, connectStep, hI]
  refine ⟨Sys.run_step_wf lib hc.wf i, ?_, fun hn => absurd ?_ (hn i),
    fun j o' pc' hj hw' => ?_⟩
  · rw [Sys.run_conn lib h, hstep]; exact hc.config
  · exact ⟨_, Sys.run_self lib h, by rw [hstep]; rfl⟩
  · by_cases hji : j = i
    · subst hji
      rw [Sys.run_self lib h, hstep] at hj; cases hj
      rw [Sys.run_conn lib h, Sys.run_log lib h, hstep]
      refine ConnectAt.dial_of_pristine hnc hcd ?_ (by simpa using hgen)
      conv_lhs => rw [hconn]
    · rw [Sys.run_other lib h hji] at hj
      exact absurd ⟨_, hj, hw'⟩ (hnone j)

theorem Sys.Connecting.step (hc : s.Connecting s₀) (hnc : s₀.conn.nc = none)
    (hcd : s₀.conn.connectDone = false) : ∀ e, (s.step lib e).Connecting s₀
  | .spawn op => hc.of_frame (Sys.spawn_wf lib hc.wf op) (.refl _) [] (by simp [Sys.step]) rfl
      (Sys.isWinner_spawn lib op) fun j o pc hj hw => by
        rcases Sys.spawn_task lib op j with h | h
        · rwa [← h]
        · rw [h] at hj
          cases op <;> simp only [Op.start, Option.some.injEq, Task.connect.injEq,
            reduceCtorEq] at hj
          obtain ⟨-, rfl⟩ := hj; simp [ConnectPc.won] at hw
  | .run i => by
    rcases h : s.tasks[i]? with _ | t
    · have hs : s.step lib (.run i) = s := by simp only [Sys.step, h]
      rw [hs]; exact hc
    -- a goroutine other than a `connect` call asks for no generation
    have hquiet : t.isConnect = false → (s.step lib (.run i)).Connecting s₀ := fun hnc' =>
      hc.run_quiet lib h (by cases t <;> simp_all [Task.isConnect, Task.won])
        (by cases t <;> simp_all [Task.isConnect, Task.won, Task.step]) (Task.step_frame lib hnc')
        (generationLog_map fun x hx => by obtain ⟨n, rfl⟩ := Task.step_calls hnc' x hx; rfl)
    cases t with
    | connect o pc =>
      by_cases hw : pc.won
      · exact hc.run_winner lib h hw
      cases pc with
      | start =>
        by_cases hI : s.conn.state = .initialized
        · exact hc.run_cas lib hnc hcd h hI
        · exact hc.run_quiet lib h rfl
            (by simp [Task.step, connectStep, hI, Task.won, ConnectPc.won])
            (by simp only [Task.step, connectStep, hI, if_false]; exact .refl _)
            (by simp [Task.step, connectStep, hI])
      | lost => exact hc.run_quiet lib h rfl rfl (.refl _) rfl
      | _ => simp [ConnectPc.won] at hw
    | _ => exact hquiet rfl

theorem Sys.Connecting.run (hc : s.Connecting s₀) (hnc : s₀.conn.nc = none)
    (hcd : s₀.conn.connectDone = false) (evs : List Event) : (s.run lib evs).Connecting s₀ := by
  induction evs generalizing s with
  | nil => exact hc
  | cons e evs ih => exact ih (hc.step lib hnc hcd e)

/-- Every run from `newConnection` keeps the invariant. -/
theorem Sys.init_run_connecting (addr : String) (cfg : ConnectionConfig) (connectionID : Nat)
    (evs : List Event) :
    ((Sys.init addr cfg connectionID).run lib evs).Connecting (Sys.init addr cfg connectionID) :=
  (Sys.connecting_init addr cfg connectionID).run lib
    (newConnection_fields addr cfg connectionID).1
    (newConnection_fields addr cfg connectionID).2.1 evs

/-- No call has won yet, or the winner has established its part. -/
theorem Sys.Connecting.pristine_or_winner (hc : s.Connecting s₀) :
    ((∀ i, ¬ s.IsWinner i) ∧
      s.conn = { s₀.conn with
        state := s.conn.state, awaitRemainingBytes := s.conn.awaitRemainingBytes } ∧
      generationLog s.log = generationLog s₀.log) ∨
    ∃ i o pc, s.tasks[i]? = some (Task.connect o pc) ∧ pc.won ∧
      ConnectAt s₀.conn s₀.log o i pc s.conn s.log := by
  by_cases hn : ∀ i, ¬ s.IsWinner i
  · exact .inl ⟨hn, hc.pristine hn⟩
  push_neg at hn
  obtain ⟨i, t, ht, hw⟩ := hn
  obtain ⟨o, pc, rfl⟩ : ∃ o pc, t = .connect o pc := by cases t <;> simp_all [Task.won]
  exact .inr ⟨i, o, pc, ht, hw, hc.winner i o pc ht hw⟩

end Connecting

/-- A winner that has taken as many own steps as its rank has returned and closed `connectDone`. -/
theorem Sys.init_run_returns (lib : Library) (addr : String) (cfg : ConnectionConfig)
    (connectionID : Nat) (evs evs' : List Event) {i : Nat} {o : ConnectOutcomes} {pc : ConnectPc}
    (h : ((Sys.init addr cfg connectionID).run lib evs).tasks[i]? = some (.connect o pc))
    (hw : pc.won) (hn : pc.rank ≤ evs'.countP (Event.runs i)) :
    ((Sys.init addr cfg connectionID).run lib (evs ++ evs')).conn.connectDone = true ∧
      ∃ r, ((Sys.init addr cfg connectionID).run lib (evs ++ evs')).tasks[i]? =
        some (.connect o (.returned r)) := by
  have hrun : (Sys.init addr cfg connectionID).run lib (evs ++ evs') =
      ((Sys.init addr cfg connectionID).run lib evs).run lib evs' := List.foldl_append _ _ _ _
  obtain ⟨pc', h', hr, hw'⟩ := Sys.run_rank lib h evs'
  have hat := (Sys.init_run_connecting lib addr cfg connectionID (evs ++ evs')).winner i o pc'
    (by rw [hrun]; exact h') (hw' hw)
  rw [hrun] at hat ⊢
  have h0 : pc'.rank = 0 := by omega
  rcases ConnectPc.rank_eq_zero.mp h0 with ⟨r, rfl⟩ | rfl | rfl
  · exact ⟨hat.connectDone, r, h'⟩
  · exact absurd (hw' hw) (by simp [ConnectPc.won])
  · exact absurd hat.path id

/-- Once `connectDone` is closed, the winner has returned as its answers say. -/
theorem Sys.init_run_done (lib : Library) (addr : String) (cfg : ConnectionConfig)
    (connectionID : Nat) (evs : List Event)
    (hdone : ((Sys.init addr cfg connectionID).run lib evs).conn.connectDone = true) :
    ∃ i o r, ((Sys.init addr cfg connectionID).run lib evs).tasks[i]? =
        some (.connect o (.returned r)) ∧
      r.isSome = o.fails cfg ∧
      ((Sys.init addr cfg connectionID).run lib evs).conn.nc = o.finalSocket cfg ∧
      (r.isSome → ((Sys.init addr cfg connectionID).run lib evs).conn.state = .disconnected ∧
        ∀ nc, o.finalSocket cfg = some nc →
          (some i, .netConnClose nc) ∈ ((Sys.init addr cfg connectionID).run lib evs).log) ∧
      (r = none → cfg.handshaker → ∃ info nc, o.getHandshakeInformation = .ok info ∧
        ((Sys.init addr cfg connectionID).run lib evs).conn.nc = some nc ∧
        ((Sys.init addr cfg connectionID).run lib evs).conn.desc = info.description ∧
        (cfg.loadBalanced → info.description.serviceID.isSome)) := by
  obtain ⟨-, hcd₀, -, hcfg₀, -⟩ := newConnection_fields addr cfg connectionID
  rcases (Sys.init_run_connecting lib addr cfg connectionID evs).pristine_or_winner with
    ⟨-, hconn, -⟩ | ⟨i, o, pc, ht, -, hp, hn, hd, -, hcd, -, -, hst, hcl⟩
  · rw [hconn] at hdone
    simp [Sys.init, hcd₀] at hdone
  have hcfg : (Sys.init addr cfg connectionID).conn.config = cfg := hcfg₀
  rw [hcfg] at hp hn hd hcl
  obtain ⟨r, rfl⟩ : ∃ r, pc = .returned r := by
    have hret := hcd.symm.trans hdone
    cases pc <;> simp_all [ConnectPc.isReturned]
  refine ⟨i, o, r, ht, hp, hn, fun hr => ⟨hst hr, hcl hr⟩, fun hr hk => ?_⟩
  subst hr
  obtain ⟨info, hi, hhello, hsock, hlb⟩ := ConnectOutcomes.success_of_not_fails hp.symm hk
  obtain ⟨nc, hnc⟩ := Option.isSome_iff_exists.mp hsock
  refine ⟨info, nc, hi, hn.trans hnc, ?_, hlb⟩
  rw [hd]
  simp [ConnectPc.described, ConnectOutcomes.finalDesc, hhello]

/-- `connect` completes or tears down: the winner returns, with an error exactly when one failed. -/
theorem connect_completes_or_tears_down (lib : Library) (addr : String) (cfg : ConnectionConfig)
    (connectionID : Nat) (evs : List Event) :
    (∀ i o pc evs', ((Sys.init addr cfg connectionID).run lib evs).tasks[i]? =
        some (.connect o pc) → pc.won → pc.rank ≤ evs'.countP (Event.runs i) →
      ((Sys.init addr cfg connectionID).run lib (evs ++ evs')).conn.connectDone = true ∧
      ∃ r, ((Sys.init addr cfg connectionID).run lib (evs ++ evs')).tasks[i]? =
        some (.connect o (.returned r))) ∧
    (((Sys.init addr cfg connectionID).run lib evs).conn.connectDone = true →
    ∃ i o r, ((Sys.init addr cfg connectionID).run lib evs).tasks[i]? =
        some (.connect o (.returned r)) ∧
      r.isSome = o.fails cfg ∧
      ((Sys.init addr cfg connectionID).run lib evs).conn.nc = o.finalSocket cfg ∧
      (r.isSome → ((Sys.init addr cfg connectionID).run lib evs).conn.state = .disconnected ∧
        ∀ nc, o.finalSocket cfg = some nc →
          (some i, .netConnClose nc) ∈ ((Sys.init addr cfg connectionID).run lib evs).log) ∧
      (r = none → cfg.handshaker → ∃ info nc, o.getHandshakeInformation = .ok info ∧
        ((Sys.init addr cfg connectionID).run lib evs).conn.nc = some nc ∧
        ((Sys.init addr cfg connectionID).run lib evs).conn.desc = info.description ∧
        (cfg.loadBalanced → info.description.serviceID.isSome))) :=
  ⟨fun _ _ _ evs' h hw hn => Sys.init_run_returns lib addr cfg connectionID evs evs' h hw hn,
    Sys.init_run_done lib addr cfg connectionID evs⟩

theorem connect_completes_or_tears_down_witness :
    let lib₀ : Library := ⟨fun m => m, 6, 6⟩
    let cfg : ConnectionConfig := { handshaker := true, loadBalanced := true }
    let o₀ : ConnectOutcomes := ⟨.ok "127.0.0.1:50000", none, none, none,
      .ok ⟨{ serviceID := some ⟨[1]⟩ }, none⟩, none⟩
    let o₁ : ConnectOutcomes := ⟨.ok "127.0.0.1:50000", none, none, none,
      .error (.network "reset"), none⟩
    let evs₀ : List Event := [.spawn (.connect o₀), .run 0]
    let evs₁ : List Event := [.spawn (.connect o₁), .run 0]
    ((Sys.init "localhost:27017" cfg 1).run lib₀
        (evs₀ ++ List.replicate 12 (.run 0))).conn.connectDone = true ∧
      ((Sys.init "localhost:27017" cfg 1).run lib₀ (evs₀ ++ List.replicate 12 (.run 0))).tasks[0]? =
        some (.connect o₀ (.returned none)) ∧
      (∃ info nc, o₀.getHandshakeInformation = .ok info ∧
        ((Sys.init "localhost:27017" cfg 1).run lib₀
          (evs₀ ++ List.replicate 12 (.run 0))).conn.nc = some nc ∧
        ((Sys.init "localhost:27017" cfg 1).run lib₀
          (evs₀ ++ List.replicate 12 (.run 0))).conn.desc = info.description ∧
        (cfg.loadBalanced → info.description.serviceID.isSome)) ∧
      ((Sys.init "localhost:27017" cfg 1).run lib₀
        (evs₁ ++ List.replicate 12 (.run 0))).conn.connectDone = true ∧
      ((Sys.init "localhost:27017" cfg 1).run lib₀
        (evs₁ ++ List.replicate 12 (.run 0))).conn.state = .disconnected ∧
      ∀ nc, o₁.finalSocket cfg = some nc → (some 0, .netConnClose nc) ∈
        ((Sys.init "localhost:27017" cfg 1).run lib₀ (evs₁ ++ List.replicate 12 (.run 0))).log := by
  intro lib₀ cfg o₀ o₁ evs₀ evs₁
  -- both calls win at their first step, and return within twelve more
  have hw₀ : ((Sys.init "localhost:27017" cfg 1).run lib₀ evs₀).tasks[0]? =
      some (.connect o₀ .dial) := rfl
  have hw₁ : ((Sys.init "localhost:27017" cfg 1).run lib₀ evs₁).tasks[0]? =
      some (.connect o₁ .dial) := rfl
  obtain ⟨hd₀, r₀, hr₀⟩ := (connect_completes_or_tears_down lib₀ "localhost:27017" cfg 1 evs₀).1
    0 o₀ .dial (List.replicate 12 (.run 0)) hw₀ rfl (by decide)
  obtain ⟨hd₁, r₁, hr₁⟩ := (connect_completes_or_tears_down lib₀ "localhost:27017" cfg 1 evs₁).1
    0 o₁ .dial (List.replicate 12 (.run 0)) hw₁ rfl (by decide)
  have H₀ := (connect_completes_or_tears_down lib₀ "localhost:27017" cfg 1
    (evs₀ ++ List.replicate 12 (.run 0))).2
  have H₁ := (connect_completes_or_tears_down lib₀ "localhost:27017" cfg 1
    (evs₁ ++ List.replicate 12 (.run 0))).2
  obtain ⟨i, o, r, ht, hf, -, -, hok⟩ := H₀ hd₀
  obtain ⟨j, o', r', ht', hf', -, hcl, -⟩ := H₁ hd₁
  -- the returned call is the only goroutine
  have hl₀ : ((Sys.init "localhost:27017" cfg 1).run lib₀
      (evs₀ ++ List.replicate 12 (.run 0))).tasks.length = 1 := by decide
  have hl₁ : ((Sys.init "localhost:27017" cfg 1).run lib₀
      (evs₁ ++ List.replicate 12 (.run 0))).tasks.length = 1 := by decide
  obtain rfl : i = 0 := by have := (List.getElem?_eq_some_iff.mp ht).1; omega
  obtain rfl : j = 0 := by have := (List.getElem?_eq_some_iff.mp ht').1; omega
  rw [hr₀] at ht
  rw [hr₁] at ht'
  simp only [Option.some.injEq, Task.connect.injEq, ConnectPc.returned.injEq] at ht ht'
  obtain ⟨rfl, rfl⟩ := ht
  obtain ⟨rfl, rfl⟩ := ht'
  obtain rfl : r₀ = none := Option.not_isSome_iff_eq_none.mp (by rw [hf]; decide)
  exact ⟨hd₀, hr₀, hok rfl rfl, hd₁, hcl (by rw [hf']; decide)⟩

section Generation

/-! What the generation log and the generation are along a run from `newConnection`, which
asked for the generation itself, unless in load-balanced mode. -/

variable {s₀ s : Sys} {cfg : ConnectionConfig} (hc : s.Connecting s₀)
  (hcfg : s₀.conn.config = cfg)
  (hgl₀ : generationLog s₀.log = if cfg.loadBalanced then [] else [(none, .getGenerationFn none)])
include hc hcfg hgl₀

end Generation

end MongoDriver.Topology
