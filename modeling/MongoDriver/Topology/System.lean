import Mathlib.Data.List.Chain
import MongoDriver.Topology.Connect

/-! # Goroutines sharing a connection

Any number of goroutines run methods of one connection made by `newConnection`: `connect`,
`close` (also the cancellation listener's callback), `readWireMessage` and `writeWireMessage`.
A run is a list of events, each starting a method in a new goroutine or letting one goroutine
take its next step, so every interleaving is a run; run alone, the steps of a read or a write
compute what `readWireMessage` and `writeWireMessage` compute in one call. The state walks
from initialized to connected to disconnected and never back, exactly one `connect` call wins
the compare-and-swap, and only that call makes calls to the collaborators; but it does not
look at the state again, so it dials after a concurrent `close`.
-/

namespace MongoDriver.Topology

/-- The points of `readWireMessage` and `writeWireMessage`. -/
inductive OpPc (ρ : Type)
  | load
  | io
  | close (result : ρ) (pc : ClosePc)
  | returned (result : ρ)
  | panicked

def OpPc.afterClose {ρ : Type} (result : ρ) : ClosePc → OpPc ρ
  | .returned => .returned result
  | pc => .close result pc

/-- One step of `readWireMessage` or `writeWireMessage`; `io` is the call after its state check. -/
def opStep {ρ : Type} (closed : String → ρ) (io : Connection → Connection × OpPc ρ)
    (c : Connection) : OpPc ρ → Connection × OpPc ρ × List Invocation
  | .load => if c.state ≠ .connected then (c, .returned (closed c.id), []) else (c, .io, [])
  | .io =>
    match c.nc with
    | none => (c, .panicked, [])
    | some _ => ((io c).1, (io c).2, [])
  | .close result pc =>
    ((closeStep c pc).1, .afterClose result (closeStep c pc).2.1, (closeStep c pc).2.2)
  | .returned result => (c, .returned result, [])
  | .panicked => (c, .panicked, [])

def readIo (env : ReadEnv) (c : Connection) : Connection × OpPc (Except Error (List UInt8)) :=
  match env.setDeadline with
  | some e =>
    (c, .returned (.error (.connection c.id (some e) false "failed to set read deadline")))
  | none =>
    match read c env.stream env.aborted with
    | .panics => (c, .panicked)
    | .returns (c, _, r) =>
      match r.err with
      | none => (c, .returned (.ok r.bytesRead))
      | some e =>
        let err := Except.error (Error.connection c.id
          (some (transformNetworkError env.ctx e env.ctx.hasDeadline)) false r.errMsg)
        if c.awaitRemainingBytes.isNone then (c, .close err .cas) else (c, .returned err)

def writeIo (env : WriteEnv) (c : Connection) : Connection × OpPc (Option Error) :=
  match env.setDeadline with
  | some e => (c, .returned (some (.connection c.id (some e) false "failed to set write deadline")))
  | none =>
    match write env with
    | none => (c, .returned none)
    | some e => (c, .close (some (.connection c.id
        (some (transformNetworkError env.ctx e env.ctx.hasDeadline)) false
        "unable to write wire message to network")) .cas)

def readWireMessageStep (env : ReadEnv) :
    Connection → OpPc (Except Error (List UInt8)) →
      Connection × OpPc (Except Error (List UInt8)) × List Invocation :=
  opStep (fun id => .error (.connection id none false "connection is closed")) (readIo env)

def writeWireMessageStep (env : WriteEnv) :
    Connection → OpPc (Option Error) → Connection × OpPc (Option Error) × List Invocation :=
  opStep (fun id => some (.connection id none false "connection is closed")) (writeIo env)

/-- A goroutine running one method of the connection, at a point of it. -/
inductive Task
  | connect (o : ConnectOutcomes) (pc : ConnectPc)
  | close (pc : ClosePc)
  | readWireMessage (env : ReadEnv) (pc : OpPc (Except Error (List UInt8)))
  | writeWireMessage (env : WriteEnv) (pc : OpPc (Option Error))

def Task.step (lib : Library) (c : Connection) : Task → Connection × Task × List Invocation
  | .connect o pc =>
    ((connectStep lib o c pc).1, .connect o (connectStep lib o c pc).2.1,
      (connectStep lib o c pc).2.2)
  | .close pc => ((closeStep c pc).1, .close (closeStep c pc).2.1, (closeStep c pc).2.2)
  | .readWireMessage env pc =>
    ((readWireMessageStep env c pc).1, .readWireMessage env (readWireMessageStep env c pc).2.1,
      (readWireMessageStep env c pc).2.2)
  | .writeWireMessage env pc =>
    ((writeWireMessageStep env c pc).1, .writeWireMessage env (writeWireMessageStep env c pc).2.1,
      (writeWireMessageStep env c pc).2.2)

def Task.isConnect : Task → Bool
  | .connect _ _ => true
  | _ => false

def Task.won : Task → Bool
  | .connect _ pc => pc.won
  | _ => false

inductive Op
  | connect (o : ConnectOutcomes)
  | close
  | readWireMessage (env : ReadEnv)
  | writeWireMessage (env : WriteEnv)

def Op.start : Op → Task
  | .connect o => .connect o .start
  | .close => .close .cas
  | .readWireMessage env => .readWireMessage env .load
  | .writeWireMessage env => .writeWireMessage env .load

/-- An event of a run: a goroutine starts a method, or goroutine `i` takes a step. -/
inductive Event
  | spawn (op : Op)
  | run (i : Nat)

/-- The connection, its goroutines in the order they started, and every call made, by whom. -/
structure Sys where
  conn : Connection
  tasks : List Task
  log : List (Option Nat × Invocation)

def Sys.init (addr : String) (cfg : ConnectionConfig) (connectionID : Nat) : Sys :=
  ⟨(newConnection addr cfg connectionID).1, [],
    (newConnection addr cfg connectionID).2.map (none, ·)⟩

def Sys.step (lib : Library) (s : Sys) : Event → Sys
  | .spawn op => { s with tasks := s.tasks ++ [op.start] }
  | .run i =>
    match s.tasks[i]? with
    | none => s
    | some t =>
      ⟨(t.step lib s.conn).1, s.tasks.set i (t.step lib s.conn).2.1,
        s.log ++ (t.step lib s.conn).2.2.map (some i, ·)⟩

def Sys.run (lib : Library) (s : Sys) (evs : List Event) : Sys := evs.foldl (Sys.step lib) s

inductive StateStep : ConnState → ConnState → Prop
  | refl (st : ConnState) : StateStep st st
  | connect : StateStep .initialized .connected
  | close : StateStep .connected .disconnected

/-- Goroutine `i` is a `connect` call that has won the compare-and-swap. -/
def Sys.IsWinner (s : Sys) (i : Nat) : Prop := ∃ t, s.tasks[i]? = some t ∧ t.won = true

/-- A step that moves the state at most from connected to disconnected and writes only it and
the read marker. -/
def Connection.Frame (c c' : Connection) : Prop :=
  (c'.state = c.state ∨ c.state = .connected ∧ c'.state = .disconnected) ∧
    c' = { c with state := c'.state, awaitRemainingBytes := c'.awaitRemainingBytes }

section Steps

variable (lib : Library) {c : Connection} {t : Task}

theorem Connection.Frame.refl (c : Connection) : c.Frame c := ⟨.inl rfl, rfl⟩

theorem closeStep_frame (c : Connection) (pc : ClosePc) : c.Frame (closeStep c pc).1 := by
  rcases closeStep_eq c pc with h | ⟨hc, h⟩ <;> rw [h]
  exacts [.refl c, ⟨.inr ⟨hc, rfl⟩, rfl⟩]

theorem readMessage_frame {s s' : Stream} {c' : Connection} {r : ReadReply}
    (h : readMessage c s = .returns (c', s', r)) :
    c' = { c with awaitRemainingBytes := c'.awaitRemainingBytes } := by
  unfold readMessage at h
  split at h
  split at h
  · cases h; split <;> rfl
  · split at h
    · cases h; rfl
    · split at h
      · cases h
      · split at h
        split at h
        · cases h; split <;> rfl
        · cases h; rfl

theorem read_frame {s s' : Stream} {aborted : Bool} {c' : Connection} {r : ReadReply}
    (h : read c s aborted = .returns (c', s', r)) :
    c' = { c with awaitRemainingBytes := c'.awaitRemainingBytes } := by
  unfold read at h
  split at h
  · cases h
  · cases h; exact readMessage_frame ‹_›

theorem readIo_frame (env : ReadEnv) (c : Connection) : c.Frame (readIo env c).1 := by
  unfold readIo
  split
  · exact .refl c
  · rcases h : read c env.stream env.aborted with ⟨c', s', r⟩ | _
    · have hc := read_frame h
      have hf : c.Frame c' := ⟨.inl (by rw [hc]), by rw [hc]⟩
      simp only
      split
      · exact hf
      · split <;> exact hf
    · exact .refl c

theorem writeIo_frame (env : WriteEnv) (c : Connection) : (writeIo env c).1 = c := by
  unfold writeIo; split
  · rfl
  · split <;> rfl

theorem opStep_frame {ρ : Type} {closed : String → ρ}
    {io : Connection → Connection × OpPc ρ}
    (hio : ∀ c : Connection, c.Frame (io c).1) (c : Connection) (pc : OpPc ρ) :
    c.Frame (opStep closed io c pc).1 := by
  cases pc with
  | load => simp only [opStep]; split <;> exact .refl c
  | io => simp only [opStep]; split; exacts [.refl c, hio c]
  | close result pc => exact closeStep_frame c pc
  | returned => exact .refl c
  | panicked => exact .refl c

@[simp] theorem Task.step_isConnect (c : Connection) (t : Task) :
    (t.step lib c).2.1.isConnect = t.isConnect := by
  cases t <;> rfl

theorem Task.isConnect_of_won (h : t.won) : t.isConnect := by
  cases t <;> simp_all [Task.won, Task.isConnect]

theorem Task.step_frame (h : t.isConnect = false) : c.Frame (t.step lib c).1 := by
  cases t with
  | connect => simp [Task.isConnect] at h
  | close pc => exact closeStep_frame c pc
  | readWireMessage env pc => exact opStep_frame (readIo_frame env) c pc
  | writeWireMessage env pc =>
    exact opStep_frame (fun c => by rw [writeIo_frame]; exact .refl c) c pc

theorem Task.step_won (h : t.won) :
    (t.step lib c).2.1.won ∧
      ((t.step lib c).1.state = c.state ∨ (t.step lib c).1.state = .disconnected) := by
  cases t with
  | connect o pc => exact ⟨@connectStep_won lib o c pc h, (connectStep_fields h).1⟩
  | _ => simp [Task.won] at h

theorem Task.step_start (hc : t.isConnect) (hw : t.won = false) :
    (t.step lib c).2.2 = [] ∧
      ((c.state = .initialized ∧ (t.step lib c).1 = { c with state := .connected } ∧
          (t.step lib c).2.1.won) ∨
        ((t.step lib c).1 = c ∧ (t.step lib c).2.1.won = false)) := by
  cases t with
  | connect o pc =>
    cases pc <;> simp only [Task.won, ConnectPc.won, Bool.true_eq_false] at hw
    · simp only [Task.step, connectStep_start]
      split <;> simp_all [Task.won, ConnectPc.won]
    · simp [Task.step, connectStep, Task.won, ConnectPc.won]
  | _ => simp [Task.isConnect] at hc

end Steps

section Wf

variable (lib : Library) {s : Sys}

/-- What holds of every reachable system: one winner at most, and every call attributed. -/
structure Sys.Wf (s : Sys) : Prop where
  unique : ∀ i j, s.IsWinner i → s.IsWinner j → i = j
  initialized : s.conn.state = .initialized ↔ ∀ i, ¬ s.IsWinner i
  attributed : ∀ i inv, (some i, inv) ∈ s.log →
    ∃ t, s.tasks[i]? = some t ∧ (t.isConnect → t.won)

theorem Sys.init_wf (addr : String) (cfg : ConnectionConfig) (connectionID : Nat) :
    (Sys.init addr cfg connectionID).Wf where
  unique i _ h := by simp [Sys.IsWinner, Sys.init] at h
  initialized := by
    simp [Sys.init, newConnection, Sys.IsWinner]
  attributed i inv h := by simp [Sys.init] at h

theorem getElem?_set_of_getElem? {α : Type} {l : List α} {i j : Nat} {a b : α}
    (h : l[i]? = some a) : (l.set i b)[j]? = if i = j then some b else l[j]? := by
  rw [List.getElem?_set, if_pos (List.getElem?_eq_some_iff.mp h).1]

theorem Sys.isWinner_run {i j : Nat} {t : Task} (h : s.tasks[i]? = some t) :
    (s.step lib (.run i)).IsWinner j ↔
      if i = j then (t.step lib s.conn).2.1.won = true else s.IsWinner j := by
  simp only [Sys.step, h, Sys.IsWinner, getElem?_set_of_getElem? h]
  split <;> simp

theorem Sys.isWinner_spawn (op : Op) (j : Nat) :
    (s.step lib (.spawn op)).IsWinner j ↔ s.IsWinner j := by
  have hstart : op.start.won = false := by cases op <;> rfl
  simp only [Sys.step, Sys.IsWinner]
  rcases Nat.lt_or_ge j s.tasks.length with hj | hj
  · rw [List.getElem?_append_left hj]
  · rw [List.getElem?_append_right hj, List.getElem?_eq_none hj]
    rcases Nat.eq_or_lt_of_le hj with rfl | hj'
    · simp [hstart]
    · rw [List.getElem?_eq_none (by simp; omega)]

theorem Sys.spawn_task (op : Op) (j : Nat) :
    (s.step lib (.spawn op)).tasks[j]? = s.tasks[j]? ∨
      (s.step lib (.spawn op)).tasks[j]? = some op.start := by
  simp only [Sys.step]
  rcases Nat.lt_or_ge j s.tasks.length with hj | hj
  · exact .inl (List.getElem?_append_left hj)
  · rw [List.getElem?_append_right hj]
    rcases Nat.eq_or_lt_of_le hj with rfl | hj'
    · exact .inr (by simp)
    · exact .inl (by rw [List.getElem?_eq_none hj, List.getElem?_eq_none (by simp; omega)])

theorem Sys.spawn_wf (hw : s.Wf) (op : Op) : (s.step lib (.spawn op)).Wf := by
  have hwin := Sys.isWinner_spawn lib (s := s) op
  refine ⟨fun i j hi hj => hw.unique i j ((hwin i).mp hi) ((hwin j).mp hj), ?_, ?_⟩
  · simp only [hwin]; exact hw.initialized
  · intro i inv hl
    obtain ⟨t, ht, hc⟩ := hw.attributed i inv hl
    exact ⟨t, List.getElem?_append_left (List.getElem?_eq_some_iff.mp ht).1 ▸ ht, hc⟩

section Run

variable {i : Nat} {t : Task} (h : s.tasks[i]? = some t)
include h

theorem Sys.run_conn : (s.step lib (.run i)).conn = (t.step lib s.conn).1 := by
  simp only [Sys.step, h]

theorem Sys.run_log :
    (s.step lib (.run i)).log = s.log ++ (t.step lib s.conn).2.2.map (some i, ·) := by
  simp only [Sys.step, h]

theorem Sys.run_self : (s.step lib (.run i)).tasks[i]? = some (t.step lib s.conn).2.1 := by
  simp only [Sys.step, h, getElem?_set_of_getElem? h, if_true]

theorem Sys.run_other {j : Nat} (hj : j ≠ i) : (s.step lib (.run i)).tasks[j]? = s.tasks[j]? := by
  simp only [Sys.step, h, getElem?_set_of_getElem? h, if_neg (Ne.symm hj)]

end Run

theorem Sys.run_winners (hw : s.Wf) {i : Nat} {t : Task} (h : s.tasks[i]? = some t) :
    ((∀ j, (s.step lib (.run i)).IsWinner j ↔ s.IsWinner j) ∧
      ((s.step lib (.run i)).conn.state = .initialized ↔ s.conn.state = .initialized)) ∨
    (s.conn.state = .initialized ∧ (s.step lib (.run i)).conn.state = .connected ∧
      ∀ j, (s.step lib (.run i)).IsWinner j ↔ j = i) := by
  have hwin := fun j => Sys.isWinner_run lib (j := j) h
  have hconn := Sys.run_conn lib h
  -- goroutine `i` wins after its step exactly when it did before
  have hsame : (t.step lib s.conn).2.1.won = t.won →
      ∀ j, (s.step lib (.run i)).IsWinner j ↔ s.IsWinner j := by
    intro he j; rw [hwin j]; split
    · subst_vars; rw [he]
      exact ⟨fun hw' => ⟨t, h, hw'⟩,
        fun ⟨t', ht', hw'⟩ => by rw [h] at ht'; cases ht'; exact hw'⟩
    · rfl
  by_cases hwt : t.won
  · -- the winner steps: the state is past initialized and stays so
    obtain ⟨hw', hst⟩ := Task.step_won lib (c := s.conn) hwt
    have hne : s.conn.state ≠ .initialized := fun hi => hw.initialized.mp hi i ⟨t, h, hwt⟩
    refine .inl ⟨hsame (by rw [hw', hwt]), ?_⟩
    rw [hconn]; rcases hst with hs | hs <;> rw [hs]
    simp [hne]
  have hwt' : t.won = false := Bool.eq_false_iff.mpr hwt
  by_cases hcon : t.isConnect
  · obtain ⟨-, ⟨hi, hc', hw'⟩ | ⟨hc', hw'⟩⟩ :=
      Task.step_start lib (c := s.conn) hcon hwt'
    · -- the compare-and-swap succeeds
      refine .inr ⟨hi, by rw [hconn, hc'], fun j => ?_⟩
      rw [hwin j]; split
      · subst_vars; simp [hw']
      · simp only [hw.initialized.mp hi j, false_iff]; omega
    · exact .inl ⟨hsame (by rw [hw', hwt']), by rw [hconn, hc']⟩
  · -- any other goroutine moves the state at most from connected to disconnected
    have hnw : (t.step lib s.conn).2.1.won = false := Bool.eq_false_iff.mpr fun hw' =>
      hcon (by simpa using Task.isConnect_of_won hw')
    refine .inl ⟨hsame (by rw [hnw, hwt']), ?_⟩
    rcases (Task.step_frame lib (c := s.conn) (Bool.eq_false_iff.mpr hcon)).1 with
      hs | ⟨hc, hs⟩ <;> rw [hconn, hs]
    rw [hc]; simp

theorem Sys.run_attributed (hw : s.Wf) {i : Nat} {t : Task} (h : s.tasks[i]? = some t) :
    ∀ j inv, (some j, inv) ∈ (s.step lib (.run i)).log →
      ∃ t', (s.step lib (.run i)).tasks[j]? = some t' ∧ (t'.isConnect → t'.won) := by
  have hkeep : (t.isConnect → t.won) →
      (t.step lib s.conn).2.1.isConnect → (t.step lib s.conn).2.1.won := fun hc hc' =>
    (Task.step_won lib (hc (by rwa [Task.step_isConnect] at hc'))).1
  have hcalls : (t.step lib s.conn).2.2 ≠ [] → t.isConnect → t.won := fun hne hcon =>
    by_contra fun hwt => hne (Task.step_start lib hcon (Bool.eq_false_iff.mpr hwt)).1
  intro j inv hl
  rw [Sys.run_log lib h, List.mem_append] at hl
  rcases hl with hl | hl
  · obtain ⟨t', ht', hc⟩ := hw.attributed j inv hl
    by_cases hji : j = i
    · subst hji
      rw [h] at ht'; cases ht'
      exact ⟨_, Sys.run_self lib h, hkeep hc⟩
    · exact ⟨t', (Sys.run_other lib h hji).trans ht', hc⟩
  · obtain ⟨inv', hinv, he⟩ := List.mem_map.mp hl
    cases he
    exact ⟨_, Sys.run_self lib h, hkeep (hcalls (List.ne_nil_of_mem hinv))⟩

theorem Sys.run_step_wf (hw : s.Wf) (i : Nat) : (s.step lib (.run i)).Wf := by
  rcases h : s.tasks[i]? with _ | t
  · simp only [Sys.step, h]; exact hw
  rcases Sys.run_winners lib hw h with ⟨hsame, hst⟩ | ⟨-, hc, hnew⟩
  · exact ⟨fun a b ha hb => hw.unique a b ((hsame a).mp ha) ((hsame b).mp hb),
      by simp only [hsame, hst]; exact hw.initialized, Sys.run_attributed lib hw h⟩
  · exact ⟨fun a b ha hb => ((hnew a).mp ha).trans ((hnew b).mp hb).symm,
      by rw [hc]; exact iff_of_false (by simp) fun h' => h' i ((hnew i).mpr rfl),
      Sys.run_attributed lib hw h⟩

theorem Sys.step_wf (hw : s.Wf) : ∀ e, (s.step lib e).Wf
  | .spawn op => Sys.spawn_wf lib hw op
  | .run i => Sys.run_step_wf lib hw i

theorem Sys.run_wf (hw : s.Wf) (evs : List Event) : (s.run lib evs).Wf := by
  induction evs generalizing s with
  | nil => exact hw
  | cons e evs ih => exact ih (Sys.step_wf lib hw e)

theorem Sys.step_state (hw : s.Wf) : ∀ e, StateStep s.conn.state (s.step lib e).conn.state
  | .spawn _ => .refl _
  | .run i => by
    rcases h : s.tasks[i]? with _ | t
    · simp only [Sys.step, h]; exact .refl _
    simp only [Sys.step, h]
    by_cases hwt : t.won
    · have hne : s.conn.state ≠ .initialized := fun hi => hw.initialized.mp hi i ⟨t, h, hwt⟩
      rcases (Task.step_won lib (c := s.conn) hwt).2 with hs | hs <;> rw [hs]
      · exact .refl _
      · revert hne; cases s.conn.state <;> intro hne
        · exact .refl _
        · exact .close
        · exact absurd rfl hne
    · by_cases hcon : t.isConnect
      · rcases (Task.step_start lib (c := s.conn) hcon (Bool.eq_false_iff.mpr hwt)).2 with
          ⟨hi, hc, -⟩ | ⟨hc, -⟩ <;> rw [hc]
        · rw [hi]; exact .connect
        · exact .refl _
      · rcases (Task.step_frame lib (c := s.conn) (Bool.eq_false_iff.mpr hcon)).1 with
          hs | ⟨hc, hs⟩ <;> rw [hs]
        · exact .refl _
        · rw [hc]; exact .close

end Wf

section Alone

variable (lib : Library) (c : Connection) (log : List (Option Nat × Invocation))

/-- Run alone and uncancelled, four steps of `readWireMessage` compute the sequential call. -/
theorem readWireMessage_steps (env : ReadEnv) (hab : env.aborted = false) :
    match readWireMessage c env with
    | .returns (c', _, r) =>
      (Sys.run lib ⟨c, [.readWireMessage env .load], log⟩ (List.replicate 4 (.run 0))).conn =
        c' ∧
      (Sys.run lib ⟨c, [.readWireMessage env .load], log⟩ (List.replicate 4 (.run 0))).tasks =
        [.readWireMessage env (.returned r)]
    | .panics =>
      (Sys.run lib ⟨c, [.readWireMessage env .load], log⟩ (List.replicate 4 (.run 0))).tasks =
        [.readWireMessage env .panicked] := by
  by_cases hs : c.state = .connected
  · rcases hn : c.nc with _ | n
    · simp [readWireMessage, hs, hn, Sys.run, Sys.step, Task.step, readWireMessageStep, opStep]
    rcases hd : env.setDeadline with _ | e
    · rcases hr : read c env.stream false with ⟨c₁, s₁, r⟩ | _
      · have hc₁ := read_frame hr
        have hs₁ : c₁.state = .connected := by rw [hc₁]; exact hs
        have hn₁ : c₁.nc = some n := by rw [hc₁]; exact hn
        rcases he : r.err with _ | e
        · simp [readWireMessage, hs, hd, hab, hr, he, Sys.run, Sys.step, Task.step,
            readWireMessageStep, opStep, readIo, hn]
        · by_cases hm : c₁.awaitRemainingBytes = none
          · simp [readWireMessage, hs, hd, hab, hr, he, hm, Sys.run, Sys.step, Task.step,
              readWireMessageStep, opStep, readIo, hn, close, closeStep, hs₁, hn₁,
              OpPc.afterClose]
          · simp [readWireMessage, hs, hd, hab, hr, he, hm, Sys.run, Sys.step, Task.step,
              readWireMessageStep, opStep, readIo, hn]
      · simp [readWireMessage, hs, hd, hab, hr, Sys.run, Sys.step, Task.step, readWireMessageStep,
          opStep, readIo, hn]
    · simp [readWireMessage, hs, hd, Sys.run, Sys.step, Task.step, readWireMessageStep, opStep,
        readIo, hn]
  · simp [readWireMessage, hs, Sys.run, Sys.step, Task.step, readWireMessageStep, opStep]

/-- The same for `writeWireMessage`. -/
theorem writeWireMessage_steps (env : WriteEnv) (hab : env.aborted = false) :
    match writeWireMessage c env with
    | .returns (c', r) =>
      (Sys.run lib ⟨c, [.writeWireMessage env .load], log⟩ (List.replicate 4 (.run 0))).conn =
        c' ∧
      (Sys.run lib ⟨c, [.writeWireMessage env .load], log⟩ (List.replicate 4 (.run 0))).tasks =
        [.writeWireMessage env (.returned r)]
    | .panics =>
      (Sys.run lib ⟨c, [.writeWireMessage env .load], log⟩ (List.replicate 4 (.run 0))).tasks =
        [.writeWireMessage env .panicked] := by
  by_cases hs : c.state = .connected
  · rcases hn : c.nc with _ | n
    · simp [writeWireMessage, hs, hn, Sys.run, Sys.step, Task.step, writeWireMessageStep, opStep]
    rcases hd : env.setDeadline with _ | e
    · rcases hw : write env with _ | e
      · simp [writeWireMessage, hs, hd, hab, hw, Sys.run, Sys.step, Task.step,
          writeWireMessageStep, opStep, writeIo, hn]
      · simp [writeWireMessage, hs, hd, hab, hw, Sys.run, Sys.step, Task.step,
          writeWireMessageStep, opStep, writeIo, hn, close, closeStep, OpPc.afterClose]
    · simp [writeWireMessage, hs, hd, Sys.run, Sys.step, Task.step, writeWireMessageStep, opStep,
        writeIo, hn]
  · simp [writeWireMessage, hs, Sys.run, Sys.step, Task.step, writeWireMessageStep, opStep]

end Alone

end MongoDriver.Topology
