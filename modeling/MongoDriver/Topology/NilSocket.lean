import MongoDriver.Topology.System

/-! # The nil socket

Right after their state check, `readWireMessage` and `writeWireMessage` call
`SetReadDeadline` or `SetWriteDeadline` on `c.nc`, and the winning `connect` call stores the
state connected before it dials: a read or write whose state check falls between the two
dereferences a nil socket. Once a socket is stored it is never cleared, and `read` itself never
panics, so from then on no read or write panics, whatever the interleaving.
-/

namespace MongoDriver.Topology

def Task.opPanicked : Task → Bool
  | .readWireMessage _ .panicked | .writeWireMessage _ .panicked => true
  | _ => false

@[simp] theorem Task.opPanicked_readWireMessage (env : ReadEnv)
    (pc : OpPc (Except Error (List UInt8))) :
    (Task.readWireMessage env pc).opPanicked = true ↔ pc = .panicked := by
  cases pc <;> simp [Task.opPanicked]

@[simp] theorem Task.opPanicked_writeWireMessage (env : WriteEnv) (pc : OpPc (Option Error)) :
    (Task.writeWireMessage env pc).opPanicked = true ↔ pc = .panicked := by
  cases pc <;> simp [Task.opPanicked]

section Steps

variable (lib : Library) {c : Connection}

theorem setGenerationNumber_nc (c : Connection) : (setGenerationNumber c).1.nc = c.nc := by
  unfold setGenerationNumber; split <;> rfl

theorem connectStep_nc_isSome (o : ConnectOutcomes) (pc : ConnectPc) (hnc : c.nc.isSome) :
    (connectStep lib o c pc).1.nc.isSome := by
  cases pc
  case compress =>
    obtain ⟨a, b, d, h⟩ := selectCompressor_eq lib c
    simp only [connectStep, h]; exact hnc
  all_goals simp only [connectStep]; (repeat' split) <;> simp [setGenerationNumber_nc, hnc]

theorem Task.step_nc_isSome (t : Task) (hnc : c.nc.isSome) : (t.step lib c).1.nc.isSome := by
  cases hk : t.isConnect
  · rw [(Task.step_frame lib hk).2]; exact hnc
  · cases t with
    | connect o pc => exact connectStep_nc_isSome lib o pc hnc
    | _ => simp [Task.isConnect] at hk

theorem read_ne_panics (c : Connection) (s : Stream) (aborted : Bool) :
    read c s aborted ≠ .panics := by
  unfold read
  split
  · exact absurd ‹_› readMessage_ne_panics
  · simp

theorem readIo_ne_panicked (env : ReadEnv) (c : Connection) : (readIo env c).2 ≠ .panicked := by
  unfold readIo
  split
  · simp
  · rcases h : read c env.stream env.aborted with ⟨c', s', r⟩ | _
    · simp only
      split
      · simp
      · split <;> simp
    · exact absurd h (read_ne_panics c _ _)

theorem writeIo_ne_panicked (env : WriteEnv) (c : Connection) :
    (writeIo env c).2 ≠ .panicked := by
  unfold writeIo
  split
  · simp
  · split <;> simp

theorem opStep_panicked {ρ : Type} {closed : String → ρ} {io : Connection → Connection × OpPc ρ}
    (hio : ∀ c, (io c).2 ≠ .panicked) (hnc : c.nc.isSome) (pc : OpPc ρ)
    (h : (opStep closed io c pc).2.1 = .panicked) : pc = .panicked := by
  cases pc with
  | load => simp only [opStep] at h; split at h <;> cases h
  | io =>
    obtain ⟨n, hn⟩ := Option.isSome_iff_exists.mp hnc
    simp only [opStep, hn] at h
    exact absurd h (hio c)
  | close result pc =>
    simp only [opStep] at h
    generalize (closeStep c pc).2.1 = pc' at h
    cases pc' <;> cases h
  | returned => simp [opStep] at h
  | panicked => rfl

theorem Task.step_opPanicked {t : Task} (hnc : c.nc.isSome)
    (h : (t.step lib c).2.1.opPanicked) : (t.step lib c).2.1 = t := by
  cases t with
  | connect o pc => simp [Task.step, Task.opPanicked] at h
  | close pc => simp [Task.step, Task.opPanicked] at h
  | readWireMessage env pc =>
    simp only [Task.step, Task.opPanicked_readWireMessage] at h ⊢
    rw [h, opStep_panicked (readIo_ne_panicked env) hnc pc h]
  | writeWireMessage env pc =>
    simp only [Task.step, Task.opPanicked_writeWireMessage] at h ⊢
    rw [h, opStep_panicked (writeIo_ne_panicked env) hnc pc h]

end Steps

section Run

variable (lib : Library) {s : Sys}

theorem Sys.step_nc_isSome (hnc : s.conn.nc.isSome) (e : Event) :
    (s.step lib e).conn.nc.isSome := by
  cases e with
  | spawn op => exact hnc
  | run i =>
    rcases h : s.tasks[i]? with _ | t
    · simp only [Sys.step, h]; exact hnc
    · rw [Sys.run_conn lib h]; exact Task.step_nc_isSome lib t hnc

theorem Sys.step_opPanicked (hnc : s.conn.nc.isSome) (e : Event) {j : Nat} {t : Task}
    (ht : (s.step lib e).tasks[j]? = some t) (hp : t.opPanicked) : s.tasks[j]? = some t := by
  cases e with
  | spawn op =>
    rcases Sys.spawn_task lib op j with h | h
    · rwa [← h]
    · rw [h] at ht; cases ht
      cases op <;> simp [Op.start, Task.opPanicked] at hp
  | run i =>
    rcases h : s.tasks[i]? with _ | t'
    · simpa only [Sys.step, h] using ht
    · by_cases hji : j = i
      · subst hji
        rw [Sys.run_self lib h] at ht; cases ht
        rw [h, Task.step_opPanicked lib hnc hp]
      · rwa [Sys.run_other lib h hji] at ht

/-- Once the connection holds a socket, no read or write goroutine panics any more. -/
theorem Sys.run_opPanicked (hnc : s.conn.nc.isSome) (evs : List Event) {j : Nat} {t : Task}
    (ht : (s.run lib evs).tasks[j]? = some t) (hp : t.opPanicked) : s.tasks[j]? = some t := by
  induction evs generalizing s with
  | nil => exact ht
  | cons e evs ih => exact Sys.step_opPanicked lib hnc e (ih (Sys.step_nc_isSome lib hnc e) ht) hp

theorem Sys.run_opPanicked_sample :
    let c₀ : Connection :=
      { state := .connected, id := "localhost:27017[-2]", nc := some (.raw "127.0.0.1:50000"),
        addr := "localhost:27017", desc := {}, compressor := .noOp, zliblevel := 0,
        zstdLevel := 0, connectDone := true, config := {}, serverConnectionID := none,
        driverConnectionID := 0, generation := 0, awaitRemainingBytes := none }
    let env : ReadEnv := ⟨⟨false, false⟩, none, ⟨[], .eof⟩, false⟩
    let s₀ : Sys := ⟨c₀, [.readWireMessage env .panicked], []⟩
    let evs : List Event := [.spawn (.readWireMessage env), .run 1, .run 1, .run 0]
    c₀.nc.isSome ∧ (s₀.run ⟨id, 6, 6⟩ evs).tasks[0]? = some (.readWireMessage env .panicked) ∧
      (Task.readWireMessage env .panicked).opPanicked ∧
      s₀.tasks[0]? = some (.readWireMessage env .panicked) := by
  intro c₀ env s₀ evs
  have hnc : c₀.nc.isSome := rfl
  have ht : (s₀.run ⟨id, 6, 6⟩ evs).tasks[0]? = some (.readWireMessage env .panicked) := rfl
  exact ⟨hnc, ht, rfl, Sys.run_opPanicked _ hnc evs ht rfl⟩

end Run

end MongoDriver.Topology
