import MongoDriver.Topology.Handle

/-! # Pinning and release

A handle is released at most once: only `Close` with no pins and `Expire` hand the connection
back, and they clear the pointer that every later call checks. The pin count is Go's 64-bit
`int`: over fewer than `2^63` calls it never wraps, so it never goes negative. The pool
accounting is not balanced, though: `unpin` never calls the pool, and a second `0 → 1` pin
overwrites the cleanup stored by the first, so a handle pinned, unpinned and pinned again
reports two pins and one unpin. And three calls read through the pointer
without checking it, so they panic on a released handle.
-/

namespace MongoDriver.Topology

namespace Handle

variable (ext : Externals)

def releasedOutcome : HandleOp → Outcome Reply
  | .write _ => .returns (.error (some .connectionClosed))
  | .read _ => .returns (.message (.error .connectionClosed))
  | .compressWireMessage _ dst => .returns (.compressed (dst, some .connectionClosed))
  | .description => .returns (.description {})
  | .close | .expire | .unpinFromCursor | .unpinFromTransaction => .returns (.error none)
  | .pinToCursor | .pinToTransaction | .stale | .driverConnectionID => .panics
  | .id => .returns (.text "<closed>")
  | .serverConnectionID => .returns (.serverConnectionID none)
  | .address | .localAddress => .returns (.text "0.0.0.0")

theorem apply_released {h : Handle} (hr : h.connection = none) (op : HandleOp) :
    apply ext h op = ⟨h, [], releasedOutcome op⟩ := by
  cases op <;> simp [apply, write, read, compressWireMessage, description, close, expire,
    pinToCursor, pinToTransaction, unpinFromCursor, unpinFromTransaction, unpin, id,
    serverConnectionID, stale, address, localAddress, driverConnectionID, guarded, unguarded,
    Call.reply, releasedOutcome, hr]

/-- The callbacks of a release: `checkIn`, then the stored pool cleanup, then the server's. -/
def releaseCallbacks (h : Handle) : List Callback :=
  .checkIn :: h.cleanupPoolFn.toList ++ (if h.cleanupServerFn then [.cleanupServer] else [])

def IsPin : Callback → Prop
  | .pinConnectionToCursor | .pinConnectionToTransaction => True
  | _ => False

/-- What one method does to a live handle: nothing, a first pin, a count move, or a release. -/
theorem apply_live {h : Handle} {c : Connection} (hc : h.connection = some c) (op : HandleOp) :
    ((apply ext h op).callbacks = [] ∧ (apply ext h op).handle.connection.isSome ∧
      (apply ext h op).handle.refCount = h.refCount ∧
      (apply ext h op).handle.cleanupPoolFn = h.cleanupPoolFn) ∨
    (h.refCount = 0 ∧ (apply ext h op).handle.connection = h.connection ∧
      (apply ext h op).handle.refCount = 1 ∧
      (((apply ext h op).callbacks = [.pinConnectionToCursor] ∧
        (apply ext h op).handle.cleanupPoolFn = some .unpinConnectionFromCursor) ∨
      ((apply ext h op).callbacks = [.pinConnectionToTransaction] ∧
        (apply ext h op).handle.cleanupPoolFn = some .unpinConnectionFromTransaction))) ∨
    ((apply ext h op).callbacks = [] ∧ (apply ext h op).handle.connection = h.connection ∧
      (apply ext h op).handle.cleanupPoolFn = h.cleanupPoolFn ∧
      ((h.refCount ≠ 0 ∧ (apply ext h op).handle.refCount = wrapInt (h.refCount + 1)) ∨
        (h.refCount ≠ 0 ∧ (apply ext h op).handle.refCount = wrapInt (h.refCount - 1)))) ∨
    ((apply ext h op).handle.connection = none ∧
      (apply ext h op).callbacks = releaseCallbacks h ∧
      (apply ext h op).handle.refCount = h.refCount) := by
  cases op <;>
    simp only [apply, write, read, compressWireMessage, description, close, expire,
      pinToCursor, pinToTransaction, unpinFromCursor, unpinFromTransaction, unpin, pin, id,
      serverConnectionID, stale, address, localAddress, driverConnectionID, guarded,
      unguarded, cleanupReferences, Call.reply, hc] <;>
    (try split) <;> (try split) <;> (try split) <;>
    simp [releaseCallbacks, hc, *]

theorem apply_cases (h : Handle) (op : HandleOp) :
    ((apply ext h op).handle.connection.isSome = h.connection.isSome ∧
      ∀ cb ∈ (apply ext h op).callbacks, IsPin cb) ∨
    (h.connection.isSome ∧ (apply ext h op).handle.connection = none ∧
      (apply ext h op).callbacks = releaseCallbacks h) := by
  rcases hc : h.connection with _ | c
  · simp [apply_released ext hc, hc]
  · rcases apply_live ext hc op with
      ⟨hcb, hl, -⟩ | ⟨-, hl, -, ⟨hcb, -⟩ | ⟨hcb, -⟩⟩ | ⟨hcb, hl, -⟩ | ⟨hl, hcb, -⟩ <;>
      simp [hc, hl, hcb, IsPin]

/-- The stored pool cleanup undoes a pin callback that is already in `log`. -/
def Matched (h : Handle) (log : List Callback) : Prop :=
  match h.cleanupPoolFn with
  | none => True
  | some .unpinConnectionFromCursor => .pinConnectionToCursor ∈ log
  | some .unpinConnectionFromTransaction => .pinConnectionToTransaction ∈ log
  | some _ => False

theorem Matched.mono {h : Handle} {log log' : List Callback} (hm : Matched h log)
    (hl : log ⊆ log') : Matched h log' := by
  rcases h with ⟨_, _, _ | (_ | _ | _ | _ | _ | _), _, _⟩ <;> simp only [Matched] at hm ⊢ <;>
    first | trivial | exact hl hm

theorem Matched.of_cleanupPoolFn {h h' : Handle} {log : List Callback}
    (he : h'.cleanupPoolFn = h.cleanupPoolFn) (hm : Matched h log) : Matched h' log := by
  unfold Matched; rwa [he]

theorem apply_matched {h : Handle} {log : List Callback} (hm : Matched h log) (op : HandleOp)
    (hl : (apply ext h op).handle.connection.isSome) :
    Matched (apply ext h op).handle (log ++ (apply ext h op).callbacks) := by
  rcases hc : h.connection with _ | c
  · rw [apply_released ext hc]; exact hm.mono (List.subset_append_left _ _)
  have hm' := hm.mono (List.subset_append_left log (apply ext h op).callbacks)
  rcases apply_live ext hc op with
    ⟨-, -, -, he⟩ | ⟨-, -, -, ⟨hcb, he⟩ | ⟨hcb, he⟩⟩ | ⟨-, -, he, -⟩ | ⟨hr, -⟩
  · exact hm'.of_cleanupPoolFn he
  · simp [Matched, he, hcb]
  · simp [Matched, he, hcb]
  · exact hm'.of_cleanupPoolFn he
  · simp [hr] at hl

theorem apply_refCount_bounds {h : Handle} (hr : 0 ≤ h.refCount)
    (hb : h.refCount + 1 < 9223372036854775808) (op : HandleOp) :
    0 ≤ (apply ext h op).handle.refCount ∧ (apply ext h op).handle.refCount ≤ h.refCount + 1 := by
  rcases hc : h.connection with _ | c
  · rw [apply_released ext hc]; exact ⟨hr, Int.le_add_one (le_refl _)⟩
  · rcases apply_live ext hc op with ⟨-, -, he, -⟩ | ⟨-, -, he, -⟩ |
      ⟨-, -, -, ⟨-, he⟩ | ⟨hne, he⟩⟩ | ⟨-, -, he⟩
    · omega
    · omega
    · rw [he, wrapInt_of_lt (by omega) hb]; omega
    · rw [he, wrapInt_of_lt (by omega) (by omega)]; omega
    · omega

/-- Over fewer than `2^63` calls the pin count stays between zero and its start plus the calls. -/
theorem run_refCount_nonneg {h : Handle} (hr : 0 ≤ h.refCount) (ops : List HandleOp)
    (hb : h.refCount + ops.length < 9223372036854775808) :
    0 ≤ (run ext h ops).1.refCount ∧ (run ext h ops).1.refCount ≤ h.refCount + ops.length := by
  induction ops generalizing h with
  | nil => exact ⟨hr, by simp [run]⟩
  | cons op ops ih =>
    simp only [List.length_cons, Nat.cast_add, Nat.cast_one] at hb ⊢
    obtain ⟨h₀, h₁⟩ := apply_refCount_bounds ext hr (by omega) op
    simp only [run]
    split <;> dsimp only
    · omega
    · obtain ⟨ih₀, ih₁⟩ := ih h₀ (by omega)
      exact ⟨ih₀, by omega⟩

theorem run_refCount_nonneg_sample :
    let c₀ : Connection :=
      { state := .connected, id := "localhost:27017[-2]", nc := some (.raw "127.0.0.1:50000"),
        addr := "localhost:27017", desc := {}, compressor := .noOp, zliblevel := 0,
        zstdLevel := 0, connectDone := true, config := {}, serverConnectionID := none,
        driverConnectionID := 2, generation := 0, awaitRemainingBytes := none }
    let ext₀ : Externals := ⟨fun _ => none, fun _ => false, fun x _ => .ok x⟩
    let h₀ : Handle := ⟨some c₀, 0, none, false, 0⟩
    let ops : List HandleOp :=
      [.pinToCursor, .pinToTransaction, .unpinFromCursor, .close, .unpinFromTransaction, .close]
    0 ≤ h₀.refCount ∧ h₀.refCount + ops.length < 9223372036854775808 ∧
      0 ≤ (run ext₀ h₀ ops).1.refCount ∧ (run ext₀ h₀ ops).1.refCount ≤ h₀.refCount + ops.length :=
  ⟨le_refl _, by decide, run_refCount_nonneg _ (le_refl _) _ (by decide)⟩

theorem run_released {h : Handle} (hr : h.connection = none) (ops : List HandleOp) :
    (run ext h ops).2 = [] := by
  induction ops with
  | nil => rfl
  | cons op ops ih =>
    simp only [run, apply_released ext hr]
    split <;> simp [ih]

/-- A run's callbacks are pins, then at most one release whose cleanup undoes an earlier pin. -/
theorem run_callbacks (h : Handle) (ops : List HandleOp) (log : List Callback)
    (hm : Matched h log) :
    ∃ pins rel, (run ext h ops).2 = pins ++ rel ∧ (∀ cb ∈ pins, IsPin cb) ∧
      (rel = [] ∨ ∃ h' : Handle, Matched h' (log ++ pins) ∧ rel = releaseCallbacks h') := by
  induction ops generalizing h log with
  | nil => exact ⟨[], [], rfl, by simp, .inl rfl⟩
  | cons op ops ih =>
    rcases apply_cases ext h op with ⟨hl, hp⟩ | ⟨-, hr, hcb⟩
    · simp only [run]
      split
      · exact ⟨_, [], (List.append_nil _).symm, hp, .inl rfl⟩
      · rcases hc : (apply ext h op).handle.connection with _ | c
        · refine ⟨(apply ext h op).callbacks, [], ?_, hp, .inl rfl⟩
          simp [run_released ext hc]
        · have hm' := apply_matched ext hm op (by simp [hc])
          obtain ⟨pins, rel, hrun, hpins, hrel⟩ := ih _ _ hm'
          refine ⟨(apply ext h op).callbacks ++ pins, rel, by rw [hrun, List.append_assoc],
            ?_, ?_⟩
          · simp only [List.mem_append]
            rintro cb (hcb | hcb) <;> [exact hp cb hcb; exact hpins cb hcb]
          · simpa only [List.append_assoc] using hrel
    · refine ⟨[], releaseCallbacks h, ?_, by simp, .inr ⟨h, by simpa using hm, rfl⟩⟩
      simp only [run]
      split <;> simp [run_released ext hr, hcb]

theorem run_callbacks_sample :
    let c₀ : Connection :=
      { state := .connected, id := "localhost:27017[-2]", nc := some (.raw "127.0.0.1:50000"),
        addr := "localhost:27017", desc := {}, compressor := .noOp, zliblevel := 0,
        zstdLevel := 0, connectDone := true, config := {}, serverConnectionID := none,
        driverConnectionID := 2, generation := 0, awaitRemainingBytes := none }
    let ext₀ : Externals := ⟨fun _ => none, fun _ => false, fun x _ => .ok x⟩
    let h₀ : Handle := ⟨some c₀, 0, none, false, 0⟩
    let ops : List HandleOp :=
      [.pinToTransaction, .pinToCursor, .unpinFromTransaction, .close, .unpinFromCursor, .close]
    Matched h₀ [] ∧ ∃ pins rel, (run ext₀ h₀ ops).2 = pins ++ rel ∧
      (∀ cb ∈ pins, IsPin cb) ∧
      (rel = [] ∨ ∃ h' : Handle, Matched h' ([] ++ pins) ∧ rel = releaseCallbacks h') :=
  ⟨trivial, run_callbacks _ _ _ _ trivial⟩

end Handle

/-- Pinned, unpinned, pinned again, unpinned and closed, a handle reports two pins and one unpin. -/
theorem repin_unbalances_pool_accounting :
    let c₀ : Connection :=
      { state := .connected, id := "localhost:27017[-2]", nc := some (.raw "127.0.0.1:50000"),
        addr := "localhost:27017", desc := {}, compressor := .noOp, zliblevel := 0,
        zstdLevel := 0, connectDone := true, config := {}, serverConnectionID := none,
        driverConnectionID := 2, generation := 0, awaitRemainingBytes := none }
    let ext₀ : Externals := ⟨fun _ => none, fun _ => false, fun x _ => .ok x⟩
    (Handle.run ext₀ ⟨some c₀, 0, none, false, 0⟩
      [.pinToCursor, .unpinFromCursor, .pinToCursor, .unpinFromCursor, .close]).2 =
      [.pinConnectionToCursor, .pinConnectionToCursor, .checkIn, .unpinConnectionFromCursor] := by
  decide

/-- On a released handle, both pins, `Stale` and `DriverConnectionID` dereference nil. -/
theorem released_handle_dereferences_nil :
    let c₀ : Connection :=
      { state := .connected, id := "localhost:27017[-2]", nc := some (.raw "127.0.0.1:50000"),
        addr := "localhost:27017", desc := {}, compressor := .noOp, zliblevel := 0,
        zstdLevel := 0, connectDone := true, config := {}, serverConnectionID := none,
        driverConnectionID := 2, generation := 0, awaitRemainingBytes := none }
    let ext₀ : Externals := ⟨fun _ => none, fun _ => false, fun x _ => .ok x⟩
    let h₁ := (Handle.close ext₀ ⟨some c₀, 0, none, false, 0⟩).handle
    h₁.connection.isNone ∧ h₁.pinToCursor.outcome = .panics ∧
      h₁.pinToTransaction.outcome = .panics ∧ (h₁.stale ext₀).outcome = .panics ∧
      h₁.driverConnectionID.outcome = .panics :=
  ⟨rfl, rfl, rfl, rfl, rfl⟩

end MongoDriver.Topology
