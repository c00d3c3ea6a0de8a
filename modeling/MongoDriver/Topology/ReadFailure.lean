import MongoDriver.Topology.Framing

/-! # Failed reads

A failed read either closes the connection or, when a timeout struck at a point where the
stream position is known, records the number of bytes still owed in `awaitRemainingBytes`.
`readWireMessage` only closes a connection without a marker, and nothing in the connection
clears one: a marker left by an earlier read keeps every later failed read from closing.
-/

namespace MongoDriver.Topology

open Wiremessage

/-- The positions at which a timed-out read knows exactly how much of the message is owed. -/
def MarkerExact (c : Connection) (s : Stream) (r : Int) : Prop :=
  s.stop.isTimeout ∧ ((s.data = [] ∧ r = 0) ∨
    ∃ L, parseWmSizeBytes c (s.data.take 4) = .ok L ∧ 4 ≤ s.data.length ∧
      (s.data.length : Int) < L ∧ r = L - s.data.length)

@[simp] theorem shortReadError_isTimeout (s : Stream) :
    s.shortReadError.isTimeout = s.stop.isTimeout := by
  unfold Stream.shortReadError; split <;> simp only [Error.isTimeout, *]

section Marker

variable {c c' : Connection} {s s' : Stream} {r : ReadReply}

theorem readMessage_state (h : readMessage c s = .returns (c', s', r)) : c'.state = c.state := by
  unfold readMessage at h
  split at h
  split at h
  · cases h; split <;> rfl
  · split at h
    · cases h; rfl
    · split at h
      · cases h
      · split at h
        split at h
        · cases h; split <;> rfl
        · cases h; rfl

theorem readMessage_marker (h : readMessage c s = .returns (c', s', r)) (herr : r.err.isSome)
    (hm : c.awaitRemainingBytes = none) :
    c'.awaitRemainingBytes = none ∨
      ∃ m, c'.awaitRemainingBytes = some m ∧ MarkerExact c s m := by
  rcases Nat.lt_or_ge s.data.length 4 with hs | hs
  · simp only [readMessage, readFull_of_lt hs, Outcome.returns.injEq, Prod.mk.injEq] at h
    obtain ⟨rfl, -, -⟩ := h
    split
    · rename_i ht
      refine .inr ⟨0, rfl, (shortReadError_isTimeout s).symm.trans ht.2, .inl ⟨?_, rfl⟩⟩
      exact List.length_eq_zero.mp ht.1
    · exact .inl hm
  · simp only [readMessage, readFull_of_le hs] at h
    split at h
    · cases h; exact .inl hm
    · rename_i size hp
      have hs4 := (parseWmSizeBytes_ok hp).1
      rw [if_neg (by omega)] at h
      rcases Nat.lt_or_ge (s.data.drop 4).length (size.toNat - 4) with hb | hb
      · simp only [@readFull_of_lt ⟨s.data.drop 4, s.stop⟩ _ hb, Outcome.returns.injEq,
          Prod.mk.injEq] at h
        obtain ⟨rfl, -, -⟩ := h
        split
        · rename_i ht
          simp only [List.length_drop] at hb ht ⊢
          refine .inr ⟨_, rfl, ?_, .inr ⟨size, hp, hs, by omega, by omega⟩⟩
          rw [← shortReadError_isTimeout ⟨s.data.drop 4, s.stop⟩]; exact ht.2
        · exact .inl hm
      · simp only [@readFull_of_le ⟨s.data.drop 4, s.stop⟩ _ hb, Outcome.returns.injEq,
          Prod.mk.injEq] at h
        obtain ⟨-, -, rfl⟩ := h
        simp at herr

end Marker

/-- A failed read on an unmarked connection closes it, or marks exactly what is still owed. -/
theorem readWireMessage_failure_closes_or_marks {c c' : Connection} {env : ReadEnv} {s' : Stream}
    {e : Error} (h : c.state = .connected) (hd : env.setDeadline = none)
    (hm : c.awaitRemainingBytes = none) (hr : readWireMessage c env = .returns (c', s', .error e)) :
    c'.state = .disconnected ∨
      ∃ m, c'.awaitRemainingBytes = some m ∧ MarkerExact c env.stream m := by
  rcases hn : c.nc with _ | n
  · simp [readWireMessage, h, hn] at hr
  simp only [readWireMessage, h, hn, hd, ne_eq, not_true_eq_false, if_false] at hr
  cases ha : env.aborted
  · simp only [ha, Bool.false_eq_true, if_false, read, false_and] at hr
    rcases hrm : readMessage c env.stream with ⟨⟨c₁, s₁, ⟨b, msg, _ | e₁⟩⟩⟩ | _ <;>
      simp only [hrm, Outcome.returns.injEq, Prod.mk.injEq, reduceCtorEq, false_and,
        and_false] at hr
    obtain ⟨rfl, -, -⟩ := hr
    rcases readMessage_marker hrm rfl hm with h₁ | ⟨m, h₁, hx⟩
    · left
      simp only [h₁, Option.isNone_none, if_true, close_state, readMessage_state hrm, h]
    · right
      simp only [h₁, Option.isNone_some, Bool.false_eq_true, if_false]
      exact ⟨m, rfl, hx⟩
  · simp only [ha, if_true, read, true_and] at hr
    have hc : (close c).1.state = .disconnected := by simp [close_state, h]
    rcases hrm : readMessage (close c).1 env.stream with ⟨⟨c₁, s₁, r₁⟩⟩ | _ <;>
      simp only [hrm, reduceCtorEq] at hr
    have h₁ : c₁.state = .disconnected := (readMessage_state hrm).trans hc
    left
    split at hr <;> (try split at hr) <;>
      simp only [Outcome.returns.injEq, Prod.mk.injEq, reduceCtorEq, false_and, and_false] at hr <;>
      obtain ⟨rfl, -, -⟩ := hr <;> simp [close_state, h₁]

theorem readWireMessage_failure_closes_or_marks_witness :
    let c₀ : Connection :=
      { state := .connected, id := "localhost:27017[-2]", nc := some (.raw "127.0.0.1:50000"),
        addr := "localhost:27017", desc := {}, compressor := .noOp, zliblevel := 0,
        zstdLevel := 0, connectDone := true, config := {}, serverConnectionID := none,
        driverConnectionID := 0, generation := 0, awaitRemainingBytes := none }
    let env : ReadEnv := ⟨⟨true, false⟩, none, ⟨[16, 0, 0, 0, 1], .timeout⟩, false⟩
    ∃ c' s' e, readWireMessage c₀ env = .returns (c', s', .error e) ∧
      (c'.state = .disconnected ∨
        ∃ m, c'.awaitRemainingBytes = some m ∧ MarkerExact c₀ env.stream m) :=
  ⟨_, _, _, rfl, readWireMessage_failure_closes_or_marks rfl rfl rfl rfl⟩

/-- A marker is never cleared, so a later failed read can leave the connection open. -/
theorem readWireMessage_marked_failure_keeps_open :
    let c₀ : Connection :=
      { state := .connected, id := "localhost:27017[-2]", nc := some (.raw "127.0.0.1:50000"),
        addr := "localhost:27017", desc := {}, compressor := .noOp, zliblevel := 0,
        zstdLevel := 0, connectDone := true, config := {}, serverConnectionID := none,
        driverConnectionID := 0, generation := 0, awaitRemainingBytes := none }
    let ctx : Context := ⟨false, false⟩
    ∃ c₁ c₂ s₁ s₂ e₁ e₂,
      readWireMessage c₀ ⟨ctx, none, ⟨[], .timeout⟩, false⟩ = .returns (c₁, s₁, .error e₁) ∧
      readWireMessage c₁ ⟨ctx, none, ⟨[], .eof⟩, false⟩ = .returns (c₂, s₂, .error e₂) ∧
      c₂.state = .connected ∧ c₂.awaitRemainingBytes = some 0 :=
  ⟨_, _, _, _, _, _, rfl, rfl, rfl, rfl⟩

end MongoDriver.Topology
