import MongoDriver.Topology.System

/-! # Progress of `connect`

`connect` waits for no other goroutine: from any point, it has returned, lost the
compare-and-swap or panicked within a fixed number of its own steps, whatever the other
goroutines do in between, 13 from its first point. The bound is the rank of a point, which
every step of the call lowers.
-/

namespace MongoDriver.Topology

/-- The most steps `connect` takes from a point before it has returned, lost or panicked. -/
def ConnectPc.rank : ConnectPc → Nat
  | .start => 13
  | .dial => 12
  | .dialed _ => 11
  | .tls => 10
  | .tlsConfigured _ => 9
  | .tlcp => 8
  | .tlcpConfigured _ => 7
  | .handshake => 6
  | .generation => 5
  | .finish => 4
  | .teardown _ => 3
  | .compress | .closeNc _ => 2
  | .done _ => 1
  | .returned _ | .lost | .panicked => 0

theorem ConnectPc.rank_eq_zero {pc : ConnectPc} :
    pc.rank = 0 ↔ (∃ r, pc = .returned r) ∨ pc = .lost ∨ pc = .panicked := by
  cases pc <;> simp [rank]

def Event.runs (i : Nat) : Event → Bool
  | .run j => j == i
  | .spawn _ => false

theorem connectStep_rank (lib : Library) (o : ConnectOutcomes) (c : Connection) (pc : ConnectPc) :
    (connectStep lib o c pc).2.1.rank ≤ pc.rank - 1 := by
  cases pc <;> simp only [connectStep] <;> (repeat' split) <;> exact Nat.le_of_ble_eq_true rfl

section Run

variable (lib : Library) {s : Sys} {i : Nat} {o : ConnectOutcomes} {pc : ConnectPc}

theorem Sys.step_rank (h : s.tasks[i]? = some (.connect o pc)) (e : Event) :
    ∃ pc', (s.step lib e).tasks[i]? = some (.connect o pc') ∧
      pc'.rank ≤ pc.rank - (if e.runs i then 1 else 0) ∧ (pc.won → pc'.won) := by
  cases e with
  | spawn op =>
    refine ⟨pc, ?_, by simp [Event.runs], id⟩
    simp only [Sys.step]
    rw [List.getElem?_append_left (List.getElem?_eq_some_iff.mp h).1, h]
  | run j =>
    by_cases hji : j = i
    · subst hji
      refine ⟨_, Sys.run_self lib h, ?_, connectStep_won⟩
      simpa [Event.runs] using connectStep_rank lib o s.conn pc
    · refine ⟨pc, ?_, by simp [Event.runs, hji], id⟩
      rcases hj : s.tasks[j]? with _ | t'
      · simpa only [Sys.step, hj] using h
      · rw [Sys.run_other lib hj (Ne.symm hji), h]

theorem Sys.run_rank (h : s.tasks[i]? = some (.connect o pc)) (evs : List Event) :
    ∃ pc', (s.run lib evs).tasks[i]? = some (.connect o pc') ∧
      pc'.rank ≤ pc.rank - evs.countP (Event.runs i) ∧ (pc.won → pc'.won) := by
  induction evs generalizing s pc with
  | nil => exact ⟨pc, h, by simp, id⟩
  | cons e evs ih =>
    obtain ⟨pc₁, h₁, hr₁, hw₁⟩ := Sys.step_rank lib h e
    obtain ⟨pc', h', hr', hw'⟩ := ih h₁
    refine ⟨pc', h', ?_, hw'.comp hw₁⟩
    rw [List.countP_cons]
    by_cases he : e.runs i <;> simp only [he, if_true, if_false, Bool.false_eq_true] at hr₁ ⊢ <;>
      omega

end Run

end MongoDriver.Topology
