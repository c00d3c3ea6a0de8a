import MongoDriver.Topology.Basic

/-! # Compressor negotiation

At the end of a successful `connect`, a nested loop walks the client's compressors in order
and, inside, the server's; the first client compressor that the server also lists selects the
compressor, and a labelled `break` ends the search. The loop is a first match by client
preference.
-/

namespace MongoDriver.Topology

/-- What the selection uses from other packages: `strings.ToLower` and the default levels. -/
structure Library where
  toLower : String → String
  defaultZlibLevel : Int
  defaultZstdLevel : Int

variable (lib : Library)

/-- The `switch strings.ToLower(method)` of `connect`. -/
def applyCompressor (c : Connection) (method : String) : Connection :=
  match lib.toLower method with
  | "snappy" => { c with compressor := .snappy }
  | "zlib" =>
    { c with compressor := .zlib, zliblevel := c.config.zlibLevel.getD lib.defaultZlibLevel }
  | "zstd" =>
    { c with compressor := .zstd, zstdLevel := c.config.zstdLevel.getD lib.defaultZstdLevel }
  | _ => c

/-- The inner loop over the server's compressors; whether it reached the `switch`. -/
def serverMethodLoop (method : String) : List String → Bool
  | [] => false
  | serverMethod :: rest => if method ≠ serverMethod then serverMethodLoop method rest else true

/-- The loop labelled `clientMethodLoop`. -/
def clientMethodLoop (serverMethods : List String) (c : Connection) : List String → Connection
  | [] => c
  | method :: rest =>
    if serverMethodLoop method serverMethods then applyCompressor lib c method
    else clientMethodLoop serverMethods c rest

def selectCompressor (c : Connection) : Connection :=
  if c.desc.compression.length > 0 then
    clientMethodLoop lib c.desc.compression c c.config.compressors
  else c

@[simp] theorem serverMethodLoop_iff (method : String) (serverMethods : List String) :
    serverMethodLoop method serverMethods = true ↔ method ∈ serverMethods := by
  induction serverMethods with
  | nil => simp [serverMethodLoop]
  | cons s rest ih =>
    by_cases h : method = s <;> simp [serverMethodLoop, h, ih]

variable {lib}

theorem clientMethodLoop_of_none {S : List String} {c : Connection} :
    ∀ {C : List String}, (∀ m ∈ C, m ∉ S) → clientMethodLoop lib S c C = c
  | [], _ => rfl
  | m :: C, h => by
    have hm : serverMethodLoop m S = false := Bool.eq_false_iff.mpr fun h' =>
      h m (List.mem_cons_self m C) ((serverMethodLoop_iff m S).mp h')
    rw [clientMethodLoop, hm, if_neg Bool.false_ne_true]
    exact clientMethodLoop_of_none fun x hx => h x (List.mem_cons_of_mem m hx)

theorem clientMethodLoop_first {S : List String} {c : Connection} {m : String}
    {post : List String} (hm : m ∈ S) :
    ∀ {pre : List String}, (∀ x ∈ pre, x ∉ S) →
      clientMethodLoop lib S c (pre ++ m :: post) = applyCompressor lib c m
  | [], _ => by
    rw [List.nil_append, clientMethodLoop, if_pos ((serverMethodLoop_iff m S).mpr hm)]
  | x :: pre, h => by
    have hx : serverMethodLoop x S = false := Bool.eq_false_iff.mpr fun h' =>
      h x (List.mem_cons_self x pre) ((serverMethodLoop_iff x S).mp h')
    rw [List.cons_append, clientMethodLoop, hx, if_neg Bool.false_ne_true]
    exact clientMethodLoop_first hm fun y hy => h y (List.mem_cons_of_mem x hy)

theorem applyCompressor_eq (c : Connection) (m : String) :
    (lib.toLower m = "snappy" → applyCompressor lib c m = { c with compressor := .snappy }) ∧
    (lib.toLower m = "zlib" → applyCompressor lib c m =
      { c with compressor := .zlib, zliblevel := c.config.zlibLevel.getD lib.defaultZlibLevel }) ∧
    (lib.toLower m = "zstd" → applyCompressor lib c m =
      { c with compressor := .zstd, zstdLevel := c.config.zstdLevel.getD lib.defaultZstdLevel }) ∧
    (lib.toLower m ∉ ["snappy", "zlib", "zstd"] → applyCompressor lib c m = c) := by
  refine ⟨fun h => ?_, fun h => ?_, fun h => ?_, fun h => ?_⟩ <;> unfold applyCompressor <;>
    split <;> simp_all

/-- Compressor negotiation is first match by client preference, with the levels of the switch. -/
theorem selectCompressor_first_match (lib : Library) (c : Connection)
    (hS : c.desc.compression ≠ []) :
    ((∀ m ∈ c.config.compressors, m ∉ c.desc.compression) → selectCompressor lib c = c) ∧
    (∀ pre m post, c.config.compressors = pre ++ m :: post →
      (∀ x ∈ pre, x ∉ c.desc.compression) → m ∈ c.desc.compression →
      (lib.toLower m = "snappy" → selectCompressor lib c = { c with compressor := .snappy }) ∧
      (lib.toLower m = "zlib" → selectCompressor lib c =
        { c with compressor := .zlib, zliblevel := c.config.zlibLevel.getD lib.defaultZlibLevel }) ∧
      (lib.toLower m = "zstd" → selectCompressor lib c =
        { c with compressor := .zstd, zstdLevel := c.config.zstdLevel.getD lib.defaultZstdLevel }) ∧
      (lib.toLower m ∉ ["snappy", "zlib", "zstd"] → selectCompressor lib c = c)) := by
  have hpos : c.desc.compression.length > 0 := List.length_pos.mpr hS
  refine ⟨fun h => ?_, fun pre m post hC hpre hm => ?_⟩
  · rw [selectCompressor, if_pos hpos, clientMethodLoop_of_none h]
  · rw [selectCompressor, if_pos hpos, hC, clientMethodLoop_first hm hpre]
    exact applyCompressor_eq c m

theorem selectCompressor_first_match_witness :
    let lib₀ : Library := ⟨fun s => ⟨s.data.map Char.toLower⟩, 6, 6⟩
    let c₀ : Connection :=
      { state := .connected, id := "localhost:27017[-2]", nc := some (.raw "127.0.0.1:50000"),
        addr := "localhost:27017", desc := { compression := ["zlib", "snappy"] },
        compressor := .noOp, zliblevel := 0, zstdLevel := 0, connectDone := false,
        config := { compressors := ["zstd", "zlib", "snappy"], zlibLevel := some 9 },
        serverConnectionID := none, driverConnectionID := 0, generation := 0,
        awaitRemainingBytes := none }
    c₀.desc.compression ≠ [] ∧ (selectCompressor lib₀ c₀).compressor = .zlib ∧
      (selectCompressor lib₀ c₀).zliblevel = 9 := by
  intro lib₀ c₀
  have h := ((selectCompressor_first_match lib₀ c₀ (by decide)).2 ["zstd"] "zlib" ["snappy"] rfl
    (by decide) (by decide)).2.1 (by decide)
  rw [h]
  exact ⟨by decide, rfl, rfl⟩

end MongoDriver.Topology
