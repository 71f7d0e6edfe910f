import Mathlib.Data.List.Basic

/-!
# The node's key seed across restarts

`start_ldk` derives every key of the node, its node id included, from the 32 bytes of
`<ldk_data_dir>/keys_seed`. A start reads the file with `fs::read`. When the read succeeds it
asserts that the file holds 32 bytes and uses them. When the read fails, for whatever reason,
it draws 32 fresh random bytes, creates the file with `File::create` (which truncates a file
that is there), writes the bytes with `write_all` and flushes them with `sync_all`; a failure
of either is an `expect` panic, and a failure of `File::create` ends `start_ldk`.

A run is a sequence of starts, each of which may be cut by a crash; a crash inside the
creation leaves the file with the bytes written so far. Only a start whose read fails changes
the file or goes on with a seed the file did not hold. So in every run, once a start has used a
seed, each following start whose read succeeds uses the same seed, up to the first start whose
read fails and draws a fresh one (`keysSeed_identity_stable`). A crash or a failed write that
leaves fewer than 32 bytes makes each following start whose read succeeds panic at the
assertion, up to a start whose read fails (`keysSeed_torn_bricks`): in practice the node cannot
start again until the file is removed by hand.
-/

namespace YuvLdkSample

/-- The 32 bytes of a key seed (`[u8; 32]`). -/
structure KeysSeed where
  bytes : List UInt8
  length_eq : bytes.length = 32
  deriving DecidableEq

/-- How the creation of the file ends, once `File::create` has succeeded. -/
inductive SeedCreation
  /-- `write_all` and `sync_all` succeed. -/
  | completes
  /-- The process dies with the first `written` bytes of the seed in the file. -/
  | crashes (written : Nat)
  /-- `write_all` fails after `written` bytes: "Failed to write node keys seed to disk". -/
  | writeFails (written : Nat)
  /-- `sync_all` fails after the whole seed is written: "Failed to sync node keys seed to disk". -/
  | syncFails
  deriving DecidableEq

/-- What one start draws and what its file system calls answer. -/
structure SeedStart where
  /-- The bytes `thread_rng().fill_bytes` draws. -/
  random : KeysSeed
  /-- `fs::read` fails although the file is there (a permission or an I/O error). -/
  readFails : Bool
  createFails : Bool
  creation : SeedCreation

/-- How the key-seed step of a start ends. -/
inductive SeedOutcome
  /-- The start goes on with this seed (`KeysManager::new(&keys_seed, ..)`). -/
  | started (seed : KeysSeed)
  /-- `assert_eq!(seed.len(), 32)` panics on a file of this length. -/
  | lengthMismatch (length : Nat)
  /-- One of the two `expect`s of the creation panics. -/
  | writePanic
  | syncPanic
  /-- `File::create` fails: the error is printed and `start_ldk` returns. -/
  | returned
  | crashed
  deriving DecidableEq

/-- The file `keys_seed`: its bytes, or `none` when it is not there. -/
abbrev SeedFile := Option (List UInt8)

/-- `fs::read(keys_seed_path)`: the file's bytes, or an error when it is missing or the read
fails. -/
def readSeedFile (file : SeedFile) (readFails : Bool) : Option (List UInt8) :=
  if readFails then none else file

/-- The key-seed step of `start_ldk` (main.rs 690-710): its outcome and the file it leaves. -/
def loadKeysSeed (file : SeedFile) (start : SeedStart) : SeedOutcome × SeedFile :=
  match readSeedFile file start.readFails with
  | some seed =>
    if length : seed.length = 32 then (.started ⟨seed, length⟩, file)
    else (.lengthMismatch seed.length, file)
  | none =>
    if start.createFails then (.returned, file)
    else
      match start.creation with
      | .completes => (.started start.random, some start.random.bytes)
      | .crashes written => (.crashed, some (start.random.bytes.take written))
      | .writeFails written => (.writePanic, some (start.random.bytes.take written))
      | .syncFails => (.syncPanic, some start.random.bytes)

/-- A run of starts from a file: the outcome of each start, and the file at the end. -/
def keysSeedRun (file : SeedFile) : List SeedStart → List SeedOutcome × SeedFile
  | [] => ([], file)
  | start :: later =>
    let (outcomes, last) := keysSeedRun (loadKeysSeed file start).2 later
    ((loadKeysSeed file start).1 :: outcomes, last)

@[simp] theorem keysSeedRun_cons (file : SeedFile) (start : SeedStart) (later : List SeedStart) :
    keysSeedRun file (start :: later) =
      ((loadKeysSeed file start).1 :: (keysSeedRun (loadKeysSeed file start).2 later).1,
        (keysSeedRun (loadKeysSeed file start).2 later).2) := rfl

/-- A run of two lists of starts is the run of the first, then of the second from the file the
first leaves. -/
theorem keysSeedRun_append (file : SeedFile) (first second : List SeedStart) :
    keysSeedRun file (first ++ second) =
      ((keysSeedRun file first).1 ++ (keysSeedRun (keysSeedRun file first).2 second).1,
        (keysSeedRun (keysSeedRun file first).2 second).2) := by
  induction first generalizing file with
  | nil => rfl
  | cons start more inductionHypothesis => simp [inductionHypothesis]

/-- `fs::read` succeeds only on a file that is there, and returns its bytes. -/
theorem readSeedFile_some {file : SeedFile} {readFails : Bool} {bytes : List UInt8}
    (read : readSeedFile file readFails = some bytes) : file = some bytes := by
  cases readFails <;> simp_all [readSeedFile]

/-- A start that goes on with a seed leaves exactly that seed in the file. -/
theorem loadKeysSeed_started {file : SeedFile} {start : SeedStart} {seed : KeysSeed}
    (used : (loadKeysSeed file start).1 = .started seed) :
    (loadKeysSeed file start).2 = some seed.bytes := by
  obtain ⟨random, readFails, createFails, creation⟩ := start
  unfold loadKeysSeed at used ⊢
  rcases read : readSeedFile file readFails with _ | bytes <;> simp only [read] at used ⊢
  · cases createFails <;> cases creation <;> simp_all
  · by_cases length : bytes.length = 32 <;> simp only [length, dif_pos, dif_neg] at used ⊢
    · cases used
      exact readSeedFile_some read
    · cases used

/-- Only a start whose `fs::read` fails changes the file or goes on with a seed the file did not
hold: a start whose read succeeds takes the reading branch, which writes nothing. -/
theorem loadKeysSeed_fresh_of_failed_read {file : SeedFile} {start : SeedStart}
    (changed : (loadKeysSeed file start).2 ≠ file ∨
      ∃ fresh, (loadKeysSeed file start).1 = .started fresh ∧ file ≠ some fresh.bytes) :
    readSeedFile file start.readFails = none := by
  rcases read : readSeedFile file start.readFails with _ | bytes
  · rfl
  · have kept : loadKeysSeed file start = if length : bytes.length = 32 then
        (.started ⟨bytes, length⟩, file) else (.lengthMismatch bytes.length, file) := by
      rw [loadKeysSeed, read]
    have present := readSeedFile_some read
    exfalso
    rcases changed with changed | ⟨fresh, used, other⟩
    · split_ifs at kept <;> rw [kept] at changed <;> exact changed rfl
    · split_ifs at kept <;> rw [kept] at used <;> cases used
      exact other present

/-- A start whose read succeeds on a file of 32 bytes uses them and leaves the file alone. -/
theorem loadKeysSeed_of_seed (seed : KeysSeed) {start : SeedStart} (reads : start.readFails = false) :
    loadKeysSeed (some seed.bytes) start = (.started seed, some seed.bytes) := by
  simp [loadKeysSeed, readSeedFile, reads, seed.length_eq]

/-- A start whose read succeeds on a file of another length panics at the assertion and
leaves the file alone. -/
theorem loadKeysSeed_of_short {bytes : List UInt8} (short : bytes.length ≠ 32) {start : SeedStart}
    (reads : start.readFails = false) :
    loadKeysSeed (some bytes) start = (.lengthMismatch bytes.length, some bytes) := by
  simp [loadKeysSeed, readSeedFile, reads, short]

/-- From a file holding a seed, a run of starts whose reads succeed uses that seed every time. -/
theorem keysSeedRun_of_seed (seed : KeysSeed) :
    ∀ later : List SeedStart, (∀ start ∈ later, start.readFails = false) →
      keysSeedRun (some seed.bytes) later = (later.map fun _ => .started seed, some seed.bytes)
  | [], _ => rfl
  | start :: later, reads => by
    have rest := keysSeedRun_of_seed seed later fun other mem => reads other (.tail _ mem)
    simp [loadKeysSeed_of_seed seed (reads start (.head _)), rest]

/-- From a file of another length, a run of starts whose reads succeed panics every time. -/
theorem keysSeedRun_of_short {bytes : List UInt8} (short : bytes.length ≠ 32) :
    ∀ later : List SeedStart, (∀ start ∈ later, start.readFails = false) →
      keysSeedRun (some bytes) later = (later.map fun _ => .lengthMismatch bytes.length, some bytes)
  | [], _ => rfl
  | start :: later, reads => by
    have rest := keysSeedRun_of_short short later fun other mem => reads other (.tail _ mem)
    simp [loadKeysSeed_of_short short (reads start (.head _)), rest]

/-- The node's identity never changes behind a successful read. In every run of starts, when a
start goes on with a seed, each of the following starts whose `fs::read` succeeds goes on with
the same seed, and the file keeps it, up to the first start whose read fails; the run goes on
from a file holding the seed. Only a start whose read fails changes the file or goes on with a
seed the file did not hold, that is draws a fresh one.

Proof: the start that used the seed leaves it in the file (`loadKeysSeed_started`); from a
file holding a seed every start whose read succeeds takes the reading branch and leaves the file
alone (`keysSeedRun_of_seed`); the reading branch writes nothing
(`loadKeysSeed_fresh_of_failed_read`). -/
theorem keysSeed_identity_stable (file : SeedFile) (earlier : List SeedStart) (start : SeedStart)
    (seed : KeysSeed) (between later : List SeedStart)
    (used : (loadKeysSeed (keysSeedRun file earlier).2 start).1 = .started seed)
    (readsBetween : ∀ other ∈ between, other.readFails = false) :
    keysSeedRun file (earlier ++ start :: between ++ later) =
      ((keysSeedRun file earlier).1 ++ .started seed :: between.map (fun _ => .started seed) ++
        (keysSeedRun (some seed.bytes) later).1, (keysSeedRun (some seed.bytes) later).2) ∧
    ∀ (current : SeedFile) (next : SeedStart),
      ((loadKeysSeed current next).2 ≠ current ∨
        ∃ fresh, (loadKeysSeed current next).1 = .started fresh ∧ current ≠ some fresh.bytes) →
      readSeedFile current next.readFails = none := by
  refine ⟨?_, fun _ _ changed => loadKeysSeed_fresh_of_failed_read changed⟩
  rw [keysSeedRun_append, keysSeedRun_append, keysSeedRun_cons, used, loadKeysSeed_started used,
    keysSeedRun_of_seed seed between readsBetween]

/-- A sample seed: 32 copies of one byte. -/
def sampleSeed (byte : UInt8) : KeysSeed := ⟨List.replicate 32 byte, List.length_replicate 32 byte⟩

/-- The first start of a fresh node creates its seed and the next start reads it back; a third
start whose read fails draws a fresh seed, which the fourth reads back. -/
theorem fresh_node_keeps_seed :
    (loadKeysSeed (keysSeedRun none []).2 ⟨sampleSeed 7, false, false, .completes⟩).1 =
        .started (sampleSeed 7) ∧
      (∀ other ∈ [⟨sampleSeed 9, false, false, .completes⟩], SeedStart.readFails other = false) ∧
      keysSeedRun none ([] ++ ⟨sampleSeed 7, false, false, .completes⟩ ::
          [⟨sampleSeed 9, false, false, .completes⟩] ++
          [⟨sampleSeed 8, true, false, .completes⟩, ⟨sampleSeed 6, false, false, .completes⟩]) =
        ([.started (sampleSeed 7), .started (sampleSeed 7), .started (sampleSeed 8),
          .started (sampleSeed 8)], some (sampleSeed 8).bytes) := by
  refine ⟨rfl, by decide, ?_⟩
  rw [(keysSeed_identity_stable none [] ⟨sampleSeed 7, false, false, .completes⟩ (sampleSeed 7)
    [⟨sampleSeed 9, false, false, .completes⟩]
    [⟨sampleSeed 8, true, false, .completes⟩, ⟨sampleSeed 6, false, false, .completes⟩] rfl
    (by decide)).1]
  rfl

/-- A crash or a failed write inside the creation of the file bricks the node. In every run of
starts, when a start takes the creation branch (its read fails, `File::create` succeeds) and the
process dies, or `write_all` fails, with fewer than 32 bytes written, each of the following
starts whose `fs::read` succeeds panics at `assert_eq!(seed.len(), 32)`, and the file keeps the
torn prefix, up to the first start whose read fails; the run goes on from the torn file.

Proof: the torn creation leaves the first `written` bytes of the drawn seed, fewer than 32;
from such a file every start whose read succeeds takes the reading branch and fails the
assertion (`keysSeedRun_of_short`). -/
theorem keysSeed_torn_bricks (file : SeedFile) (earlier : List SeedStart) (start : SeedStart)
    (written : Nat) (creating : readSeedFile (keysSeedRun file earlier).2 start.readFails = none)
    (createSucceeds : start.createFails = false)
    (torn : start.creation = .crashes written ∨ start.creation = .writeFails written)
    (fewer : written < 32) (between later : List SeedStart)
    (readsBetween : ∀ other ∈ between, other.readFails = false) :
    keysSeedRun file (earlier ++ start :: between ++ later) =
      ((keysSeedRun file earlier).1 ++ (loadKeysSeed (keysSeedRun file earlier).2 start).1 ::
          between.map (fun _ => .lengthMismatch written) ++
          (keysSeedRun (some (start.random.bytes.take written)) later).1,
        (keysSeedRun (some (start.random.bytes.take written)) later).2) := by
  have left : (loadKeysSeed (keysSeedRun file earlier).2 start).2 =
      some (start.random.bytes.take written) := by
    rcases torn with torn | torn <;> simp [loadKeysSeed, creating, createSucceeds, torn]
  have length : (start.random.bytes.take written).length = written := by
    simp [start.random.length_eq]; omega
  have short : (start.random.bytes.take written).length ≠ 32 := by omega
  rw [keysSeedRun_append, keysSeedRun_append, keysSeedRun_cons, left,
    keysSeedRun_of_short short between readsBetween, length]

/-- A fresh node that crashes after writing 5 bytes of its seed panics at the next start, and
starts again only after a start whose read fails. -/
theorem crash_while_creating_bricks :
    readSeedFile (keysSeedRun none []).2 false = none ∧
      (⟨sampleSeed 7, false, false, .crashes 5⟩ : SeedStart).createFails = false ∧
      (∀ other ∈ [⟨sampleSeed 9, false, false, .completes⟩], SeedStart.readFails other = false) ∧
      keysSeedRun none ([] ++ ⟨sampleSeed 7, false, false, .crashes 5⟩ ::
          [⟨sampleSeed 9, false, false, .completes⟩] ++ [⟨sampleSeed 8, true, false, .completes⟩]) =
        ([.crashed, .lengthMismatch 5, .started (sampleSeed 8)], some (sampleSeed 8).bytes) := by
  refine ⟨rfl, rfl, by decide, ?_⟩
  rw [keysSeed_torn_bricks none [] ⟨sampleSeed 7, false, false, .crashes 5⟩ 5 rfl rfl (.inl rfl)
    (by decide) [⟨sampleSeed 9, false, false, .completes⟩] [⟨sampleSeed 8, true, false, .completes⟩]
    (by decide)]
  rfl

end YuvLdkSample
