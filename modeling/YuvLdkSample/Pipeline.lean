import YuvLdkSample.Consolidation
import YuvLdkSample.SweepBatch

/-!
# The sweep pipeline as a transition system

`periodic_sweep` (sweep.rs:34-183) runs forever, one tick every five seconds, while the
LDK event handler deposits spendable-output descriptors into the intake (main.rs:521-537).
Each file-system call of a tick is one transition here, so a crash can fall between any
two of them, and deposits interleave with all of them. A crash discards everything held
in memory and restarts the loop at its top; the disk stays as the crash left it.

`FilesystemStore::write` puts a temporary file next to its target and renames it once
complete, so a crash while a claim batch is written may leave that file with any prefix of
the batch. The intake loop skips such a name by its length, but the sweep opens every file of
the claim queue, and a prefix cut inside a record fails to decode: `Readable::read(..).unwrap()`
panics (`torn_batch_decode_panics`). The random keys of deposits and claim batches are taken fresh. Two histories
record what the run has observed: every completed deposit, and every claim-batch file
whose sweep passed its descriptors to `spend_yuv_spendable_outputs`.
-/

namespace YuvLdkSample

/-- Where `periodic_sweep` is in its loop. This is in-memory state, lost on a crash. -/
inductive Pc (α : Type)
  /-- The top of the loop, at `interval.tick()`. -/
  | top
  /-- The intake loop, with the listed intake names still to visit. -/
  | intake (remaining : List FileName)
  /-- `persister.write` of a claim batch: its temporary file is being written. -/
  | writeTmp (key : FileName) (counter : Nat) (outputs : List α)
  /-- The temporary file is complete and is renamed onto `key`. -/
  | renameTmp (key : FileName) (counter : Nat) (outputs : List α)
  /-- `fs::remove_dir_all(processing)` after the batch `key` was committed. -/
  | clearStaging (key : FileName) (outputs : List α)
  /-- `fs::read_dir(spendables)` of the sweep phase. -/
  | sweepStart
  /-- The sweep loop, with the listed claim-queue names still to sweep. -/
  | sweep (remaining : List FileName)
  /-- `fs::remove_dir_all(spendables)` after the sweep loop. -/
  | clearQueue
  /-- The sweep task panicked on an `unwrap`; only a restart moves it. -/
  | panicked
deriving DecidableEq

/-- The state of the pipeline: the disk, the sweep task's position, and two histories. -/
structure Pipeline (α : Type) where
  disk : Disk α
  pc : Pc α
  /-- Every completed deposit, its key and its stored contents, in order. -/
  deposited : List (FileName × List α)
  /-- The contents of every claim-queue file whose sweep asked `spend_yuv_spendable_outputs`
  to spend its descriptors. -/
  handed : List (List α)

/-- A fresh node: no directory exists yet and the task is at the top of its loop. -/
def Pipeline.initial (α : Type) : Pipeline α := ⟨⟨none, none, none⟩, .top, [], []⟩

/-- What the sweep task is started with (main.rs:1210-1219): the descriptor codec, the YUV
client when a URL was given, and the wallet. `Tx` is the type of the transactions the
signer returns. -/
structure SweepConfig (Descriptor Key Tx : Type) where
  codec : SelfFramingCodec Descriptor
  yuvClient : Option YuvClient
  wallet : Wallet Key

/-- One transition, with the choices the environment makes for it. -/
inductive Action (Descriptor Key Tx : Type)
  /-- The event handler stores a descriptor under `hex_str` of 32 random bytes. -/
  | deposit (random : Bytes) (descriptor : Descriptor)
  /-- A crash during a deposit leaves its temporary file with a prefix of the encoding. -/
  | tornDeposit (random : Bytes) (counter written : Nat) (descriptor : Descriptor)
  /-- `interval.tick()` and `fs::read_dir(pending)`, listing the intake in `listing`. -/
  | tick (listing : List FileName)
  /-- One iteration of the intake loop. -/
  | moveNext
  /-- `fs::read_dir(processing)` in `listing`, every file read; a non-empty result is
  to be written under `hex_str` of 32 random bytes with temporary-file counter `counter`. -/
  | gather (listing : List FileName) (random : Bytes) (counter : Nat)
  /-- The temporary file of the claim batch is written completely. -/
  | writeTmp
  /-- The temporary file is renamed onto the batch's key. -/
  | renameTmp
  /-- `remove_dir_all(processing)` unlinks one staged file. -/
  | unlinkStaged (name : FileName)
  /-- `remove_dir_all(processing)` removes the emptied directory. -/
  | rmdirStaging
  /-- `fs::read_dir(spendables)`, listing the claim queue in `listing`. -/
  | sweepStart (listing : List FileName)
  /-- The sweep of the next listed claim-queue file, with the outside world's answers. -/
  | sweepNext (env : SweepEnv Key Tx)
  /-- `remove_dir_all(spendables)` unlinks one claim-queue file. -/
  | unlinkQueued (name : FileName)
  /-- `remove_dir_all(spendables)` removes the emptied directory. -/
  | rmdirQueue
  /-- The process crashes and the loop restarts at its top. -/
  | crash
  /-- The process crashes while the claim batch's temporary file is written, leaving
  its first `written` elements. -/
  | tornCrash (written : Nat)

variable {α Descriptor Key Tx : Type} [DecidableEq α] [StoredByte α]

namespace Pipeline

/-- The stored form of a descriptor written by the `deposit`-th deposit. -/
def stored (codec : SelfFramingCodec Descriptor) (deposit : Nat) (descriptor : Descriptor) :
    List α :=
  (codec.encode descriptor).map (StoredByte.mark deposit)

/-- main.rs:531-536: `fs_store.write(PENDING_SPENDABLE_OUTPUT_DIR, "", &key, &output.encode())`
under a key nobody has used. -/
def deposit (config : SweepConfig Descriptor Key Tx) (s : Pipeline α) (random : Bytes)
    (descriptor : Descriptor) : Option (Pipeline α) :=
  let key := hexStr random
  if random.length = 32 ∧ entry s.disk.pending key = none ∧ entry s.disk.processing key = none then
    let content := stored config.codec s.deposited.length descriptor
    some { s with
      disk := { s.disk with pending := writeEntry s.disk.pending key content }
      deposited := s.deposited ++ [(key, content)] }
  else none

/-- A deposit's temporary file left by a crash, holding a prefix of the encoding. -/
def tornDeposit (config : SweepConfig Descriptor Key Tx) (s : Pipeline α) (random : Bytes)
    (counter written : Nat) (descriptor : Descriptor) : Option (Pipeline α) :=
  if random.length = 32 then
    some { s with disk := { s.disk with
      pending := writeEntry s.disk.pending (tmpFileName (hexStr random) counter)
        ((stored config.codec s.deposited.length descriptor).take written) } }
  else none

/-- sweep.rs:59-60: the tick; a missing intake skips the consolidation. -/
def tick (s : Pipeline α) (listing : List FileName) : Option (Pipeline α) :=
  match s.pc, s.disk.pending with
  | .top, none => if listing = [] then some { s with pc := .sweepStart } else none
  | .top, some pending => if Lists pending listing then some { s with pc := .intake listing } else none
  | _, _ => none

/-- sweep.rs:63-74: one listed intake name, moved if it is 64 bytes long. -/
def moveNext (s : Pipeline α) : Option (Pipeline α) :=
  match s.pc with
  | .intake (name :: rest) =>
    if hasKeyLength name then
      match moveToProcessing s.disk name with
      | some disk => some { s with disk, pc := .intake rest }
      | none => some { s with pc := .panicked }
    else some { s with pc := .intake rest }
  | _ => none

/-- sweep.rs:77-84: read staging; a non-empty result goes to a fresh key, an empty one
skips to the sweep phase. -/
def gather (s : Pipeline α) (listing : List FileName) (random : Bytes) (counter : Nat) :
    Option (Pipeline α) :=
  match s.pc with
  | .intake [] =>
    if ListsOpt s.disk.processing listing ∧ random.length = 32 ∧
        entry s.disk.spendables (hexStr random) = none then
      let outputs := stagedOutputs s.disk.processing listing
      if outputs.isEmpty then some { s with pc := .sweepStart }
      else some { s with pc := .writeTmp (hexStr random) counter (withoutLength outputs) }
    else none
  | _ => none

/-- `FilesystemStore::write`, first half: the complete temporary file. -/
def writeTmp (s : Pipeline α) : Option (Pipeline α) :=
  match s.pc with
  | .writeTmp key counter outputs =>
    some { s with
      disk := { s.disk with
        spendables := writeEntry s.disk.spendables (tmpFileName key counter) outputs }
      pc := .renameTmp key counter outputs }
  | _ => none

/-- `FilesystemStore::write`, second half: `rename` of the temporary file onto the key. -/
def renameTmp (s : Pipeline α) : Option (Pipeline α) :=
  match s.pc with
  | .renameTmp key counter _ =>
    match entry s.disk.spendables (tmpFileName key counter) with
    | some content =>
      some { s with
        disk := { s.disk with
          spendables := writeEntry (removeEntry s.disk.spendables (tmpFileName key counter))
            key content }
        pc := .clearStaging key content }
    | none => some { s with pc := .panicked }
  | _ => none

/-- `remove_dir_all(processing)` unlinks one of its files. -/
def unlinkStaged (s : Pipeline α) (name : FileName) : Option (Pipeline α) :=
  match s.pc with
  | .clearStaging _ _ =>
    if (entry s.disk.processing name).isSome then
      some { s with disk := { s.disk with processing := removeEntry s.disk.processing name } }
    else none
  | _ => none

/-- `remove_dir_all(processing)` removes the emptied directory; a missing one panics. -/
def rmdirStaging (s : Pipeline α) : Option (Pipeline α) :=
  match s.pc, s.disk.processing with
  | .clearStaging _ _, some staged =>
    if staged.keys = [] then
      some { s with disk := { s.disk with processing := none }, pc := .sweepStart }
    else none
  | .clearStaging _ _, none => some { s with pc := .panicked }
  | _, _ => none

/-- sweep.rs:98: a missing claim queue ends the tick. -/
def sweepStart (s : Pipeline α) (listing : List FileName) : Option (Pipeline α) :=
  match s.pc, s.disk.spendables with
  | .sweepStart, none => if listing = [] then some { s with pc := .top } else none
  | .sweepStart, some queue =>
    if Lists queue listing then some { s with pc := .sweep listing } else none
  | _, _ => none

/-- sweep.rs:99-177: open the next listed file and sweep it. A file whose sweep asked the
signer to spend its descriptors is recorded as handed over; a panic of the batch sweep stops
the task. -/
def sweepNext (config : SweepConfig Descriptor Key Tx) (s : Pipeline α) (env : SweepEnv Key Tx) :
    Option (Pipeline α) :=
  match s.pc with
  | .sweep (name :: rest) =>
    match entry s.disk.spendables name with
    | none => some { s with pc := .panicked }
    | some content =>
      match sweepBatch config.codec config.yuvClient config.wallet env (content.map StoredByte.byte) with
      | .ok effects =>
        some { s with
          pc := .sweep rest
          handed := if effects.any SweepEffect.isSpend then s.handed ++ [content] else s.handed }
      | .error _ => some { s with pc := .panicked }
  | .sweep [] => some { s with pc := .clearQueue }
  | _ => none

/-- `remove_dir_all(spendables)` unlinks one of its files. -/
def unlinkQueued (s : Pipeline α) (name : FileName) : Option (Pipeline α) :=
  match s.pc with
  | .clearQueue =>
    if (entry s.disk.spendables name).isSome then
      some { s with disk := { s.disk with spendables := removeEntry s.disk.spendables name } }
    else none
  | _ => none

/-- `remove_dir_all(spendables)` removes the emptied directory and the tick ends. -/
def rmdirQueue (s : Pipeline α) : Option (Pipeline α) :=
  match s.pc, s.disk.spendables with
  | .clearQueue, some queue =>
    if queue.keys = [] then
      some { s with disk := { s.disk with spendables := none }, pc := .top }
    else none
  | .clearQueue, none => some { s with pc := .panicked }
  | _, _ => none

/-- A crash while the claim batch's temporary file is written. -/
def tornCrash (s : Pipeline α) (written : Nat) : Option (Pipeline α) :=
  match s.pc with
  | .writeTmp key counter outputs =>
    some { s with
      disk := { s.disk with
        spendables := writeEntry s.disk.spendables (tmpFileName key counter)
          (outputs.take written) }
      pc := .top }
  | _ => none

/-- One transition of the pipeline. -/
def step (config : SweepConfig Descriptor Key Tx) (s : Pipeline α) :
    Action Descriptor Key Tx → Option (Pipeline α)
  | .deposit random descriptor => s.deposit config random descriptor
  | .tornDeposit random counter written descriptor =>
    s.tornDeposit config random counter written descriptor
  | .tick listing => s.tick listing
  | .moveNext => s.moveNext
  | .gather listing random counter => s.gather listing random counter
  | .writeTmp => s.writeTmp
  | .renameTmp => s.renameTmp
  | .unlinkStaged name => s.unlinkStaged name
  | .rmdirStaging => s.rmdirStaging
  | .sweepStart listing => s.sweepStart listing
  | .sweepNext env => s.sweepNext config env
  | .unlinkQueued name => s.unlinkQueued name
  | .rmdirQueue => s.rmdirQueue
  | .crash => some { s with pc := .top }
  | .tornCrash written => s.tornCrash written

end Pipeline

/-- The states a run of the pipeline reaches from a fresh node, under any interleaving
of deposits and tick steps and any crashes. -/
inductive Reachable (config : SweepConfig Descriptor Key Tx) : Pipeline α → Prop
  | initial : Reachable config (Pipeline.initial α)
  | step {s s' : Pipeline α} (action : Action Descriptor Key Tx) :
      Reachable config s → s.step config action = some s' → Reachable config s'

/-- Take a list of transitions in order, stopping at the first that cannot be taken. -/
def Pipeline.run (config : SweepConfig Descriptor Key Tx) :
    Pipeline α → List (Action Descriptor Key Tx) → Option (Pipeline α)
  | s, [] => some s
  | s, action :: rest => (s.step config action).bind (Pipeline.run config · rest)

/-- A run of transitions from a reachable state ends in a reachable state. -/
theorem reachable_run (config : SweepConfig Descriptor Key Tx)
    (actions : List (Action Descriptor Key Tx)) {s s' : Pipeline α} (reachable : Reachable config s)
    (ran : s.run config actions = some s') : Reachable config s' := by
  induction actions generalizing s with
  | nil =>
    simp only [Pipeline.run, Option.some.injEq] at ran
    exact ran ▸ reachable
  | cons action rest inductionHypothesis =>
    simp only [Pipeline.run] at ran
    cases stepped : s.step config action with
    | none => simp [stepped] at ran
    | some next =>
      simp only [stepped, Option.bind_some] at ran
      exact inductionHypothesis (Reachable.step action reachable stepped) ran

/-- A deployment with the length-prefixed codec, no YUV client and a unit wallet key. -/
def sampleConfig : SweepConfig FramedDescriptor Unit Nat := ⟨framedCodec, none, ⟨()⟩⟩

/-- A descriptor with a three-byte body. -/
def sampleDescriptor : FramedDescriptor := ⟨0, [1, 2, 3], by decide⟩

/-- The 64-digit key `hex_str` makes of 32 equal random bytes. -/
abbrev keyOf (byte : UInt8) : FileName := hexStr (List.replicate 32 byte)

/-- One deposit, a tick that crashes one byte into the batch's temporary file, and a
tick that commits staging and lists the claim queue with the torn file first. -/
def tornBatchRun : List (Action FramedDescriptor Unit Nat) :=
  [.deposit (List.replicate 32 0xa1) sampleDescriptor, .tick [keyOf 0xa1], .moveNext,
    .gather [keyOf 0xa1] (List.replicate 32 0x5e) 0, .tornCrash 1,
    .tick [], .gather [keyOf 0xa1] (List.replicate 32 0x77) 0, .writeTmp, .renameTmp,
    .unlinkStaged (keyOf 0xa1), .rmdirStaging, .sweepStart [tmpFileName (keyOf 0x5e) 0, keyOf 0x77]]

/-- The sweep opens a partial claim batch. After `tornBatchRun` the task is about to sweep
the torn temporary file, which holds one byte of the batch and does not decode, and that
sweep panics whatever the signer and the YUV node would answer. -/
theorem torn_batch_decode_panics :
    ∃ s : Pipeline UInt8, Reachable sampleConfig s ∧
      s.pc = .sweep [tmpFileName (keyOf 0x5e) 0, keyOf 0x77] ∧
      entry s.disk.spendables (tmpFileName (keyOf 0x5e) 0) = some [0] ∧
      readDescriptors framedCodec [0] = none ∧
      ∀ env : SweepEnv Unit Nat, (s.step sampleConfig (.sweepNext env)).map Pipeline.pc =
        some .panicked := by
  obtain ⟨s, ran⟩ : ∃ s, (Pipeline.initial UInt8).run sampleConfig tornBatchRun = some s :=
    ⟨_, rfl⟩
  refine ⟨s, reachable_run sampleConfig tornBatchRun .initial ran, ?_⟩
  cases ran
  exact ⟨rfl, rfl, rfl, fun env => rfl⟩

end YuvLdkSample
