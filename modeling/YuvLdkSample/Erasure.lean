import YuvLdkSample.Provenance

/-!
# The provenance view runs the code's own steps

Dropping the deposit numbers from every stored byte turns a state of the provenance view into
a state of the code's view, and every transition commutes with this erasure: the code's
transitions read only the bytes. Every state a run of the code reaches is therefore the
erasure of the state the same transitions reach in the provenance view (`calmRun_untag`),
and the statement about deposits in claim batches applies to the code's runs
(`claim_batches_disjoint`).

The window cannot be left out. A crash after the claim batch is committed and before staging
is removed leaves the staged files in place; the next tick gathers them again and commits a
second batch, so one deposit is the whole content of two claim-queue files and is handed to
the signer twice (`consolidation_not_idempotent_under_crash`).
-/

namespace YuvLdkSample

variable {Descriptor Key Tx : Type}

/-- The bytes of a stored file, with the provenance dropped. -/
def untag (content : List Tagged) : List UInt8 := content.map Prod.snd

/-- A directory of the provenance view with the provenance dropped. -/
def untagEntries (dir : Dir Tagged) : Dir UInt8 :=
  ⟨dir.entries.map fun file => ⟨file.1, untag file.2⟩, by
    simpa only [List.NodupKeys, List.keys, List.map_map, Function.comp_def] using dir.nodupKeys⟩

/-- A directory that may not exist, with the provenance dropped. -/
def untagDir (dir : Option (Dir Tagged)) : Option (Dir UInt8) := dir.map untagEntries

/-- Dropping the provenance keeps a directory's names. -/
@[simp] theorem keys_untagEntries (dir : Dir Tagged) : (untagEntries dir).keys = dir.keys := by
  simp only [untagEntries, AList.keys, List.keys, List.map_map, Function.comp_def]

/-- A name's file without provenance is its file with the provenance dropped. -/
theorem lookup_untagEntries (dir : Dir Tagged) (name : FileName) :
    (untagEntries dir).lookup name = (dir.lookup name).map untag := by
  exact @List.dlookup_map₂ FileName _ (fun _ => List Tagged) (fun _ => List UInt8) dir.entries
    (fun _ => untag) name

/-- Writing a file commutes with dropping the provenance. -/
theorem untagEntries_insert (dir : Dir Tagged) (name : FileName) (content : List Tagged) :
    untagEntries (dir.insert name content) = (untagEntries dir).insert name (untag content) := by
  apply AList.ext
  simp only [untagEntries, AList.insert_entries, List.map_cons, List.kerase, List.eraseP_map,
    Function.comp_def]

/-- The entries of a directory after an unlink. -/
theorem entries_erase {β : Type} (dir : AList fun _ : FileName => β) (name : FileName) :
    (dir.erase name).entries = dir.entries.kerase name := rfl

/-- Unlinking a file commutes with dropping the provenance. -/
theorem untagEntries_erase (dir : Dir Tagged) (name : FileName) :
    untagEntries (dir.erase name) = (untagEntries dir).erase name := by
  apply AList.ext
  simp only [untagEntries, entries_erase, List.kerase, List.eraseP_map, Function.comp_def]

/-- Reading a file commutes with dropping the provenance. -/
@[simp] theorem entry_untagDir (dir : Option (Dir Tagged)) (name : FileName) :
    entry (untagDir dir) name = (entry dir name).map untag := by
  cases dir with
  | none => rfl
  | some present => exact lookup_untagEntries present name

/-- Writing a file through `fs::write` commutes with dropping the provenance, also into a
missing directory. -/
@[simp] theorem untagDir_writeEntry (dir : Option (Dir Tagged)) (name : FileName)
    (content : List Tagged) :
    untagDir (writeEntry dir name content) = writeEntry (untagDir dir) name (untag content) := by
  cases dir with
  | none =>
    simp only [untagDir, writeEntry, Option.map_some', Option.map_none', Option.getD_none,
      untagEntries_insert]
    rfl
  | some present =>
    simp only [untagDir, writeEntry, Option.map_some', Option.getD_some, untagEntries_insert]

/-- Removing a file commutes with dropping the provenance. -/
@[simp] theorem untagDir_removeEntry (dir : Option (Dir Tagged)) (name : FileName) :
    untagDir (removeEntry dir name) = removeEntry (untagDir dir) name := by
  cases dir <;> simp only [untagDir, removeEntry, Option.map_some', Option.map_none',
    untagEntries_erase]

/-- Dropping the provenance keeps whether a directory exists. -/
@[simp] theorem untagDir_isNone (dir : Option (Dir Tagged)) :
    (untagDir dir).isNone = dir.isNone := by
  cases dir <;> rfl

/-- Listing a directory gives the same names with or without the provenance. -/
@[simp] theorem lists_untagEntries (dir : Dir Tagged) (names : List FileName) :
    Lists (untagEntries dir) names ↔ Lists dir names := by
  simp only [Lists, keys_untagEntries]

/-- Listing a directory gives the same names with or without the provenance, also when it
is missing. -/
@[simp] theorem listsOpt_untagDir (dir : Option (Dir Tagged)) (names : List FileName) :
    ListsOpt (untagDir dir) names ↔ ListsOpt dir names := by
  cases dir <;> simp only [ListsOpt, untagDir, Option.map_some', Option.map_none', lists_untagEntries]

/-- Dropping the provenance commutes with appending files. -/
@[simp] theorem untag_append (first second : List Tagged) :
    untag (first ++ second) = untag first ++ untag second :=
  List.map_append _ _ _

/-- Dropping the provenance commutes with a torn write's prefix. -/
@[simp] theorem untag_take (content : List Tagged) (count : Nat) :
    untag (content.take count) = (untag content).take count :=
  List.map_take _ _ _

/-- Dropping the provenance keeps whether a file is empty. -/
@[simp] theorem untag_isEmpty (content : List Tagged) : (untag content).isEmpty = content.isEmpty := by
  cases content <;> rfl

/-- The staged bytes of a directory without provenance are the staged bytes without it. -/
@[simp] theorem stagedOutputs_untagDir (processing : Option (Dir Tagged)) (listing : List FileName) :
    stagedOutputs (untagDir processing) listing = untag (stagedOutputs processing listing) := by
  simp only [stagedOutputs, entry_untagDir, untag, List.map_flatMap]
  congr 1
  funext name
  cases entry processing name <;> rfl

/-- A deposit's stored bytes, without provenance, are the code's stored bytes. -/
@[simp] theorem untag_stored (codec : SelfFramingCodec Descriptor) (deposit : Nat)
    (descriptor : Descriptor) :
    untag (Pipeline.stored codec deposit descriptor) = Pipeline.stored codec deposit descriptor := by
  simp only [untag, Pipeline.stored, List.map_map, Function.comp_def, StoredByte.mark_uint8]
  rfl

/-- The bytes the sweep reads from a file are its bytes without provenance. -/
@[simp] theorem byte_untag (content : List Tagged) :
    (untag content).map StoredByte.byte = content.map StoredByte.byte := by
  simp only [untag, List.map_map, Function.comp_def, StoredByte.byte_uint8]
  rfl

/-- A position of the task with the provenance dropped from the batch it holds. -/
def Pc.untag : Pc Tagged → Pc UInt8
  | .top => .top
  | .intake remaining => .intake remaining
  | .writeTmp key counter outputs => .writeTmp key counter (YuvLdkSample.untag outputs)
  | .renameTmp key counter outputs => .renameTmp key counter (YuvLdkSample.untag outputs)
  | .clearStaging key outputs => .clearStaging key (YuvLdkSample.untag outputs)
  | .sweepStart => .sweepStart
  | .sweep remaining => .sweep remaining
  | .clearQueue => .clearQueue
  | .panicked => .panicked

/-- Dropping the provenance keeps whether the task is inside the claim-batch window. -/
@[simp] theorem Pc.inWindow_untag (pc : Pc Tagged) : pc.untag.inWindow = pc.inWindow := by
  cases pc <;> rfl

/-- The three directories with the provenance dropped. -/
def untagDisk (disk : Disk Tagged) : Disk UInt8 :=
  ⟨untagDir disk.pending, untagDir disk.processing, untagDir disk.spendables⟩

/-- A state of the provenance view with the provenance dropped. -/
def Pipeline.untag (t : Pipeline Tagged) : Pipeline UInt8 :=
  ⟨untagDisk t.disk, t.pc.untag, t.deposited.map fun record => (record.1, YuvLdkSample.untag record.2),
    t.handed.map YuvLdkSample.untag⟩

/-- A move between the intake and staging commutes with dropping the provenance. -/
theorem moveToProcessing_untagDisk (disk : Disk Tagged) (name : FileName) :
    moveToProcessing (untagDisk disk) name = (moveToProcessing disk name).map untagDisk := by
  simp only [moveToProcessing, untagDisk, entry_untagDir, Option.map_map, Function.comp_def,
    untagDir_removeEntry, untagDir_writeEntry]

section Steps

variable (config : SweepConfig Descriptor Key Tx) (t : Pipeline Tagged)

/-- A deposit commutes with dropping the provenance: its guard reads only names. -/
theorem untag_deposit (random : Bytes) (descriptor : Descriptor) :
    (t.deposit config random descriptor).map Pipeline.untag =
      t.untag.deposit config random descriptor := by
  unfold Pipeline.deposit
  by_cases fresh : random.length = 32 ∧ entry t.disk.pending (hexStr random) = none ∧
      entry t.disk.processing (hexStr random) = none
  · simp only [Pipeline.untag, untagDisk, entry_untagDir, Option.map_eq_none', fresh, and_self,
      if_true, Option.map_some', untagDir_writeEntry, untag_stored, List.map_append, List.map_cons,
      List.map_nil, List.length_map]
  · simp only [Pipeline.untag, untagDisk, entry_untagDir, Option.map_eq_none', fresh, if_false,
      Option.map_none']

/-- A torn deposit commutes with dropping the provenance. -/
theorem untag_tornDeposit (random : Bytes) (counter written : Nat) (descriptor : Descriptor) :
    (t.tornDeposit config random counter written descriptor).map Pipeline.untag =
      t.untag.tornDeposit config random counter written descriptor := by
  unfold Pipeline.tornDeposit
  by_cases keyLength : random.length = 32
  · simp only [Pipeline.untag, untagDisk, keyLength, if_true, Option.map_some', untagDir_writeEntry,
      untag_take, untag_stored, List.length_map]
  · simp only [keyLength, if_false, Option.map_none']

/-- The tick commutes with dropping the provenance: it reads only the intake's names. -/
theorem untag_tick (listing : List FileName) :
    (t.tick listing).map Pipeline.untag = t.untag.tick listing := by
  obtain ⟨⟨pending, processing, spendables⟩, pc, deposited, handed⟩ := t
  unfold Pipeline.tick
  cases pc <;> cases pending <;>
    simp only [Pipeline.untag, untagDisk, Pc.untag, untagDir, Option.map_none', Option.map_some',
      lists_untagEntries] <;> split_ifs <;> rfl

/-- A move commutes with dropping the provenance. -/
theorem untag_moveNext : t.moveNext.map Pipeline.untag = t.untag.moveNext := by
  obtain ⟨disk, pc, deposited, handed⟩ := t
  unfold Pipeline.moveNext
  cases pc with
  | intake remaining =>
    cases remaining with
    | nil => rfl
    | cons name rest =>
      simp only [Pipeline.untag, Pc.untag, moveToProcessing_untagDisk]
      split_ifs
      · cases moveToProcessing disk name <;> rfl
      · rfl
  | _ => rfl

/-- Gathering commutes with dropping the provenance: the staged bytes are read in the same order. -/
theorem untag_gather (listing : List FileName) (random : Bytes) (counter : Nat) :
    (t.gather listing random counter).map Pipeline.untag = t.untag.gather listing random counter := by
  obtain ⟨⟨pending, processing, spendables⟩, pc, deposited, handed⟩ := t
  unfold Pipeline.gather
  cases pc with
  | intake remaining =>
    cases remaining with
    | nil =>
      simp only [Pipeline.untag, untagDisk, Pc.untag, listsOpt_untagDir, entry_untagDir,
        Option.map_eq_none', stagedOutputs_untagDir, untag_isEmpty, withoutLength]
      split_ifs <;> rfl
    | cons => rfl
  | _ => rfl

/-- Writing the temporary file commutes with dropping the provenance. -/
theorem untag_writeTmp : t.writeTmp.map Pipeline.untag = t.untag.writeTmp := by
  obtain ⟨disk, pc, deposited, handed⟩ := t
  unfold Pipeline.writeTmp
  cases pc <;> simp only [Pipeline.untag, untagDisk, Pc.untag, Option.map_some', Option.map_none',
    untagDir_writeEntry]

/-- Renaming the temporary file commutes with dropping the provenance. -/
theorem untag_renameTmp : t.renameTmp.map Pipeline.untag = t.untag.renameTmp := by
  obtain ⟨disk, pc, deposited, handed⟩ := t
  unfold Pipeline.renameTmp
  cases pc with
  | renameTmp key counter outputs =>
    simp only [Pipeline.untag, untagDisk, Pc.untag, entry_untagDir]
    cases entry disk.spendables (tmpFileName key counter) <;>
      simp only [Pipeline.untag, untagDisk, Pc.untag, Option.map_none', Option.map_some',
        untagDir_writeEntry, untagDir_removeEntry]
  | _ => rfl

/-- Unlinking a staged file commutes with dropping the provenance. -/
theorem untag_unlinkStaged (name : FileName) :
    (t.unlinkStaged name).map Pipeline.untag = t.untag.unlinkStaged name := by
  obtain ⟨disk, pc, deposited, handed⟩ := t
  unfold Pipeline.unlinkStaged
  cases pc with
  | clearStaging key outputs =>
    simp only [Pipeline.untag, untagDisk, Pc.untag, entry_untagDir, Option.isSome_map']
    split_ifs <;> simp only [Pipeline.untag, untagDisk, Pc.untag, Option.map_some', Option.map_none',
      untagDir_removeEntry]
  | _ => rfl

/-- Removing the staging directory commutes with dropping the provenance. -/
theorem untag_rmdirStaging : t.rmdirStaging.map Pipeline.untag = t.untag.rmdirStaging := by
  obtain ⟨⟨pending, processing, spendables⟩, pc, deposited, handed⟩ := t
  unfold Pipeline.rmdirStaging
  cases pc <;> cases processing <;>
    simp only [Pipeline.untag, untagDisk, Pc.untag, untagDir, Option.map_none', Option.map_some',
      keys_untagEntries]
  split_ifs <;> rfl

/-- Listing the claim queue commutes with dropping the provenance. -/
theorem untag_sweepStart (listing : List FileName) :
    (t.sweepStart listing).map Pipeline.untag = t.untag.sweepStart listing := by
  obtain ⟨⟨pending, processing, spendables⟩, pc, deposited, handed⟩ := t
  unfold Pipeline.sweepStart
  cases pc <;> cases spendables <;>
    simp only [Pipeline.untag, untagDisk, Pc.untag, untagDir, Option.map_none', Option.map_some',
      lists_untagEntries] <;> split_ifs <;> rfl

/-- Sweeping a file commutes with dropping the provenance: the sweep reads only the bytes. -/
theorem untag_sweepNext (env : SweepEnv Key Tx) :
    (t.sweepNext config env).map Pipeline.untag = t.untag.sweepNext config env := by
  obtain ⟨disk, pc, deposited, handed⟩ := t
  unfold Pipeline.sweepNext
  cases pc with
  | sweep remaining =>
    cases remaining with
    | nil => rfl
    | cons name rest =>
      simp only [Pipeline.untag, untagDisk, Pc.untag, entry_untagDir]
      cases entry disk.spendables name with
      | none => rfl
      | some content =>
        simp only [Option.map_some', byte_untag]
        split <;> (try split_ifs) <;> simp only [Pipeline.untag, untagDisk, Pc.untag, Option.map_some',
          List.map_append, List.map_cons, List.map_nil]
  | _ => rfl

/-- Unlinking a claim-queue file commutes with dropping the provenance. -/
theorem untag_unlinkQueued (name : FileName) :
    (t.unlinkQueued name).map Pipeline.untag = t.untag.unlinkQueued name := by
  obtain ⟨disk, pc, deposited, handed⟩ := t
  unfold Pipeline.unlinkQueued
  cases pc with
  | clearQueue =>
    simp only [Pipeline.untag, untagDisk, Pc.untag, entry_untagDir, Option.isSome_map']
    split_ifs <;> simp only [Pipeline.untag, untagDisk, Pc.untag, Option.map_some', Option.map_none',
      untagDir_removeEntry]
  | _ => rfl

/-- Removing the claim queue commutes with dropping the provenance. -/
theorem untag_rmdirQueue : t.rmdirQueue.map Pipeline.untag = t.untag.rmdirQueue := by
  obtain ⟨⟨pending, processing, spendables⟩, pc, deposited, handed⟩ := t
  unfold Pipeline.rmdirQueue
  cases pc <;> cases spendables <;>
    simp only [Pipeline.untag, untagDisk, Pc.untag, untagDir, Option.map_none', Option.map_some',
      keys_untagEntries]
  split_ifs <;> rfl

/-- A crash during the claim batch's write commutes with dropping the provenance. -/
theorem untag_tornCrash (written : Nat) :
    (t.tornCrash written).map Pipeline.untag = t.untag.tornCrash written := by
  obtain ⟨disk, pc, deposited, handed⟩ := t
  unfold Pipeline.tornCrash
  cases pc <;> simp only [Pipeline.untag, untagDisk, Pc.untag, Option.map_some', Option.map_none',
    untagDir_writeEntry, untag_take]

/-- Every transition commutes with dropping the provenance. -/
theorem untag_step (action : Action Descriptor Key Tx) :
    (t.step config action).map Pipeline.untag = t.untag.step config action := by
  cases action with
  | deposit random descriptor => exact untag_deposit config t random descriptor
  | tornDeposit random counter written descriptor =>
    exact untag_tornDeposit config t random counter written descriptor
  | tick listing => exact untag_tick t listing
  | moveNext => exact untag_moveNext t
  | gather listing random counter => exact untag_gather t listing random counter
  | writeTmp => exact untag_writeTmp t
  | renameTmp => exact untag_renameTmp t
  | unlinkStaged name => exact untag_unlinkStaged t name
  | rmdirStaging => exact untag_rmdirStaging t
  | sweepStart listing => exact untag_sweepStart t listing
  | sweepNext env => exact untag_sweepNext config t env
  | unlinkQueued name => exact untag_unlinkQueued t name
  | rmdirQueue => exact untag_rmdirQueue t
  | crash => rfl
  | tornCrash written => exact untag_tornCrash t written

end Steps

/-- A calm run of the code is the provenance view's run of the same transitions, with the
provenance dropped. -/
theorem calmRun_untag (config : SweepConfig Descriptor Key Tx) :
    ∀ (actions : List (Action Descriptor Key Tx)) (t : Pipeline Tagged),
      (t.calmRun config actions).map Pipeline.untag = t.untag.calmRun config actions
  | [], _ => rfl
  | action :: rest, t => by
    have window : t.untag.pc.inWindow = t.pc.inWindow := Pc.inWindow_untag t.pc
    simp only [Pipeline.calmRun, window]
    split_ifs
    · rw [← untag_step config t action]
      cases t.step config action with
      | none => rfl
      | some t' => exact calmRun_untag config rest t'
    · rfl

/-- No deposit is in two claim batches of the code's run, when no crash hits the claim-batch
window. For every list of transitions the sweep task and the event handler can take from a
fresh node, with no crash between the start of the claim batch's write and the end of
`remove_dir_all(processing)`, the same transitions in the provenance view reach a state whose
bytes are exactly the code's state, and in it no deposit has a byte in two files of the
claim queue.

Proof: the provenance run commutes with dropping the provenance (`calmRun_untag`), and its
states keep `Unique` (`claim_batches_share_no_deposit`). -/
theorem claim_batches_disjoint {config : SweepConfig Descriptor Key Tx}
    {actions : List (Action Descriptor Key Tx)} {s : Pipeline UInt8}
    (ran : (Pipeline.initial UInt8).calmRun config actions = some s) :
    ∃ t : Pipeline Tagged, (Pipeline.initial Tagged).calmRun config actions = some t ∧
      t.untag = s ∧ ∀ first second, first ≠ second → ∀ deposit,
        ¬ (InEntry t.disk.spendables first deposit ∧ InEntry t.disk.spendables second deposit) := by
  have commutes := calmRun_untag config actions (Pipeline.initial Tagged)
  rw [show (Pipeline.initial Tagged).untag = Pipeline.initial UInt8 from rfl, ran] at commutes
  obtain ⟨t, ranTagged, untagged⟩ := Option.map_eq_some'.mp commutes
  exact ⟨t, ranTagged, untagged, fun _ _ apart => claim_batches_share_no_deposit
    (calmReachable_calmRun config actions .initial ranTagged) apart⟩

/-- A tick that commits one deposit and crashes in its sweep phase, then a second deposit of
the same descriptor committed by the next tick. -/
def twoBatchRun : List (Action FramedDescriptor Unit Nat) :=
  [.deposit (List.replicate 32 0xa1) sampleDescriptor, .tick [keyOf 0xa1], .moveNext,
    .gather [keyOf 0xa1] (List.replicate 32 0x5e) 0, .writeTmp, .renameTmp,
    .unlinkStaged (keyOf 0xa1), .rmdirStaging, .sweepStart [keyOf 0x5e], .crash,
    .deposit (List.replicate 32 0xb2) sampleDescriptor, .tick [keyOf 0xb2], .moveNext,
    .gather [keyOf 0xb2] (List.replicate 32 0x77) 0, .writeTmp, .renameTmp]

/-- In the code's run `twoBatchRun` the two claim-queue files hold the same bytes, and the
provenance run shows that the first deposit is in only one of them. -/
theorem claim_batches_disjoint_after_two_ticks :
    ∃ s : Pipeline UInt8, (Pipeline.initial UInt8).calmRun sampleConfig twoBatchRun = some s ∧
      entry s.disk.spendables (keyOf 0x5e) = entry s.disk.spendables (keyOf 0x77) ∧
      ∃ t : Pipeline Tagged, (Pipeline.initial Tagged).calmRun sampleConfig twoBatchRun = some t ∧
        t.untag = s ∧ ∀ first second, first ≠ second → ∀ deposit,
          ¬ (InEntry t.disk.spendables first deposit ∧ InEntry t.disk.spendables second deposit) := by
  obtain ⟨s, ran⟩ : ∃ s, (Pipeline.initial UInt8).calmRun sampleConfig twoBatchRun = some s :=
    ⟨_, rfl⟩
  exact ⟨s, ran, by cases ran; decide, claim_batches_disjoint ran⟩

/-- No deposited record lies inside two claim-queue files at once. -/
def DuplicateFree {α : Type} (s : Pipeline α) : Prop :=
  ∀ record ∈ s.deposited, ∀ first second firstContent secondContent,
    entry s.disk.spendables first = some firstContent →
    entry s.disk.spendables second = some secondContent →
    record.2 <:+: firstContent → record.2 <:+: secondContent → first = second

/-- One deposit, a tick that commits its batch and crashes before removing staging, and a
tick that commits staging again. -/
def recommitRun : List (Action FramedDescriptor Unit Nat) :=
  [.deposit (List.replicate 32 0xa1) sampleDescriptor, .tick [keyOf 0xa1], .moveNext,
    .gather [keyOf 0xa1] (List.replicate 32 0x5e) 0, .writeTmp, .renameTmp, .crash,
    .tick [], .gather [keyOf 0xa1] (List.replicate 32 0x77) 0, .writeTmp, .renameTmp]

/-- Consolidation is not idempotent under crash and restart: after `recommitRun` the one
deposited record is the whole content of two claim-queue files. -/
theorem consolidation_not_idempotent_under_crash :
    ∃ s : Pipeline UInt8, Reachable sampleConfig s ∧ ¬ DuplicateFree s := by
  obtain ⟨s, ran⟩ : ∃ s, (Pipeline.initial UInt8).run sampleConfig recommitRun = some s :=
    ⟨_, rfl⟩
  refine ⟨s, reachable_run sampleConfig recommitRun .initial ran, fun free => ?_⟩
  cases ran
  exact absurd (free _ (List.mem_singleton_self _) (keyOf 0x5e) (keyOf 0x77) _ _ rfl rfl
    (List.infix_refl _) (List.infix_refl _)) (by decide)

end YuvLdkSample
