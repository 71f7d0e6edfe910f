import YuvLdkSample.Pipeline

/-!
# One tick, step by step

The pipeline takes each file-system call of a tick as a transition of its own, so that a
crash or a deposit can fall between any two of them. This module follows one tick with
nothing in between.

The module `Consolidation` runs the first half of the tick (sweep.rs:60-90) as one function,
`consolidate`. The transitions the code takes for one consolidation end where `consolidate`
ends, for the same listings of the two directories and the same random key, so what
`consolidate_exact` says holds of every uninterrupted tick; and when `read_dir` answers
truthfully and the key is fresh they never panic.

The second half (sweep.rs:98-182) hands every file of the claim queue to the signer, in
listing order, and then deletes the whole queue, whether or not the spends succeeded.
-/

namespace YuvLdkSample

variable {α Descriptor Key Tx : Type}

/-- The transitions of one consolidation with nothing in between, in the code's order: the
listing of the intake, one move per listed name, the gathering of staging under a fresh key,
and, when a batch is committed, its write, its rename, one unlink per staged file and the
removal of staging. -/
def consolidationSteps (intakeOrder stagedOrder : List FileName) (random : Bytes) (counter : Nat)
    (committing : Bool) : List (Action Descriptor Key Tx) :=
  (.tick intakeOrder :: intakeOrder.map (fun _ => .moveNext) ++ [.gather stagedOrder random counter]) ++
    if committing then .writeTmp :: .renameTmp :: stagedOrder.map .unlinkStaged ++ [.rmdirStaging]
    else []

/-- Writing a file and unlinking it again leaves the directory as it was, created if it was
missing, when it had no file of that name. -/
theorem removeEntry_writeEntry {dir : Option (Dir α)} {name : FileName} {content : List α}
    (absent : entry dir name = none) :
    removeEntry (writeEntry dir name content) name = some (dir.getD ∅) := by
  have notMember : name ∉ dir.getD ∅ := by
    cases dir with
    | none => exact AList.not_mem_empty name
    | some present => exact AList.lookup_eq_none.mp absent
  refine congrArg some (AList.ext ?_)
  show List.kerase name (⟨name, content⟩ :: List.kerase name (dir.getD ∅).entries) =
    (dir.getD ∅).entries
  exact (List.kerase_cons_eq (show name = (⟨name, content⟩ : Sigma fun _ : FileName => List α).1
    from rfl)).trans (List.kerase_of_not_mem_keys notMember)

/-- Unlinking the first listed name of a directory: the file is there, and the rest of the
listing lists what remains. -/
theorem erase_of_perm {dir : Dir α} {name : FileName} {names : List FileName}
    (listed : (name :: names).Perm dir.keys) :
    (entry (some dir) name).isSome ∧ names.Perm (dir.erase name).keys :=
  ⟨AList.lookup_isSome.mpr (listed.subset (List.mem_cons_self name names)), by
    rw [AList.keys_erase]
    simpa only [List.erase_cons_head] using listed.erase name⟩

/-- The intake loop never touches the claim queue. -/
theorem intakeLoop_spendables :
    ∀ (names : List FileName) {disk moved : Disk α}, intakeLoop names disk = some moved →
      moved.spendables = disk.spendables
  | [], _, _, looped => by cases looped; rfl
  | name :: rest, disk, moved, looped => by
    simp only [intakeLoop] at looped
    split at looped
    · obtain ⟨middle, step, looped⟩ := Option.bind_eq_some.mp looped
      rw [intakeLoop_spendables rest looped]
      obtain ⟨_, _, rfl⟩ := Option.map_eq_some'.mp step
      rfl
    · exact intakeLoop_spendables rest looped

section Runs

variable [DecidableEq α] [StoredByte α] (config : SweepConfig Descriptor Key Tx)

/-- A run of two lists of transitions is the run of the first, then of the second. -/
theorem Pipeline.run_append (first second : List (Action Descriptor Key Tx)) (s : Pipeline α) :
    s.run config (first ++ second) = (s.run config first).bind (Pipeline.run config · second) := by
  induction first generalizing s with
  | nil => rfl
  | cons action rest inductionHypothesis =>
    simp only [List.cons_append, Pipeline.run]
    cases s.step config action with
    | none => rfl
    | some next => exact inductionHypothesis next

/-- Once the task has panicked, no move of the intake loop is taken. -/
theorem run_moveNext_panicked (names : List FileName) {s s' : Pipeline α}
    (panicked : s.pc = .panicked) (ran : s.run config (names.map fun _ => .moveNext) = some s') :
    s'.pc = .panicked := by
  cases names with
  | nil =>
    cases ran
    exact panicked
  | cons name rest => simp [Pipeline.run, Pipeline.step, Pipeline.moveNext, panicked] at ran

/-- The moves over the listed intake names run `intakeLoop` over them, unless one of them
panics.

Proof: induction on the names; a move of a name of key length is one `moveToProcessing`,
any other name is skipped, as in `intakeLoop`. -/
theorem run_moveNext (names rest : List FileName) {s s' : Pipeline α}
    (position : s.pc = .intake (names ++ rest))
    (ran : s.run config (names.map fun _ => .moveNext) = some s') :
    (∃ disk, intakeLoop names s.disk = some disk ∧ s' = { s with disk, pc := .intake rest }) ∨
      s'.pc = .panicked := by
  induction names generalizing s with
  | nil =>
    simp only [List.map_nil, Pipeline.run, Option.some.injEq] at ran
    subst ran
    refine .inl ⟨s.disk, rfl, ?_⟩
    obtain ⟨disk, pc, deposited, handed⟩ := s
    simp only [List.nil_append] at position
    subst position
    rfl
  | cons name names inductionHypothesis =>
    simp only [List.map_cons, Pipeline.run, Option.bind_eq_some] at ran
    obtain ⟨next, stepped, ran⟩ := ran
    simp only [Pipeline.step, Pipeline.moveNext, position, List.cons_append] at stepped
    by_cases keyLength : hasKeyLength name
    · rw [if_pos keyLength] at stepped
      cases moved : moveToProcessing s.disk name with
      | none =>
        rw [moved] at stepped
        cases stepped
        exact .inr (run_moveNext_panicked config names rfl ran)
      | some disk =>
        rw [moved] at stepped
        cases stepped
        refine (inductionHypothesis rfl ran).imp_left fun ⟨disk', looped, shape⟩ => ⟨disk', ?_, shape⟩
        simp only [intakeLoop, keyLength, if_true, moved, Option.some_bind, looped]
    · rw [if_neg keyLength] at stepped
      cases stepped
      refine (inductionHypothesis rfl ran).imp_left fun ⟨disk', looped, shape⟩ => ⟨disk', ?_, shape⟩
      simp only [intakeLoop, keyLength, if_false, Bool.false_eq_true, looped]

/-- The tick, the moves and the gathering of one consolidation, with nothing in between, run
the intake loop over the listed intake and then either skip to the sweep phase, when the
staged bytes are empty, or start the write of the batch.

Proof: a missing intake sends the tick to the sweep phase, where the gathering cannot be
taken; a panicked move leaves no gathering either. -/
theorem run_gathering {s s' : Pipeline α} {intakeOrder stagedOrder : List FileName}
    {random : Bytes} {counter : Nat} (top : s.pc = .top)
    (ran : s.run config (.tick intakeOrder :: intakeOrder.map (fun _ => .moveNext) ++
      [.gather stagedOrder random counter]) = some s') :
    ∃ moved, s.disk.pending.isSome ∧ intakeLoop intakeOrder s.disk = some moved ∧
      s' = if (stagedOutputs moved.processing stagedOrder).isEmpty then
          { s with disk := moved, pc := .sweepStart }
        else
          { s with
            disk := moved
            pc := .writeTmp (hexStr random) counter
              (withoutLength (stagedOutputs moved.processing stagedOrder)) } := by
  rw [Pipeline.run_append] at ran
  obtain ⟨gathering, moves, gathered⟩ := Option.bind_eq_some.mp ran
  simp only [Pipeline.run, Option.bind_eq_some] at moves
  obtain ⟨ticked, tick, moves⟩ := moves
  simp only [Pipeline.run, Option.bind_eq_some, Option.some.injEq, exists_eq_right] at gathered
  simp only [Pipeline.step, Pipeline.tick, top] at tick
  split at tick
  · split at tick
    · cases tick
      rename_i empty
      subst empty
      cases moves
      simp [Pipeline.step, Pipeline.gather] at gathered
    · cases tick
  · rename_i present
    split at tick
    · cases tick
      rcases run_moveNext config intakeOrder [] (by simp) moves with ⟨moved, looped, rfl⟩ | panicked
      · refine ⟨moved, by simp [present], looped, ?_⟩
        simp only [Pipeline.step, Pipeline.gather] at gathered
        split at gathered
        · split at gathered <;> cases gathered <;> simp_all
        · cases gathered
      · simp [Pipeline.step, Pipeline.gather, panicked] at gathered
    · cases tick
  · cases tick

/-- Unlinking staged files changes only staging. -/
theorem run_unlinkStaged (names : List FileName) {s s' : Pipeline α} {key : FileName}
    {outputs : List α} (position : s.pc = .clearStaging key outputs)
    (ran : s.run config (names.map .unlinkStaged) = some s') :
    ∃ processing,
      s' = { s with disk := { s.disk with processing }, pc := .clearStaging key outputs } := by
  induction names generalizing s with
  | nil =>
    simp only [List.map_nil, Pipeline.run, Option.some.injEq] at ran
    subst ran
    refine ⟨s.disk.processing, ?_⟩
    obtain ⟨disk, pc, deposited, handed⟩ := s
    subst position
    rfl
  | cons name names inductionHypothesis =>
    simp only [List.map_cons, Pipeline.run, Option.bind_eq_some] at ran
    obtain ⟨next, stepped, ran⟩ := ran
    simp only [Pipeline.step, Pipeline.unlinkStaged, position] at stepped
    split at stepped
    · cases stepped
      obtain ⟨processing, rfl⟩ := inductionHypothesis rfl ran
      exact ⟨processing, rfl⟩
    · cases stepped

/-- The commit of a batch, with nothing in between, writes the batch under its key as one
`fs::write` would and removes staging, when no leftover temporary file has the name of the
batch's own.

Proof: the temporary file is written and renamed away, which leaves the claim queue as it
was but for the key (`removeEntry_writeEntry`); the unlinks change only staging, and the
removal of the directory deletes it. -/
theorem run_commit {s s' : Pipeline α} {key : FileName} {counter : Nat} {outputs : List α}
    {stagedOrder : List FileName} (position : s.pc = .writeTmp key counter outputs)
    (noTmp : entry s.disk.spendables (tmpFileName key counter) = none)
    (ran : s.run config (.writeTmp :: .renameTmp :: stagedOrder.map .unlinkStaged ++
      [.rmdirStaging]) = some s')
    (finished : s'.pc = .sweepStart) :
    s' = { s with
      disk := { s.disk with
        spendables := writeEntry s.disk.spendables key outputs, processing := none }
      pc := .sweepStart } := by
  rw [Pipeline.run_append] at ran
  obtain ⟨cleared, unlinks, removed⟩ := Option.bind_eq_some.mp ran
  simp only [Pipeline.run, Option.bind_eq_some] at unlinks
  obtain ⟨written, write, renamed, rename, unlinks⟩ := unlinks
  simp only [Pipeline.run, Option.bind_eq_some, Option.some.injEq, exists_eq_right] at removed
  simp only [Pipeline.step, Pipeline.writeTmp, position] at write
  cases write
  simp only [Pipeline.step, Pipeline.renameTmp, entry_writeEntry, if_true] at rename
  cases rename
  obtain ⟨processing, rfl⟩ := run_unlinkStaged config stagedOrder rfl unlinks
  simp only [Pipeline.step, Pipeline.rmdirStaging] at removed
  split at removed
  · split at removed
    · cases removed
      simp only [removeEntry_writeEntry noTmp]
      rfl
    · cases removed
  · cases removed
    cases finished
  · cases removed

/-- The moves over listed intake names on which `intakeLoop` succeeds are all taken, and end
with the disk it computes. -/
theorem run_moveNext_of_intakeLoop :
    ∀ (names rest : List FileName) (s : Pipeline α) {disk : Disk α},
      s.pc = .intake (names ++ rest) → intakeLoop names s.disk = some disk →
      s.run config (names.map fun _ => .moveNext) = some { s with disk, pc := .intake rest }
  | [], rest, ⟨disk, pc, deposited, handed⟩, _, position, looped => by
    cases looped
    simp only [List.nil_append] at position
    subst position
    rfl
  | name :: names, rest, s, disk, position, looped => by
    simp only [List.map_cons, Pipeline.run, Pipeline.step, Pipeline.moveNext, position,
      List.cons_append]
    by_cases keyLength : hasKeyLength name
    · simp only [intakeLoop, keyLength, if_true] at looped
      obtain ⟨middle, moved, looped⟩ := Option.bind_eq_some.mp looped
      simp only [keyLength, if_true, moved, Option.some_bind]
      exact run_moveNext_of_intakeLoop names rest _ rfl looped
    · simp only [intakeLoop, keyLength, if_false, Bool.false_eq_true] at looped
      simp only [keyLength, if_false, Bool.false_eq_true, Option.some_bind]
      exact run_moveNext_of_intakeLoop names rest _ rfl looped

/-- Unlinking the staged files in any order `read_dir` may list them succeeds, and leaves
staging empty. -/
theorem run_unlinkStaged_of_perm :
    ∀ (names : List FileName) (s : Pipeline α) (staged : Dir α) {key : FileName}
      {outputs : List α}, s.pc = .clearStaging key outputs → s.disk.processing = some staged →
      names.Perm staged.keys → ∃ emptied : Dir α, emptied.keys = [] ∧
        s.run config (names.map .unlinkStaged) = some { s with
          disk := { s.disk with processing := some emptied }, pc := .clearStaging key outputs }
  | [], ⟨⟨pending, _, spendables⟩, pc, deposited, handed⟩, staged, _, _, position, present,
      listed => by
    refine ⟨staged, List.nil_perm.mp listed, ?_⟩
    simp only at position present
    subst position present
    rfl
  | name :: names, s, staged, key, outputs, position, present, listed => by
    obtain ⟨found, rest⟩ := erase_of_perm listed
    rw [← present] at found
    simp only [List.map_cons, Pipeline.run, Pipeline.step, Pipeline.unlinkStaged, position,
      found, if_true, Option.some_bind]
    exact run_unlinkStaged_of_perm names _ (staged.erase name) rfl
      (by simp only [removeEntry, present, Option.map_some']) rest

/-- One consolidation taken step by step, with no deposit and no crash in between, ends where
the uninterrupted `consolidate` ends. For the same listings of the intake and of staging and
the same random key, every such run that comes back to the sweep phase leaves the disk that
`consolidate` computes and the two histories as they were, provided no leftover temporary
file has the name of the batch's.

Proof: `run_gathering` runs the intake loop and decides on the staged bytes. An empty batch
is left alone by both; a non-empty one is committed as `commitStaged` commits it
(`run_commit`), the moves having left the claim queue untouched (`intakeLoop_spendables`). -/
theorem consolidationSteps_refine_consolidate {s s' : Pipeline α} {intakeOrder stagedOrder : List FileName}
    {random : Bytes} {counter : Nat} {committing : Bool} (top : s.pc = .top)
    (noTmp : entry s.disk.spendables (tmpFileName (hexStr random) counter) = none)
    (ran : s.run config (consolidationSteps intakeOrder stagedOrder random counter committing) =
      some s')
    (finished : s'.pc = .sweepStart) :
    consolidate s.disk intakeOrder stagedOrder (hexStr random) = some s'.disk ∧
      s'.deposited = s.deposited ∧ s'.handed = s.handed := by
  rw [consolidationSteps, Pipeline.run_append] at ran
  obtain ⟨gathered, gathering, committed⟩ := Option.bind_eq_some.mp ran
  obtain ⟨moved, present, looped, rfl⟩ := run_gathering config top gathering
  have consolidated : consolidate s.disk intakeOrder stagedOrder (hexStr random) =
      some (commitStaged moved stagedOrder (hexStr random)) := by
    obtain ⟨pending, present⟩ := Option.isSome_iff_exists.mp present
    simp only [consolidate, present, looped, Option.map_some']
  rw [consolidated]
  by_cases empty : (stagedOutputs moved.processing stagedOrder).isEmpty
  · rw [if_pos empty] at committed
    cases committing
    · cases committed
      exact ⟨by simp only [commitStaged, empty, if_true], rfl, rfl⟩
    · simp [Pipeline.run, Pipeline.step, Pipeline.writeTmp] at committed
  · rw [if_neg empty] at committed
    cases committing
    · cases committed
      cases finished
    · have kept := intakeLoop_spendables intakeOrder looped
      obtain rfl := run_commit config rfl (by simpa only [kept] using noTmp) committed finished
      exact ⟨by simp only [commitStaged, empty, if_false, Bool.false_eq_true], rfl, rfl⟩

end Runs

/-- A deposit, then one uninterrupted tick that commits it to the claim queue: the run comes
back to the sweep phase where `consolidate` ends. -/
theorem consolidation_steps_after_one_deposit :
    ∃ s s', (Pipeline.initial UInt8).deposit sampleConfig (List.replicate 32 0xa1)
        sampleDescriptor = some s ∧
      s.run sampleConfig (consolidationSteps [sampleKey 0xa1] [sampleKey 0xa1]
        (List.replicate 32 0x5e) 0 true) = some s' ∧ s'.pc = .sweepStart ∧
      consolidate s.disk [sampleKey 0xa1] [sampleKey 0xa1] (hexStr (List.replicate 32 0x5e)) =
        some s'.disk ∧ s'.deposited = s.deposited ∧ s'.handed = s.handed := by
  obtain ⟨s, deposited⟩ : ∃ s, (Pipeline.initial UInt8).deposit sampleConfig
      (List.replicate 32 0xa1) sampleDescriptor = some s := ⟨_, rfl⟩
  obtain ⟨s', ran⟩ : ∃ s', s.run sampleConfig (consolidationSteps [sampleKey 0xa1]
      [sampleKey 0xa1] (List.replicate 32 0x5e) 0 true) = some s' := by
    cases deposited
    exact ⟨_, rfl⟩
  have finished : s'.pc = .sweepStart := by
    cases deposited
    cases ran
    rfl
  exact ⟨s, s', deposited, ran, finished, consolidationSteps_refine_consolidate sampleConfig
    (by cases deposited; rfl) (by cases deposited; rfl) ran finished⟩

section Progress

variable [DecidableEq α] [StoredByte α] (config : SweepConfig Descriptor Key Tx)

/-- The commit of a non-empty batch, with nothing in between, never panics and writes the
batch under its key: the temporary file is there to be renamed, and staging, once its listed
files are unlinked, is empty when it is removed. -/
theorem run_commit_complete (s : Pipeline α) {key : FileName} {counter : Nat} {outputs : List α}
    {staged : Dir α} {stagedOrder : List FileName} (position : s.pc = .writeTmp key counter outputs)
    (present : s.disk.processing = some staged) (listed : stagedOrder.Perm staged.keys) :
    ∃ s', s.run config (.writeTmp :: .renameTmp :: stagedOrder.map .unlinkStaged ++
      [.rmdirStaging]) = some s' ∧ s'.pc = .sweepStart ∧
      entry s'.disk.spendables key = some outputs := by
  let committed := writeEntry (removeEntry (writeEntry s.disk.spendables (tmpFileName key counter)
    outputs) (tmpFileName key counter)) key outputs
  obtain ⟨emptied, emptyKeys, unlinked⟩ := run_unlinkStaged_of_perm config stagedOrder
    { s with disk := { s.disk with spendables := committed }, pc := .clearStaging key outputs }
    staged rfl present listed
  refine ⟨{ s with
    disk := { s.disk with spendables := committed, processing := none }, pc := .sweepStart },
    ?_, rfl, by simp only [committed, entry_writeEntry, if_true]⟩
  rw [Pipeline.run_append]
  simp only [List.cons_append, Pipeline.run, Pipeline.step, Pipeline.writeTmp, position,
    Pipeline.renameTmp, entry_writeEntry, if_true, Option.some_bind]
  rw [unlinked]
  simp only [Option.some_bind, Pipeline.run, Pipeline.step, Pipeline.rmdirStaging, emptyKeys,
    if_true]

/-- One consolidation with nothing in between never panics and comes back to the sweep phase
when `read_dir` lists the intake and staging as they are and the batch's key is fresh: every
`rename` of the intake loop, the batch's write and rename, and `remove_dir_all(processing)`
succeed. The batch is written under its key exactly when the staged bytes, the staging files
after the moves in the order `read_dir` lists them, are not empty, and it holds those bytes.

Proof: the listing of the intake makes the intake loop succeed (`intakeLoop_listed`), the moves
run it (`run_moveNext_of_intakeLoop`), and the gathering's guard is the hypotheses. A non-empty
batch has a staging directory, whose listed files are all unlinked
(`run_unlinkStaged_of_perm`), so it is empty when it is removed. -/
theorem consolidationSteps_complete {s : Pipeline α} {pending : Dir α}
    {intakeOrder stagedOrder : List FileName} {random : Bytes} (counter : Nat)
    (top : s.pc = .top) (present : s.disk.pending = some pending)
    (listed : Lists pending intakeOrder) (stagedDistinct : stagedOrder.Nodup)
    (stagedListed : ∀ name, name ∈ stagedOrder ↔ (stagedEntry s.disk name).isSome)
    (keyLength : random.length = 32) (fresh : entry s.disk.spendables (hexStr random) = none) :
    ∃ s', s.run config (consolidationSteps intakeOrder stagedOrder random counter
        !(stagedOrder.flatMap fun name => (stagedEntry s.disk name).getD []).isEmpty) = some s' ∧
      s'.pc = .sweepStart ∧
      entry s'.disk.spendables (hexStr random) =
        if (stagedOrder.flatMap fun name => (stagedEntry s.disk name).getD []).isEmpty then none
        else some (stagedOrder.flatMap fun name => (stagedEntry s.disk name).getD []) := by
  obtain ⟨moved, looped, kept, -, movedProcessing⟩ :=
    intakeLoop_listed s.disk pending intakeOrder present listed
  have staged : ListsOpt moved.processing stagedOrder :=
    listsOpt_of_mem stagedDistinct fun name => by rw [movedProcessing, stagedListed]
  have outputs : stagedOutputs moved.processing stagedOrder =
      stagedOrder.flatMap fun name => (stagedEntry s.disk name).getD [] := by
    simp only [stagedOutputs, movedProcessing]
  rw [← outputs]
  have gathered : s.run config (.tick intakeOrder :: intakeOrder.map (fun _ => .moveNext) ++
      [.gather stagedOrder random counter]) =
      some (if (stagedOutputs moved.processing stagedOrder).isEmpty then
          { s with disk := moved, pc := .sweepStart }
        else
          { s with
            disk := moved
            pc := .writeTmp (hexStr random) counter
              (withoutLength (stagedOutputs moved.processing stagedOrder)) }) := by
    rw [Pipeline.run_append]
    simp only [Pipeline.run, Pipeline.step, Pipeline.tick, top, present, listed, if_true,
      Option.some_bind]
    rw [run_moveNext_of_intakeLoop config intakeOrder [] { s with pc := .intake intakeOrder }
      (by simp) looped]
    simp only [Option.some_bind, Pipeline.run, Pipeline.step, Pipeline.gather, staged, keyLength,
      kept, fresh, and_self, if_true]
    split <;> rfl
  rw [consolidationSteps, Pipeline.run_append, gathered]
  by_cases empty : (stagedOutputs moved.processing stagedOrder).isEmpty
  · simp only [empty, if_true, Bool.not_true, Bool.false_eq_true, if_false, Option.some_bind]
    exact ⟨_, rfl, rfl, by rw [kept, fresh]⟩
  · have nonEmpty : (stagedOutputs moved.processing stagedOrder).isEmpty = false := by
      simpa using empty
    obtain ⟨dir, isDir⟩ : ∃ dir, moved.processing = some dir := by
      cases processing : moved.processing with
      | none => simp [stagedOutputs, processing] at nonEmpty
      | some dir => exact ⟨dir, rfl⟩
    rw [isDir] at staged
    simp only [nonEmpty, Bool.not_false, Bool.false_eq_true, if_false, if_true, Option.some_bind]
    exact run_commit_complete config _ rfl isDir staged

end Progress

/-- After one deposit, the uninterrupted consolidation that lists the intake and staging as
they are comes back to the sweep phase and commits the deposit's bytes under the batch's key. -/
theorem consolidation_completes_after_one_deposit :
    ∃ s, (Pipeline.initial UInt8).deposit sampleConfig (List.replicate 32 0xa1)
        sampleDescriptor = some s ∧
      ∃ s', s.run sampleConfig (consolidationSteps [sampleKey 0xa1] [sampleKey 0xa1]
          (List.replicate 32 0x5e) 0 true) = some s' ∧ s'.pc = .sweepStart ∧
        entry s'.disk.spendables (hexStr (List.replicate 32 0x5e)) =
          entry s.disk.pending (sampleKey 0xa1) := by
  obtain ⟨s, deposited⟩ : ∃ s, (Pipeline.initial UInt8).deposit sampleConfig
      (List.replicate 32 0xa1) sampleDescriptor = some s := ⟨_, rfl⟩
  obtain ⟨pending, present⟩ : ∃ pending, s.disk.pending = some pending := by
    cases deposited
    exact ⟨_, rfl⟩
  have stagedListed : ∀ name, name ∈ [sampleKey 0xa1] ↔ (stagedEntry s.disk name).isSome := by
    intro name
    cases deposited
    by_cases same : name = sampleKey 0xa1
    · subst same
      decide
    · simp [sampleKey] at same
      simp [stagedEntry, same, sampleKey, Pipeline.initial]
  obtain ⟨s', ran, finished, written⟩ := @consolidationSteps_complete UInt8 FramedDescriptor Unit
    Nat _ _ sampleConfig s pending [sampleKey 0xa1] [sampleKey 0xa1] (List.replicate 32 0x5e) 0
    (by cases deposited; rfl) present (by cases deposited; cases present; decide)
    (List.nodup_singleton _) stagedListed (by decide) (by cases deposited; rfl)
  have nonEmpty : ([sampleKey 0xa1].flatMap fun name => (stagedEntry s.disk name).getD []).isEmpty =
      false := by
    cases deposited
    decide
  simp only [nonEmpty, Bool.not_false, Bool.false_eq_true, if_false] at ran written
  exact ⟨s, deposited, s', ran, finished, by rw [written]; cases deposited; decide⟩

/-- The transitions of the sweep phase with nothing in between, in the code's order: the
listing of the claim queue, one sweep per listed file with the outside world's answers for it,
the end of the loop, one unlink per listed file and the removal of the queue. -/
def sweepSteps (listing : List FileName) (envs : List (SweepEnv Key Tx)) (finish : SweepEnv Key Tx) :
    List (Action Descriptor Key Tx) :=
  (.sweepStart listing :: envs.map .sweepNext) ++ (.sweepNext finish :: listing.map .unlinkQueued) ++
    [.rmdirQueue]

section Sweep

variable [DecidableEq α] [StoredByte α] (config : SweepConfig Descriptor Key Tx)

/-- The sweeps of listed claim-queue files whose batch sweeps all complete hand every file to
the signer, in listing order, and leave the disk as it is.

Proof: induction on the files; a batch sweep that completes has passed the decoded file to
`spend_yuv_spendable_outputs` (`sweepBatch_ok_requests_spend`), so the file is handed over. -/
theorem run_sweepNext :
    ∀ (names rest : List FileName) (envs : List (SweepEnv Key Tx)) (s : Pipeline α),
      s.pc = .sweep (names ++ rest) →
      List.Forall₂ (fun name env => ∃ content effects, entry s.disk.spendables name = some content ∧
        sweepBatch config.codec config.yuvClient config.wallet env
          (content.map StoredByte.byte) = .ok effects) names envs →
      s.run config (envs.map .sweepNext) = some { s with
        pc := .sweep rest, handed := s.handed ++ names.filterMap (entry s.disk.spendables) }
  | [], rest, [], ⟨disk, pc, deposited, handed⟩, position, .nil => by
    simp only [List.nil_append] at position
    subst position
    simp only [List.map_nil, Pipeline.run, List.filterMap_nil, List.append_nil]
  | name :: names, rest, env :: envs, s, position, .cons ⟨content, effects, found, completed⟩ swept => by
    simp only [List.map_cons, Pipeline.run, Pipeline.step, Pipeline.sweepNext, position,
      List.cons_append, found, completed, sweepBatch_ok_requests_spend completed, if_true,
      Option.some_bind]
    rw [run_sweepNext names rest envs
      { s with pc := .sweep (names ++ rest), handed := s.handed ++ [content] } rfl swept]
    simp only [List.filterMap_cons, found, List.append_assoc, List.singleton_append]

/-- Unlinking the claim-queue files in any order `read_dir` may list them succeeds, and leaves
the queue empty. -/
theorem run_unlinkQueued_of_perm :
    ∀ (names : List FileName) (s : Pipeline α) (queue : Dir α), s.pc = .clearQueue →
      s.disk.spendables = some queue → names.Perm queue.keys → ∃ emptied : Dir α,
        emptied.keys = [] ∧ s.run config (names.map .unlinkQueued) = some { s with
          disk := { s.disk with spendables := some emptied }, pc := .clearQueue }
  | [], ⟨⟨pending, processing, _⟩, pc, deposited, handed⟩, queue, position, present, listed => by
    refine ⟨queue, List.nil_perm.mp listed, ?_⟩
    simp only at position present
    subst position present
    rfl
  | name :: names, s, queue, position, present, listed => by
    obtain ⟨found, rest⟩ := erase_of_perm listed
    rw [← present] at found
    simp only [List.map_cons, Pipeline.run, Pipeline.step, Pipeline.unlinkQueued, position,
      found, if_true, Option.some_bind]
    exact run_unlinkQueued_of_perm names _ (queue.erase name) rfl
      (by simp only [removeEntry, present, Option.map_some']) rest

/-- The sweep phase with nothing in between, when no batch sweep panics, passes every file of
the claim queue to `spend_yuv_spendable_outputs` once, in the order `read_dir` lists them, and
then deletes the queue, whatever the sweeps achieved: a batch whose spend failed is deleted all
the same (sweep.rs:180), although the comments at sweep.rs:93-97 and 137-138 expect a failed
batch to be tried again at the next tick.

Proof: the listing starts the loop, the sweeps hand the files over (`run_sweepNext`), and the
unlinks of `remove_dir_all` empty the queue before it is removed (`run_unlinkQueued_of_perm`). -/
theorem sweepSteps_hand_over {s : Pipeline α} {queue : Dir α} {listing : List FileName}
    {envs : List (SweepEnv Key Tx)} (finish : SweepEnv Key Tx) (position : s.pc = .sweepStart)
    (present : s.disk.spendables = some queue) (listed : Lists queue listing)
    (swept : List.Forall₂ (fun name env => ∃ content effects,
      entry s.disk.spendables name = some content ∧
      sweepBatch config.codec config.yuvClient config.wallet env
        (content.map StoredByte.byte) = .ok effects) listing envs) :
    s.run config (sweepSteps listing envs finish) = some { s with
      disk := { s.disk with spendables := none }, pc := .top,
      handed := s.handed ++ listing.filterMap (entry s.disk.spendables) } := by
  obtain ⟨emptied, emptyKeys, unlinked⟩ := run_unlinkQueued_of_perm config listing
    { s with pc := .clearQueue, handed := s.handed ++ listing.filterMap (entry s.disk.spendables) }
    queue rfl present listed
  have started : s.step config (.sweepStart listing) = some { s with pc := .sweep listing } := by
    simp only [Pipeline.step, Pipeline.sweepStart, position, present, listed, if_true]
  rw [sweepSteps, Pipeline.run_append, Pipeline.run_append]
  simp only [Pipeline.run, started, Option.some_bind]
  rw [run_sweepNext config listing [] envs { s with pc := .sweep listing } (by simp) swept]
  simp only [Option.some_bind, Pipeline.run, Pipeline.step, Pipeline.sweepNext]
  rw [unlinked]
  simp only [Option.some_bind, Pipeline.run, Pipeline.step, Pipeline.rmdirQueue, emptyKeys,
    if_true]

end Sweep

/-- The outside world of a batch sweep whose signer fails. -/
def failingSigner : SweepEnv Unit Nat := ⟨1000, 800000, .error "signer unavailable"⟩

/-- After one deposit and its uninterrupted consolidation, the uninterrupted sweep phase hands
the one claim batch to the signer and deletes the claim queue, although the signer fails. -/
theorem sweep_hands_over_after_one_deposit :
    ∃ s, (Pipeline.initial UInt8).run sampleConfig
        (.deposit (List.replicate 32 0xa1) sampleDescriptor :: consolidationSteps [sampleKey 0xa1]
          [sampleKey 0xa1] (List.replicate 32 0x5e) 0 true) = some s ∧
      s.run sampleConfig (sweepSteps [sampleKey 0x5e] [failingSigner] failingSigner) =
        some { s with
          disk := { s.disk with spendables := none }, pc := .top,
          handed := s.handed ++ [sampleKey 0x5e].filterMap (entry s.disk.spendables) } := by
  obtain ⟨s, ran⟩ : ∃ s, (Pipeline.initial UInt8).run sampleConfig
      (.deposit (List.replicate 32 0xa1) sampleDescriptor :: consolidationSteps [sampleKey 0xa1]
        [sampleKey 0xa1] (List.replicate 32 0x5e) 0 true) = some s := ⟨_, rfl⟩
  obtain ⟨queue, present, top, listed, content, effects, found, completed⟩ :
      ∃ queue, s.disk.spendables = some queue ∧ s.pc = .sweepStart ∧
        Lists queue [sampleKey 0x5e] ∧ ∃ content effects,
          entry s.disk.spendables (sampleKey 0x5e) = some content ∧
          sweepBatch framedCodec none ⟨()⟩ failingSigner (content.map StoredByte.byte) =
            .ok effects := by
    cases ran
    exact ⟨_, rfl, rfl, by decide, _, _, rfl, rfl⟩
  exact ⟨s, ran, sweepSteps_hand_over sampleConfig failingSigner top present listed
    (.cons ⟨content, effects, found, completed⟩ .nil)⟩

end YuvLdkSample
