import YuvLdkSample.Uninterrupted

/-!
# No deposited record is lost before it is swept

Every deposited record stays on disk, as its own intake entry, as its own staged entry,
or as a contiguous segment of a committed claim batch, until the sweep phase has decoded
a claim-queue file containing it and handed its descriptors to the signer. This holds in
every reachable state, under any interleaving of deposits with the tick's file-system
calls and any crashes.

The invariant `Safe` adds what the task's position promises about the disk: while a
claim batch is written and staging is removed, every staged file lies inside the batch;
while the claim queue is swept and removed, every file already swept was handed over.
These are the two places where the code deletes data, and each deletion is covered by
the write or the sweep before it.
-/

namespace YuvLdkSample

variable {α Descriptor Key Tx : Type}

/-- A record's bytes survive on disk: as its own intake entry, as its own staged entry,
or as a contiguous segment of a committed claim batch (a 64-byte name, not a temporary
file). -/
def Durable (disk : Disk α) (record : FileName × List α) : Prop :=
  entry disk.pending record.1 = some record.2 ∨ entry disk.processing record.1 = some record.2 ∨
    ∃ name content, name.length = 64 ∧ entry disk.spendables name = some content ∧
      record.2 <:+: content

/-- A record's bytes lie inside a claim-queue file whose sweep decoded it and passed its
descriptors to `spend_yuv_spendable_outputs`. -/
def Handed (handed : List (List α)) (content : List α) : Prop :=
  ∃ batch ∈ handed, content <:+: batch

/-- Every staged file lies inside `outputs`. -/
def Covered (processing : Option (Dir α)) (outputs : List α) : Prop :=
  ∀ name content, entry processing name = some content → content <:+: outputs

/-- What the task's position promises about staging, the claim queue and the handed
files: the claim batch being written covers staging, and the claim-queue files already
swept were handed over. -/
def Stage : Pc α → Option (Dir α) → Option (Dir α) → List (List α) → Prop
  | .writeTmp key _ outputs, processing, spendables, _ =>
    Covered processing outputs ∧ key.length = 64 ∧ entry spendables key = none
  | .renameTmp key counter outputs, processing, spendables, _ =>
    Covered processing outputs ∧ key.length = 64 ∧ entry spendables key = none ∧
      entry spendables (tmpFileName key counter) = some outputs
  | .clearStaging key outputs, processing, spendables, _ =>
    Covered processing outputs ∧ key.length = 64 ∧ entry spendables key = some outputs
  | .sweep remaining, _, spendables, handed =>
    ∀ name content, entry spendables name = some content → name ∉ remaining → content ∈ handed
  | .clearQueue, _, spendables, handed =>
    ∀ name content, entry spendables name = some content → content ∈ handed
  | _, _, _, _ => True

/-- The durability invariant of the pipeline. -/
structure Safe (s : Pipeline α) : Prop where
  deposit_keys : ∀ record ∈ s.deposited, record.1.length = 64
  staged_keys : ∀ name, (entry s.disk.processing name).isSome → name.length = 64
  disjoint : ∀ name, (entry s.disk.pending name).isSome → entry s.disk.processing name = none
  durable : ∀ record ∈ s.deposited, Handed s.handed record.2 ∨ Durable s.disk record
  stage : Stage s.pc s.disk.processing s.disk.spendables s.handed

/-- The key-length test is a test of the length 64. -/
@[simp] theorem hasKeyLength_iff (name : FileName) : hasKeyLength name = true ↔ name.length = 64 := by
  simp [hasKeyLength]

/-- Durability survives any change that keeps a record's own intake and staged entries and
every committed claim batch. -/
theorem Durable.mono {disk disk' : Disk α} {record : FileName × List α}
    (durable : Durable disk record)
    (pending : entry disk.pending record.1 = some record.2 →
      entry disk'.pending record.1 = some record.2)
    (processing : entry disk.processing record.1 = some record.2 →
      entry disk'.processing record.1 = some record.2)
    (spendables : ∀ name content, name.length = 64 → entry disk.spendables name = some content →
      entry disk'.spendables name = some content) :
    Durable disk' record := by
  rcases durable with inPending | inProcessing | ⟨name, content, length, committed, segment⟩
  · exact .inl (pending inPending)
  · exact .inr (.inl (processing inProcessing))
  · exact .inr (.inr ⟨name, content, length, spendables name content length committed, segment⟩)

/-- A file handed over stays handed over as more files are handed. -/
theorem Handed.mono {handed handed' : List (List α)} {content : List α}
    (wasHanded : Handed handed content) (grows : ∀ batch ∈ handed, batch ∈ handed') :
    Handed handed' content := by
  obtain ⟨batch, member, segment⟩ := wasHanded
  exact ⟨batch, grows batch member, segment⟩

/-- A fresh node is safe. -/
theorem safe_initial : Safe (Pipeline.initial α) :=
  ⟨by simp [Pipeline.initial], by simp [Pipeline.initial], by simp [Pipeline.initial],
    by simp [Pipeline.initial], trivial⟩

/-- A transition that moves only the task's position keeps the invariant when the new
position's promise holds. -/
theorem Safe.with_pc {s : Pipeline α} (safe : Safe s) (pc : Pc α)
    (stage : Stage pc s.disk.processing s.disk.spendables s.handed) : Safe { s with pc } :=
  ⟨safe.deposit_keys, safe.staged_keys, safe.disjoint, safe.durable, stage⟩

section Transitions

variable (config : SweepConfig Descriptor Key Tx)
variable {s s' : Pipeline α}

/-- A deposit adds a durable record under a fresh key and disturbs no other. -/
theorem safe_deposit [DecidableEq α] [StoredByte α] {random : Bytes} {descriptor : Descriptor} (safe : Safe s)
    (stepped : s.deposit config random descriptor = some s') : Safe s' := by
  simp only [Pipeline.deposit] at stepped
  split at stepped
  · obtain ⟨length, freshPending, freshProcessing⟩ := ‹_ ∧ _ ∧ _›
    cases stepped
    refine ⟨?_, safe.staged_keys, ?_, ?_, safe.stage⟩
    · intro record member
      rcases List.mem_append.mp member with old | added
      · exact safe.deposit_keys record old
      · simp only [List.mem_singleton] at added
        simp [added, hexStr_length, length]
    · intro name written
      by_cases same : name = hexStr random
      · subst same
        exact freshProcessing
      · exact safe.disjoint name (by simpa [same] using written)
    · intro record member
      rcases List.mem_append.mp member with old | added
      · refine (safe.durable record old).imp id fun durable => durable.mono ?_ id
          fun _ _ _ committed => committed
        intro inPending
        have differs : record.1 ≠ hexStr random := fun same => by simp_all
        simp [differs, inPending]
      · simp only [List.mem_singleton] at added
        exact .inr (.inl (by simp [added]))
  · cases stepped

/-- A torn deposit's temporary file is never a record's entry. -/
theorem safe_tornDeposit [StoredByte α] {random : Bytes} {counter written : Nat} {descriptor : Descriptor}
    (safe : Safe s) (stepped : s.tornDeposit config random counter written descriptor = some s') :
    Safe s' := by
  simp only [Pipeline.tornDeposit] at stepped
  split at stepped
  · cases stepped
    have keyLength : (hexStr random).length = 64 := by simp [hexStr_length, *]
    have notKey : ∀ name : FileName, name.length = 64 →
        name ≠ tmpFileName (hexStr random) counter :=
      fun name length same => tmpFileName_ne keyLength length counter same.symm
    refine ⟨safe.deposit_keys, safe.staged_keys, ?_, ?_, safe.stage⟩
    · intro name present
      by_cases same : name = tmpFileName (hexStr random) counter
      · cases hit : entry s.disk.processing name with
        | none => rfl
        | some _ => exact absurd same (notKey name (safe.staged_keys name (by simp [hit])))
      · exact safe.disjoint name (by simpa [same] using present)
    · intro record member
      refine (safe.durable record member).imp id fun durable => durable.mono ?_ id
        fun _ _ _ committed => committed
      intro inPending
      simp [notKey record.1 (safe.deposit_keys record member), inPending]
  · cases stepped

/-- The tick only positions the task. -/
theorem safe_tick [DecidableEq α] {listing : List FileName} (safe : Safe s)
    (stepped : s.tick listing = some s') : Safe s' := by
  unfold Pipeline.tick at stepped
  split at stepped <;> (try split at stepped) <;> cases stepped <;> exact safe.with_pc _ trivial

/-- A move takes a record's intake entry to its staged entry; the two never coexist. -/
theorem safe_moveNext (safe : Safe s) (stepped : s.moveNext = some s') : Safe s' := by
  unfold Pipeline.moveNext at stepped
  split at stepped
  · rename_i name rest _
    split at stepped
    · rename_i keyLength
      cases found : entry s.disk.pending name with
      | none =>
        simp only [moveToProcessing, found, Option.map_none'] at stepped
        cases stepped
        exact safe.with_pc _ trivial
      | some content =>
        simp only [moveToProcessing_exact s.disk name content found] at stepped
        cases stepped
        have fresh : entry s.disk.processing name = none := safe.disjoint name (by simp [found])
        refine ⟨safe.deposit_keys, ?_, ?_, ?_, trivial⟩
        · intro other present
          by_cases same : other = name
          · simpa [same] using keyLength
          · exact safe.staged_keys other (by simpa [same] using present)
        · intro other present
          by_cases same : other = name
          · simp [same] at present
          · simpa [same] using safe.disjoint other (by simpa [same] using present)
        · intro record member
          refine (safe.durable record member).imp id fun durable => ?_
          by_cases same : record.1 = name
          · rcases durable with inPending | inProcessing | committed
            · exact .inr (.inl (by simp_all))
            · simp_all
            · exact .inr (.inr committed)
          · exact durable.mono (by simp [same]) (by simp [same]) fun _ _ _ committed => committed
    · cases stepped
      exact safe.with_pc _ trivial
  · cases stepped

/-- Every staged file `read_dir` lists lies inside the staged bytes. -/
theorem covered_stagedOutputs {processing : Option (Dir α)} {listing : List FileName}
    (listed : ListsOpt processing listing) : Covered processing (stagedOutputs processing listing) := by
  intro name content found
  have member : name ∈ listing := by
    cases processing with
    | none => simp at found
    | some staged =>
      refine (show Lists staged listing from listed).mem_iff.mpr (AList.mem_keys.mp ?_)
      exact AList.lookup_isSome.mp (by simp_all [entry])
  rw [stagedOutputs, List.flatMap_def]
  exact List.infix_of_mem_flatten (List.mem_map.mpr ⟨name, member, by simp [found]⟩)

/-- Gathering promises that the batch about to be written covers staging. -/
theorem safe_gather [DecidableEq α] {listing : List FileName} {random : Bytes} {counter : Nat} (safe : Safe s)
    (stepped : s.gather listing random counter = some s') : Safe s' := by
  unfold Pipeline.gather at stepped
  split at stepped
  · split at stepped
    · obtain ⟨listed, length, fresh⟩ := ‹_ ∧ _ ∧ _›
      dsimp only at stepped
      split at stepped <;> cases stepped
      · exact safe.with_pc _ trivial
      · exact safe.with_pc _ ⟨covered_stagedOutputs listed, by simp [hexStr_length, length], fresh⟩
    · cases stepped
  · cases stepped

/-- Writing the temporary file adds only a name that is no key. -/
theorem safe_writeTmp (safe : Safe s) (stepped : s.writeTmp = some s') : Safe s' := by
  unfold Pipeline.writeTmp at stepped
  split at stepped
  · rename_i key counter outputs pcIs
    cases stepped
    have stage := safe.stage
    rw [pcIs] at stage
    obtain ⟨covered, keyLength, fresh⟩ := stage
    have notKey : ∀ name : FileName, name.length = 64 → name ≠ tmpFileName key counter :=
      fun name length same => tmpFileName_ne keyLength length counter same.symm
    refine ⟨safe.deposit_keys, safe.staged_keys, safe.disjoint, ?_, ?_⟩
    · intro record member
      exact (safe.durable record member).imp id fun durable => durable.mono id id
        fun name _ length committed => by simp [notKey name length, committed]
    · exact ⟨covered, keyLength, by simp [notKey key keyLength, fresh], by simp⟩
  · cases stepped

/-- Renaming the temporary file commits the covering batch under its fresh key. -/
theorem safe_renameTmp (safe : Safe s) (stepped : s.renameTmp = some s') : Safe s' := by
  unfold Pipeline.renameTmp at stepped
  split at stepped
  · rename_i key counter outputs pcIs
    have stage := safe.stage
    rw [pcIs] at stage
    obtain ⟨covered, keyLength, fresh, written⟩ := stage
    simp only [written] at stepped
    cases stepped
    have notKey : ∀ name : FileName, name.length = 64 → name ≠ tmpFileName key counter :=
      fun name length same => tmpFileName_ne keyLength length counter same.symm
    refine ⟨safe.deposit_keys, safe.staged_keys, safe.disjoint, ?_, ⟨covered, keyLength, by simp⟩⟩
    intro record member
    refine (safe.durable record member).imp id fun durable => durable.mono id id ?_
    intro name content length committed
    have differs : name ≠ key := fun same => by simp_all
    simp [differs, notKey name length, committed]
  · cases stepped

/-- An emptied directory has no entry. -/
theorem entry_of_keys_nil {dir : Dir α} (empty : dir.keys = []) (name : FileName) :
    entry (some dir) name = none :=
  AList.lookup_eq_none.mpr fun member => by simp [AList.mem_keys, empty] at member

/-- Unlinking a staged file is covered by the committed batch. -/
theorem safe_unlinkStaged {name : FileName} (safe : Safe s)
    (stepped : s.unlinkStaged name = some s') : Safe s' := by
  unfold Pipeline.unlinkStaged at stepped
  split at stepped
  · rename_i key outputs pcIs
    split at stepped
    · cases stepped
      have stage := safe.stage
      rw [pcIs] at stage
      obtain ⟨covered, keyLength, committed⟩ := stage
      refine ⟨safe.deposit_keys, fun other present => ?_, fun other present => ?_, ?_, ?_⟩
      · exact safe.staged_keys other (by by_cases same : other = name <;> simp_all)
      · by_cases same : other = name
        · simp [same]
        · simpa [same] using safe.disjoint other present
      · intro record member
        refine (safe.durable record member).imp id fun durable => ?_
        by_cases same : record.1 = name
        · rcases durable with inPending | inProcessing | batch
          · exact .inl inPending
          · exact .inr (.inr ⟨key, outputs, keyLength, committed,
              covered record.1 record.2 inProcessing⟩)
          · exact .inr (.inr batch)
        · exact durable.mono id (by simp [same]) fun _ _ _ batch => batch
      · show Stage s.pc _ _ _
        rw [pcIs]
        exact ⟨fun other content found => covered other content (by
          by_cases same : other = name <;> simp_all), keyLength, committed⟩
    · cases stepped
  · cases stepped

/-- Removing the emptied staging directory loses no entry. -/
theorem safe_rmdirStaging (safe : Safe s) (stepped : s.rmdirStaging = some s') : Safe s' := by
  unfold Pipeline.rmdirStaging at stepped
  split at stepped
  · rename_i _ _ staged _ processingIs
    split at stepped
    · cases stepped
      have empty := entry_of_keys_nil ‹staged.keys = []›
      refine ⟨safe.deposit_keys, by simp, by simp, ?_, trivial⟩
      intro record member
      refine (safe.durable record member).imp id fun durable => ?_
      rcases durable with inPending | inProcessing | batch
      · exact .inl inPending
      · simp [processingIs, empty] at inProcessing
      · exact .inr (.inr batch)
    · cases stepped
  · cases stepped
    exact safe.with_pc _ trivial
  · cases stepped

/-- Listing the claim queue: every file is still to be swept. -/
theorem safe_sweepStart [DecidableEq α] {listing : List FileName} (safe : Safe s)
    (stepped : s.sweepStart listing = some s') : Safe s' := by
  unfold Pipeline.sweepStart at stepped
  split at stepped
  · split at stepped <;> cases stepped
    exact safe.with_pc _ trivial
  · rename_i queue _ _
    split at stepped <;> cases stepped
    refine safe.with_pc _ fun name content found unlisted => absurd ?_ unlisted
    refine (show Lists queue listing from ‹_›).mem_iff.mpr (AList.mem_keys.mp ?_)
    exact AList.lookup_isSome.mp (by simp_all [entry])
  · cases stepped

/-- A transition that moves the task and hands more files over keeps the invariant when
the new position's promise holds. -/
theorem Safe.with_handed (safe : Safe s) (pc : Pc α) (handed : List (List α))
    (grows : ∀ batch ∈ s.handed, batch ∈ handed)
    (stage : Stage pc s.disk.processing s.disk.spendables handed) :
    Safe { s with pc, handed } :=
  ⟨safe.deposit_keys, safe.staged_keys, safe.disjoint,
    fun record member => (safe.durable record member).imp (·.mono grows) id, stage⟩

/-- Sweeping a file hands it over before the task moves on. -/
theorem safe_sweepNext [StoredByte α] {env : SweepEnv Key Tx} (safe : Safe s)
    (stepped : s.sweepNext config env = some s') : Safe s' := by
  unfold Pipeline.sweepNext at stepped
  split at stepped
  · rename_i name rest pcIs
    have stage := safe.stage
    rw [pcIs] at stage
    split at stepped
    · cases stepped
      exact safe.with_pc _ trivial
    · rename_i content found
      split at stepped <;> cases stepped
      · rename_i completed
        rw [if_pos (sweepBatch_ok_requests_spend completed)]
        have grows : ∀ batch ∈ s.handed, batch ∈ s.handed ++ [content] :=
          fun batch member => List.mem_append_left _ member
        refine safe.with_handed _ _ grows fun other content' present unlisted => ?_
        by_cases same : other = name
        · simp_all
        · exact grows _ (stage other content' present (by simp [same, unlisted]))
      · exact safe.with_pc _ trivial
  · cases stepped
    have stage := safe.stage
    rw [‹s.pc = .sweep []›] at stage
    exact safe.with_pc _ fun name content present => stage name content present (by simp)
  · cases stepped

/-- Unlinking a claim-queue file loses only files already handed over. -/
theorem safe_unlinkQueued {name : FileName} (safe : Safe s)
    (stepped : s.unlinkQueued name = some s') : Safe s' := by
  unfold Pipeline.unlinkQueued at stepped
  split at stepped
  · rename_i pcIs
    have stage := safe.stage
    rw [pcIs] at stage
    split at stepped
    · cases stepped
      refine ⟨safe.deposit_keys, safe.staged_keys, safe.disjoint, ?_, ?_⟩
      · intro record member
        rcases safe.durable record member with handed | durable
        · exact .inl handed
        · rcases durable with inPending | inProcessing | ⟨batch, content, length, committed, segment⟩
          · exact .inr (.inl inPending)
          · exact .inr (.inr (.inl inProcessing))
          · by_cases same : batch = name
            · exact .inl ⟨content, stage batch content committed, segment⟩
            · exact .inr (.inr (.inr ⟨batch, content, length, by simp [same, committed], segment⟩))
      · show Stage s.pc _ _ _
        rw [pcIs]
        intro other content present
        exact stage other content (by by_cases same : other = name <;> simp_all)
    · cases stepped
  · cases stepped

/-- Removing the emptied claim queue loses no file. -/
theorem safe_rmdirQueue (safe : Safe s) (stepped : s.rmdirQueue = some s') : Safe s' := by
  unfold Pipeline.rmdirQueue at stepped
  split at stepped
  · rename_i _ _ queue _ spendablesIs
    split at stepped
    · cases stepped
      have empty := entry_of_keys_nil ‹queue.keys = []›
      refine ⟨safe.deposit_keys, safe.staged_keys, safe.disjoint, ?_, trivial⟩
      intro record member
      refine (safe.durable record member).imp id fun durable => ?_
      rcases durable with inPending | inProcessing | ⟨batch, content, length, committed, segment⟩
      · exact .inl inPending
      · exact .inr (.inl inProcessing)
      · simp [spendablesIs, empty] at committed
    · cases stepped
  · cases stepped
    exact safe.with_pc _ trivial
  · cases stepped

/-- A torn claim-batch file is never a committed batch. -/
theorem safe_tornCrash {written : Nat} (safe : Safe s) (stepped : s.tornCrash written = some s') :
    Safe s' := by
  unfold Pipeline.tornCrash at stepped
  split at stepped
  · rename_i key counter outputs pcIs
    cases stepped
    have stage := safe.stage
    rw [pcIs] at stage
    have notKey : ∀ name : FileName, name.length = 64 → name ≠ tmpFileName key counter :=
      fun name length same => tmpFileName_ne stage.2.1 length counter same.symm
    refine ⟨safe.deposit_keys, safe.staged_keys, safe.disjoint, ?_, trivial⟩
    intro record member
    exact (safe.durable record member).imp id fun durable => durable.mono id id
      fun name _ length committed => by simp [notKey name length, committed]
  · cases stepped

/-- Every transition keeps the invariant. -/
theorem safe_step [DecidableEq α] [StoredByte α] {action : Action Descriptor Key Tx} (safe : Safe s)
    (stepped : s.step config action = some s') : Safe s' := by
  cases action with
  | deposit => exact safe_deposit config safe stepped
  | tornDeposit => exact safe_tornDeposit config safe stepped
  | tick => exact safe_tick safe stepped
  | moveNext => exact safe_moveNext safe stepped
  | gather => exact safe_gather safe stepped
  | writeTmp => exact safe_writeTmp safe stepped
  | renameTmp => exact safe_renameTmp safe stepped
  | unlinkStaged => exact safe_unlinkStaged safe stepped
  | rmdirStaging => exact safe_rmdirStaging safe stepped
  | sweepStart => exact safe_sweepStart safe stepped
  | sweepNext => exact safe_sweepNext config safe stepped
  | unlinkQueued => exact safe_unlinkQueued safe stepped
  | rmdirQueue => exact safe_rmdirQueue safe stepped
  | crash =>
    cases stepped
    exact safe.with_pc _ trivial
  | tornCrash => exact safe_tornCrash safe stepped

end Transitions

/-- Every reachable state is safe. -/
theorem safe_of_reachable [DecidableEq α] [StoredByte α] {config : SweepConfig Descriptor Key Tx}
    {s : Pipeline α} (reachable : Reachable config s) : Safe s := by
  induction reachable with
  | initial => exact safe_initial
  | step _ _ stepped inductionHypothesis => exact safe_step config inductionHypothesis stepped

end YuvLdkSample
