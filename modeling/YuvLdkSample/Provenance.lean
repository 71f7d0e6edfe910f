import YuvLdkSample.Durability

/-!
# No deposit in two claim batches, when no crash hits the claim-batch window

A crash after a claim batch is committed and before staging is removed makes the next tick
commit staging again, so one deposit lies in two claim-queue files. Everywhere else a crash is
harmless for duplication: every deposit is in at most one claim-queue file at any time.

Which deposit a byte belongs to is not visible in the bytes (two deposits of the same
descriptor write the same bytes), so the statement is made over the provenance view of the
store, where every stored byte carries the number of the deposit that wrote it (the
`StoredByte (Nat × UInt8)` instance). The pipeline's transitions read only the bytes, so
this view runs the same code.

The invariant `Unique` says where a deposit's bytes may be at once: in one intake entry, or
in staging, or in one claim-queue file; only inside the window may a staged deposit also be
in the batch being committed (`Window`).
-/

namespace YuvLdkSample

variable {α Descriptor Key Tx : Type}

/-- A stored byte of the provenance view: the deposit that wrote it and the byte. -/
abbrev Tagged := Nat × UInt8

/-- The deposits that have a byte in a file. -/
def depositsIn (content : List Tagged) : List Nat := content.map Prod.fst

/-- A deposit has a byte in the entry of a directory. -/
def InEntry (dir : Option (Dir Tagged)) (name : FileName) (deposit : Nat) : Prop :=
  ∃ content, entry dir name = some content ∧ deposit ∈ depositsIn content

/-- A missing directory holds no deposit. -/
@[simp] theorem inEntry_none (name : FileName) (deposit : Nat) : ¬ InEntry none name deposit :=
  fun ⟨_, found, _⟩ => by cases found

/-- Where a deposit is after a file is written. -/
@[simp] theorem inEntry_writeEntry (dir : Option (Dir Tagged)) (name other : FileName)
    (content : List Tagged) (deposit : Nat) :
    InEntry (writeEntry dir name content) other deposit ↔
      if other = name then deposit ∈ depositsIn content else InEntry dir other deposit := by
  by_cases same : other = name <;> simp [InEntry, same]

/-- Where a deposit is after a file is removed. -/
@[simp] theorem inEntry_removeEntry (dir : Option (Dir Tagged)) (name other : FileName)
    (deposit : Nat) :
    InEntry (removeEntry dir name) other deposit ↔ other ≠ name ∧ InEntry dir other deposit := by
  by_cases same : other = name <;> simp [InEntry, same]

/-- The bytes a deposit stores all carry its number. -/
theorem depositsIn_stored (codec : SelfFramingCodec Descriptor) (deposit : Nat)
    (descriptor : Descriptor) {other : Nat}
    (member : other ∈ depositsIn (Pipeline.stored codec deposit descriptor)) : other = deposit := by
  simp only [depositsIn, Pipeline.stored, List.map_map, List.mem_map, Function.comp_apply] at member
  obtain ⟨_, _, same⟩ := member
  exact same.symm

/-- The positions of the task inside the claim-batch window: from the start of the claim
batch's write to the end of `remove_dir_all(processing)`. -/
def Pc.inWindow : Pc α → Bool
  | .writeTmp .. | .renameTmp .. | .clearStaging .. => true
  | _ => false

/-- Whether an action is a crash. -/
def Action.isCrash : Action Descriptor Key Tx → Bool
  | .crash | .tornCrash _ => true
  | _ => false

/-- The states reached by runs in which no crash falls inside the claim-batch window;
deposits, torn deposits and crashes anywhere else interleave freely. -/
inductive CalmReachable [DecidableEq α] [StoredByte α] (config : SweepConfig Descriptor Key Tx) :
    Pipeline α → Prop
  | initial : CalmReachable config (Pipeline.initial α)
  | step {s s' : Pipeline α} (action : Action Descriptor Key Tx) : CalmReachable config s →
      (action.isCrash && s.pc.inWindow) = false → s.step config action = some s' →
      CalmReachable config s'

/-- A calm run is a run. -/
theorem CalmReachable.reachable [DecidableEq α] [StoredByte α]
    {config : SweepConfig Descriptor Key Tx} {s : Pipeline α} (calm : CalmReachable config s) :
    Reachable config s := by
  induction calm with
  | initial => exact .initial
  | step action _ _ stepped inductionHypothesis => exact .step action inductionHypothesis stepped

/-- No staged deposit has a byte in a claim-queue file whose name passes `outside`. -/
def StagedApart (processing spendables : Option (Dir Tagged)) (outside : FileName → Prop) : Prop :=
  ∀ name name' deposit, InEntry processing name deposit → outside name' →
    ¬ InEntry spendables name' deposit

/-- What the task's position allows between staging and the claim queue. Outside the window
no deposit is in both; inside it, the batch being committed holds only staged deposits and is
the one claim-queue file that may share them. -/
def Window : Pc Tagged → Option (Dir Tagged) → Option (Dir Tagged) → Prop
  | .writeTmp _ _ outputs, processing, spendables =>
    (∀ deposit ∈ depositsIn outputs, ∃ name, InEntry processing name deposit) ∧
      StagedApart processing spendables fun _ => True
  | .renameTmp key counter outputs, processing, spendables =>
    (∀ deposit ∈ depositsIn outputs, ∃ name, InEntry processing name deposit) ∧
      StagedApart processing spendables (· ≠ tmpFileName key counter)
  | .clearStaging key _, processing, spendables => StagedApart processing spendables (· ≠ key)
  | _, processing, spendables => StagedApart processing spendables fun _ => True

/-- Outside the window, `Window` is plain separation of staging and the claim queue. -/
theorem window_iff {pc : Pc Tagged} (outside : pc.inWindow = false)
    {processing spendables : Option (Dir Tagged)} :
    Window pc processing spendables ↔ StagedApart processing spendables fun _ => True := by
  cases pc <;> first | exact Iff.rfl | cases outside

/-- Where a deposit's bytes may be at once. -/
structure Unique (s : Pipeline Tagged) : Prop where
  /-- Every deposit on disk, outside the temporary files of the intake, was completed. -/
  fresh : ∀ name deposit,
    (name.length = 64 ∧ InEntry s.disk.pending name deposit) ∨ InEntry s.disk.processing name deposit ∨
      InEntry s.disk.spendables name deposit → deposit < s.deposited.length
  /-- A deposit is in at most one intake entry. -/
  intake : ∀ name name' deposit, name.length = 64 → name'.length = 64 →
    InEntry s.disk.pending name deposit → InEntry s.disk.pending name' deposit → name = name'
  /-- A deposit in the intake is nowhere else. -/
  intakeApart : ∀ name name' deposit, name.length = 64 → InEntry s.disk.pending name deposit →
    ¬ InEntry s.disk.processing name' deposit ∧ ¬ InEntry s.disk.spendables name' deposit
  /-- A deposit is in at most one claim-queue file. -/
  queue : ∀ name name' deposit, InEntry s.disk.spendables name deposit →
    InEntry s.disk.spendables name' deposit → name = name'
  window : Window s.pc s.disk.processing s.disk.spendables

/-- A fresh node has no deposit anywhere. -/
theorem unique_initial : Unique (Pipeline.initial Tagged) where
  fresh _ _ present := by simp [Pipeline.initial] at present
  intake _ _ _ _ _ present := by simp [Pipeline.initial] at present
  intakeApart _ _ _ _ present := by simp [Pipeline.initial] at present
  queue _ _ _ present := by simp [Pipeline.initial] at present
  window _ _ _ present := by simp [Pipeline.initial] at present

/-- A transition that moves only the task's position, or hands files over, keeps the
invariant when the new position's promise holds. -/
theorem Unique.with_pc {s : Pipeline Tagged} (unique : Unique s) (pc : Pc Tagged)
    (handed : List (List Tagged))
    (window : Window pc s.disk.processing s.disk.spendables) :
    Unique { s with pc, handed } :=
  ⟨unique.fresh, unique.intake, unique.intakeApart, unique.queue, window⟩

/-- Outside the window, the task may move to any other position outside it. -/
theorem Unique.window_outside {s : Pipeline Tagged} (unique : Unique s)
    (outside : s.pc.inWindow = false) {pc : Pc Tagged} (outside' : pc.inWindow = false) :
    Window pc s.disk.processing s.disk.spendables :=
  (window_iff outside').mpr ((window_iff outside).mp unique.window)

section Transitions

variable (config : SweepConfig Descriptor Key Tx)
variable {s s' : Pipeline Tagged}

/-- A deposit brings a number no byte on disk carries yet. -/
theorem unique_deposit {random : Bytes} {descriptor : Descriptor} (unique : Unique s)
    (stepped : s.deposit config random descriptor = some s') : Unique s' := by
  simp only [Pipeline.deposit] at stepped
  split at stepped
  · cases stepped
    have tagged := @depositsIn_stored _ config.codec s.deposited.length descriptor
    have older : ∀ name deposit, InEntry s.disk.processing name deposit ∨
        InEntry s.disk.spendables name deposit → deposit ≠ s.deposited.length :=
      fun name deposit present same =>
        Nat.lt_irrefl _ (same ▸ unique.fresh name deposit (.inr present))
    refine ⟨?_, ?_, ?_, unique.queue, unique.window⟩
    · intro name deposit present
      simp only [inEntry_writeEntry, List.length_append, List.length_singleton] at present ⊢
      rcases present with ⟨length, inPending⟩ | present
      · split at inPending
        · exact tagged inPending ▸ Nat.lt_succ_self _
        · exact Nat.lt_succ_of_lt (unique.fresh name deposit (.inl ⟨length, inPending⟩))
      · exact Nat.lt_succ_of_lt (unique.fresh name deposit (.inr present))
    · intro name name' deposit length length' inPending inPending'
      simp only [inEntry_writeEntry] at inPending inPending'
      split at inPending <;> split at inPending'
      · simp_all
      · exact absurd (unique.fresh name' deposit (.inl ⟨length', inPending'⟩))
          (tagged inPending ▸ Nat.lt_irrefl _)
      · exact absurd (unique.fresh name deposit (.inl ⟨length, inPending⟩))
          (tagged inPending' ▸ Nat.lt_irrefl _)
      · exact unique.intake name name' deposit length length' inPending inPending'
    · intro name name' deposit length inPending
      simp only [inEntry_writeEntry] at inPending
      split at inPending
      · exact ⟨fun present => older name' deposit (.inl present) (tagged inPending),
          fun present => older name' deposit (.inr present) (tagged inPending)⟩
      · exact unique.intakeApart name name' deposit length inPending
  · cases stepped

/-- A torn deposit's temporary file is no entry the invariant looks at. -/
theorem unique_tornDeposit {random : Bytes} {counter written : Nat} {descriptor : Descriptor}
    (unique : Unique s) (stepped : s.tornDeposit config random counter written descriptor = some s') :
    Unique s' := by
  simp only [Pipeline.tornDeposit] at stepped
  split at stepped
  · cases stepped
    have keyLength : (hexStr random).length = 64 := by simp [hexStr_length, *]
    have kept : ∀ name deposit, name.length = 64 →
        (InEntry (writeEntry s.disk.pending (tmpFileName (hexStr random) counter)
          ((Pipeline.stored config.codec s.deposited.length descriptor).take written)) name deposit ↔
          InEntry s.disk.pending name deposit) := fun name deposit length => by
      simp [tmpFileName_ne keyLength length counter |>.symm]
    refine ⟨fun name deposit present => unique.fresh name deposit ?_, fun name name' deposit length
      length' inPending inPending' => unique.intake name name' deposit length length'
      ((kept name deposit length).mp inPending) ((kept name' deposit length').mp inPending'),
      fun name name' deposit length inPending => unique.intakeApart name name' deposit length
      ((kept name deposit length).mp inPending), unique.queue, unique.window⟩
    rcases present with ⟨length, inPending⟩ | present
    · exact .inl ⟨length, (kept name deposit length).mp inPending⟩
    · exact .inr present
  · cases stepped

/-- The tick only positions the task, outside the window. -/
theorem unique_tick {listing : List FileName} (unique : Unique s)
    (stepped : s.tick listing = some s') : Unique s' := by
  unfold Pipeline.tick at stepped
  split at stepped <;> (try split at stepped) <;> cases stepped <;>
    exact unique.with_pc _ s.handed (unique.window_outside (by rw [‹s.pc = .top›]; rfl) rfl)

/-- A move takes a deposit from its intake entry to its staged entry. -/
theorem unique_moveNext (unique : Unique s) (stepped : s.moveNext = some s') : Unique s' := by
  unfold Pipeline.moveNext at stepped
  split at stepped
  · rename_i name rest pcIs
    have outside : s.pc.inWindow = false := by rw [pcIs]; rfl
    split at stepped
    · rename_i keyLength
      cases found : entry s.disk.pending name with
      | none =>
        simp only [moveToProcessing, found, Option.map_none'] at stepped
        cases stepped
        exact unique.with_pc _ s.handed (unique.window_outside outside rfl)
      | some content =>
        simp only [moveToProcessing_exact s.disk name content found] at stepped
        cases stepped
        have length : name.length = 64 := by simpa using keyLength
        have moved : ∀ deposit ∈ depositsIn content, InEntry s.disk.pending name deposit :=
          fun _ member => ⟨content, found, member⟩
        refine ⟨?_, ?_, ?_, unique.queue, ?_⟩
        · intro other deposit present
          simp only [inEntry_removeEntry, inEntry_writeEntry] at present
          rcases present with ⟨otherLength, _, inPending⟩ | inProcessing | inQueue
          · exact unique.fresh other deposit (.inl ⟨otherLength, inPending⟩)
          · split at inProcessing
            · exact unique.fresh name deposit (.inl ⟨length, moved deposit inProcessing⟩)
            · exact unique.fresh other deposit (.inr (.inl inProcessing))
          · exact unique.fresh other deposit (.inr (.inr inQueue))
        · intro other other' deposit otherLength otherLength' inPending inPending'
          simp only [inEntry_removeEntry] at inPending inPending'
          exact unique.intake other other' deposit otherLength otherLength' inPending.2 inPending'.2
        · intro other other' deposit otherLength inPending
          simp only [inEntry_removeEntry, inEntry_writeEntry] at inPending ⊢
          refine ⟨?_, (unique.intakeApart other other' deposit otherLength inPending.2).2⟩
          split
          · exact fun member => inPending.1
              (unique.intake other name deposit otherLength length inPending.2 (moved deposit member))
          · exact (unique.intakeApart other other' deposit otherLength inPending.2).1
        · intro staged other deposit inProcessing _ inQueue
          simp only [inEntry_writeEntry] at inProcessing
          split at inProcessing
          · exact (unique.intakeApart name other deposit length (moved deposit inProcessing)).2 inQueue
          · exact (window_iff outside).mp unique.window staged other deposit inProcessing trivial inQueue
    · cases stepped
      exact unique.with_pc _ s.handed (unique.window_outside outside rfl)
  · cases stepped

/-- Every deposit in the staged bytes has a staged entry. -/
theorem inEntry_of_stagedOutputs {processing : Option (Dir Tagged)} {listing : List FileName}
    {deposit : Nat} (member : deposit ∈ depositsIn (stagedOutputs processing listing)) :
    ∃ name, InEntry processing name deposit := by
  simp only [depositsIn, stagedOutputs, List.mem_map, List.mem_flatMap] at member
  obtain ⟨byte, ⟨name, _, inside⟩, rfl⟩ := member
  cases found : entry processing name with
  | none => simp [found] at inside
  | some content => exact ⟨name, content, found, List.mem_map_of_mem _ (by simpa [found] using inside)⟩

/-- Gathering promises that the batch about to be written holds only staged deposits. -/
theorem unique_gather {listing : List FileName} {random : Bytes} {counter : Nat}
    (unique : Unique s) (stepped : s.gather listing random counter = some s') : Unique s' := by
  unfold Pipeline.gather at stepped
  split at stepped
  · rename_i pcIs
    have outside : s.pc.inWindow = false := by rw [pcIs]; rfl
    split at stepped
    · dsimp only at stepped
      split at stepped <;> cases stepped
      · exact unique.with_pc _ s.handed (unique.window_outside outside rfl)
      · exact unique.with_pc _ s.handed
          ⟨fun _ member => inEntry_of_stagedOutputs member, (window_iff outside).mp unique.window⟩
    · cases stepped
  · cases stepped

/-- Committing a file of staged deposits to the claim queue keeps the invariant, when the
rest of the queue is what `keep` lets through and shares no deposit with staging: every
deposit of the committed file is still staged, so it is in no other queue file and in no
intake entry.

Proof: one case per field; a deposit of the committed file is traced back to its staged
entry, every other queue entry is an old one. -/
theorem Unique.commit (unique : Unique s) {key : FileName} {outputs : List Tagged}
    {keep : FileName → Prop} {spendables : Option (Dir Tagged)}
    (committed : ∀ name deposit, InEntry spendables name deposit ↔
      if name = key then deposit ∈ depositsIn outputs
      else keep name ∧ InEntry s.disk.spendables name deposit)
    (staged : ∀ deposit ∈ depositsIn outputs, ∃ name, InEntry s.disk.processing name deposit)
    (apart : StagedApart s.disk.processing s.disk.spendables keep) {pc : Pc Tagged}
    (window : StagedApart s.disk.processing spendables (· ≠ key) →
      Window pc s.disk.processing spendables) :
    Unique { s with disk := { s.disk with spendables }, pc } := by
  refine ⟨?_, unique.intake, ?_, ?_, window fun name name' deposit inProcessing notKey inQueue => ?_⟩
  · intro name deposit present
    rcases present with inPending | inProcessing | inQueue
    · exact unique.fresh name deposit (.inl inPending)
    · exact unique.fresh name deposit (.inr (.inl inProcessing))
    · have inQueue := (committed name deposit).mp inQueue
      split at inQueue
      · obtain ⟨other, inProcessing⟩ := staged deposit inQueue
        exact unique.fresh other deposit (.inr (.inl inProcessing))
      · exact unique.fresh name deposit (.inr (.inr inQueue.2))
  · intro name name' deposit length inPending
    refine ⟨(unique.intakeApart name name' deposit length inPending).1, fun inQueue => ?_⟩
    have inQueue := (committed name' deposit).mp inQueue
    split at inQueue
    · obtain ⟨other, inProcessing⟩ := staged deposit inQueue
      exact (unique.intakeApart name other deposit length inPending).1 inProcessing
    · exact (unique.intakeApart name name' deposit length inPending).2 inQueue.2
  · intro name name' deposit inQueue inQueue'
    have inQueue := (committed name deposit).mp inQueue
    have inQueue' := (committed name' deposit).mp inQueue'
    split at inQueue <;> split at inQueue'
    · rename_i same same'
      exact same.trans same'.symm
    · obtain ⟨other, inProcessing⟩ := staged deposit inQueue
      exact absurd inQueue'.2 (apart other name' deposit inProcessing inQueue'.1)
    · obtain ⟨other, inProcessing⟩ := staged deposit inQueue'
      exact absurd inQueue.2 (apart other name deposit inProcessing inQueue.1)
    · exact unique.queue name name' deposit inQueue.2 inQueue'.2
  · have inQueue := (committed name' deposit).mp inQueue
    rw [if_neg notKey] at inQueue
    exact apart name name' deposit inProcessing inQueue.1 inQueue.2

/-- Writing the temporary file puts only staged deposits into the claim queue. -/
theorem unique_writeTmp (unique : Unique s) (stepped : s.writeTmp = some s') : Unique s' := by
  unfold Pipeline.writeTmp at stepped
  split at stepped
  · rename_i key counter outputs pcIs
    cases stepped
    have window := unique.window
    rw [pcIs] at window
    obtain ⟨staged, apart⟩ := window
    exact unique.commit (fun _ _ => by simp) staged apart fun apart' => ⟨staged, apart'⟩
  · cases stepped

/-- Renaming the temporary file commits the batch; staging shares deposits with it only. -/
theorem unique_renameTmp (safe : Safe s) (unique : Unique s) (stepped : s.renameTmp = some s') :
    Unique s' := by
  unfold Pipeline.renameTmp at stepped
  split at stepped
  · rename_i key counter outputs pcIs
    have window := unique.window
    rw [pcIs] at window
    obtain ⟨staged, apart⟩ := window
    have stage := safe.stage
    rw [pcIs] at stage
    simp only [stage.2.2.2] at stepped
    cases stepped
    exact unique.commit (fun _ _ => by simp) staged apart id
  · cases stepped

/-- Unlinking a staged file removes a deposit from staging only. -/
theorem unique_unlinkStaged {name : FileName} (unique : Unique s)
    (stepped : s.unlinkStaged name = some s') : Unique s' := by
  unfold Pipeline.unlinkStaged at stepped
  split at stepped
  · rename_i key outputs pcIs
    split at stepped
    · cases stepped
      have window := unique.window
      rw [pcIs] at window
      refine ⟨fun other deposit present => unique.fresh other deposit ?_, unique.intake,
        fun other other' deposit length inPending => ?_, unique.queue, ?_⟩
      · simp only [inEntry_removeEntry] at present
        exact present.imp_right (Or.imp_left And.right)
      · simp only [inEntry_removeEntry, not_and]
        exact ⟨fun _ => (unique.intakeApart other other' deposit length inPending).1,
          (unique.intakeApart other other' deposit length inPending).2⟩
      · show Window s.pc _ _
        rw [pcIs]
        intro staged other deposit inProcessing notKey
        simp only [inEntry_removeEntry] at inProcessing
        exact window staged other deposit inProcessing.2 notKey
    · cases stepped
  · cases stepped

/-- Removing the emptied staging directory ends the window with no staged deposit. -/
theorem unique_rmdirStaging (unique : Unique s) (stepped : s.rmdirStaging = some s') :
    Unique s' := by
  unfold Pipeline.rmdirStaging at stepped
  split at stepped
  · split at stepped
    · cases stepped
      refine ⟨fun name deposit present => unique.fresh name deposit ?_, unique.intake,
        fun name name' deposit length inPending =>
          ⟨inEntry_none _ _, (unique.intakeApart name name' deposit length inPending).2⟩,
        unique.queue, fun _ _ _ inProcessing => absurd inProcessing (inEntry_none _ _)⟩
      rcases present with inPending | inProcessing | inQueue
      · exact .inl inPending
      · exact absurd inProcessing (inEntry_none _ _)
      · exact .inr (.inr inQueue)
    · cases stepped
  · rename_i processingIs
    cases stepped
    exact unique.with_pc _ s.handed fun _ _ _ inProcessing =>
      absurd (processingIs ▸ inProcessing) (inEntry_none _ _)
  · cases stepped

/-- Listing the claim queue only positions the task. -/
theorem unique_sweepStart {listing : List FileName} (unique : Unique s)
    (stepped : s.sweepStart listing = some s') : Unique s' := by
  unfold Pipeline.sweepStart at stepped
  split at stepped <;> (try split at stepped) <;> cases stepped <;>
    exact unique.with_pc _ s.handed (unique.window_outside (by rw [‹s.pc = .sweepStart›]; rfl) rfl)

/-- Sweeping a file moves the task and hands files over; the disk stays. -/
theorem unique_sweepNext {env : SweepEnv Key Tx} (unique : Unique s)
    (stepped : s.sweepNext config env = some s') : Unique s' := by
  unfold Pipeline.sweepNext at stepped
  split at stepped
  · rename_i pcIs
    have outside : s.pc.inWindow = false := by rw [pcIs]; rfl
    split at stepped
    · cases stepped
      exact unique.with_pc _ s.handed (unique.window_outside outside rfl)
    · split at stepped <;> cases stepped <;>
        exact unique.with_pc _ _ (unique.window_outside outside rfl)
  · cases stepped
    exact unique.with_pc _ s.handed (unique.window_outside (by rw [‹s.pc = .sweep []›]; rfl) rfl)
  · cases stepped

/-- Unlinking a claim-queue file removes deposits from the claim queue only. -/
theorem unique_unlinkQueued {name : FileName} (unique : Unique s)
    (stepped : s.unlinkQueued name = some s') : Unique s' := by
  unfold Pipeline.unlinkQueued at stepped
  split at stepped
  · rename_i pcIs
    split at stepped
    · cases stepped
      have window := unique.window
      rw [pcIs] at window
      refine ⟨fun other deposit present => unique.fresh other deposit ?_, unique.intake,
        fun other other' deposit length inPending => ?_,
        fun other other' deposit inQueue inQueue' => ?_, ?_⟩
      · simp only [inEntry_removeEntry] at present
        exact present.imp_right (Or.imp_right And.right)
      · simp only [inEntry_removeEntry, not_and]
        exact ⟨(unique.intakeApart other other' deposit length inPending).1,
          fun _ => (unique.intakeApart other other' deposit length inPending).2⟩
      · simp only [inEntry_removeEntry] at inQueue inQueue'
        exact unique.queue other other' deposit inQueue.2 inQueue'.2
      · show Window s.pc _ _
        rw [pcIs]
        intro staged other deposit inProcessing _ inQueue
        simp only [inEntry_removeEntry] at inQueue
        exact window staged other deposit inProcessing trivial inQueue.2
    · cases stepped
  · cases stepped

/-- Removing the emptied claim queue ends the tick. -/
theorem unique_rmdirQueue (unique : Unique s) (stepped : s.rmdirQueue = some s') : Unique s' := by
  unfold Pipeline.rmdirQueue at stepped
  have outside : s.pc.inWindow = false := by
    split at stepped <;> first | (rw [‹s.pc = .clearQueue›]; rfl) | cases stepped
  split at stepped
  · split at stepped
    · cases stepped
      refine ⟨fun name deposit present => unique.fresh name deposit ?_, unique.intake,
        fun name name' deposit length inPending =>
          ⟨(unique.intakeApart name name' deposit length inPending).1, inEntry_none _ _⟩,
        fun _ _ _ inQueue => absurd inQueue (inEntry_none _ _),
        fun _ _ _ _ _ inQueue => absurd inQueue (inEntry_none _ _)⟩
      rcases present with inPending | inProcessing | inQueue
      · exact .inl inPending
      · exact .inr (.inl inProcessing)
      · exact absurd inQueue (inEntry_none _ _)
    · cases stepped
  · cases stepped
    exact unique.with_pc _ s.handed (unique.window_outside outside rfl)
  · cases stepped

/-- Every transition of a calm run keeps the invariant. -/
theorem unique_step {action : Action Descriptor Key Tx} (safe : Safe s)
    (unique : Unique s) (calm : (action.isCrash && s.pc.inWindow) = false)
    (stepped : s.step config action = some s') : Unique s' := by
  cases action with
  | deposit => exact unique_deposit config unique stepped
  | tornDeposit => exact unique_tornDeposit config unique stepped
  | tick => exact unique_tick unique stepped
  | moveNext => exact unique_moveNext unique stepped
  | gather => exact unique_gather unique stepped
  | writeTmp => exact unique_writeTmp unique stepped
  | renameTmp => exact unique_renameTmp safe unique stepped
  | unlinkStaged => exact unique_unlinkStaged unique stepped
  | rmdirStaging => exact unique_rmdirStaging unique stepped
  | sweepStart => exact unique_sweepStart unique stepped
  | sweepNext => exact unique_sweepNext config unique stepped
  | unlinkQueued => exact unique_unlinkQueued unique stepped
  | rmdirQueue => exact unique_rmdirQueue unique stepped
  | crash =>
    cases stepped
    simp only [Action.isCrash, Bool.true_and] at calm
    exact unique.with_pc _ s.handed (unique.window_outside calm rfl)
  | tornCrash =>
    simp only [Action.isCrash, Bool.true_and] at calm
    have torn : s.tornCrash _ = some s' := stepped
    unfold Pipeline.tornCrash at torn
    split at torn
    · rename_i pcIs
      rw [pcIs] at calm
      cases calm
    · cases torn

end Transitions

/-- Every state of a calm run satisfies the invariant. -/
theorem unique_of_calmReachable {config : SweepConfig Descriptor Key Tx} {s : Pipeline Tagged}
    (calm : CalmReachable config s) : Unique s := by
  induction calm with
  | initial => exact unique_initial
  | step action previous quiet stepped inductionHypothesis =>
    exact unique_step config (safe_of_reachable previous.reachable) inductionHypothesis quiet stepped

/-- No deposit is in two claim batches when no crash hits the claim-batch window. In every run
of the sweep task in which no crash falls between the start of the claim batch's write and the
end of `remove_dir_all(processing)`, with deposits, torn deposits and crashes anywhere else,
no deposit has a byte in two files of the claim queue at the same time. One sweep phase
therefore never hands a deposit's descriptor to the signer in two batches.

Proof: `Unique` holds at the start and after every transition of a calm run. Its `window`
field is what makes the commit safe: staged deposits are in no claim-queue file before the
batch is written, and afterwards only in the batch, until staging is removed. -/
theorem claim_batches_share_no_deposit {config : SweepConfig Descriptor Key Tx}
    {s : Pipeline Tagged} (calm : CalmReachable config s) {first second : FileName}
    (apart : first ≠ second) (deposit : Nat) :
    ¬ (InEntry s.disk.spendables first deposit ∧ InEntry s.disk.spendables second deposit) :=
  fun ⟨inFirst, inSecond⟩ =>
    apart ((unique_of_calmReachable calm).queue first second deposit inFirst inSecond)

/-- Take a list of transitions in order, refusing a crash inside the claim-batch window. -/
def Pipeline.calmRun [DecidableEq α] [StoredByte α] (config : SweepConfig Descriptor Key Tx) :
    Pipeline α → List (Action Descriptor Key Tx) → Option (Pipeline α)
  | s, [] => some s
  | s, action :: rest =>
    if (action.isCrash && s.pc.inWindow) = false then
      (s.step config action).bind (Pipeline.calmRun config · rest)
    else none

/-- A calm run of transitions from a calm state ends in a calm state. -/
theorem calmReachable_calmRun [DecidableEq α] [StoredByte α] (config : SweepConfig Descriptor Key Tx)
    (actions : List (Action Descriptor Key Tx)) {s s' : Pipeline α} (calm : CalmReachable config s)
    (ran : s.calmRun config actions = some s') : CalmReachable config s' := by
  induction actions generalizing s with
  | nil =>
    cases ran
    exact calm
  | cons action rest inductionHypothesis =>
    simp only [Pipeline.calmRun] at ran
    split at ran
    · rename_i quiet
      simp only [Option.bind_eq_some] at ran
      obtain ⟨middle, stepped, more⟩ := ran
      exact inductionHypothesis (.step action calm quiet stepped) more
    · cases ran

end YuvLdkSample
