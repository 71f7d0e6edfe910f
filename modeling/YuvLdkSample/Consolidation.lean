import YuvLdkSample.Store

/-!
# One consolidation of the intake

The first half of a tick of `periodic_sweep` (sweep.rs:60-90). When the intake
directory exists, every entry whose name is 64 bytes long is renamed into staging.
Then every staged file, leftovers of an interrupted tick included, is read and
appended; a non-empty result is written as one claim batch under a fresh random key,
and staging is removed.

This module runs the consolidation without interruption, as one function of the disk
and of the orders in which `read_dir` lists the two directories. Crashes between its
file-system calls, and deposits that interleave with them, are the pipeline's concern.
-/

namespace YuvLdkSample

variable {α : Type}

/-- `fs::read_dir` lists every entry of an existing directory exactly once. -/
def Lists (dir : Dir α) (names : List FileName) : Prop := names.Perm dir.keys

instance [DecidableEq α] (dir : Dir α) (names : List FileName) : Decidable (Lists dir names) :=
  inferInstanceAs (Decidable (names.Perm dir.keys))

/-- A listing of a directory that may not exist; a missing one lists nothing. -/
def ListsOpt (dir : Option (Dir α)) (names : List FileName) : Prop :=
  match dir with
  | none => names = []
  | some present => Lists present names

instance [DecidableEq α] (dir : Option (Dir α)) (names : List FileName) :
    Decidable (ListsOpt dir names) :=
  match dir with
  | none => inferInstanceAs (Decidable (names = []))
  | some present => inferInstanceAs (Decidable (Lists present names))

/-- Distinct names that are exactly the files of a directory list it, whether it exists or
not. -/
theorem listsOpt_of_mem {dir : Option (Dir α)} {names : List FileName} (distinct : names.Nodup)
    (member : ∀ name, name ∈ names ↔ (entry dir name).isSome) : ListsOpt dir names := by
  cases dir with
  | none => exact List.eq_nil_iff_forall_not_mem.2 fun name => by simpa using member name
  | some present =>
    refine (List.perm_ext_iff_of_nodup distinct present.keys_nodup).2 fun name => ?_
    rw [member, ← AList.mem_keys, ← AList.lookup_isSome]
    rfl

/-- `fs::create_dir_all(processing)` and `fs::rename(pending/name, processing/name)`,
sweep.rs:68-72. A missing source makes `rename` fail and its `unwrap` panic: `none`.
An existing staged file of the same name is replaced. -/
def moveToProcessing (disk : Disk α) (name : FileName) : Option (Disk α) :=
  (entry disk.pending name).map fun content =>
    { disk with
      pending := removeEntry disk.pending name
      processing := writeEntry disk.processing name content }

/-- The intake loop of sweep.rs:63-74 over the names `read_dir` listed, in that order. -/
def intakeLoop : List FileName → Disk α → Option (Disk α)
  | [], disk => some disk
  | name :: rest, disk =>
    if hasKeyLength name then (moveToProcessing disk name).bind (intakeLoop rest)
    else intakeLoop rest disk

/-- The staged bytes of sweep.rs:77-82: the files `read_dir` lists in staging, read and
appended in that order. A staging directory that does not exist gives nothing. -/
def stagedOutputs (processing : Option (Dir α)) (listing : List FileName) : List α :=
  listing.flatMap fun name => (entry processing name).getD []

/-- `WithoutLength(&outputs).encode()`: the bytes themselves, with no length prefix. -/
def withoutLength (outputs : List α) : List α := outputs

/-- sweep.rs:83-89: a non-empty staged result is written under `key` and staging is
removed; an empty one writes nothing and leaves staging as it is. -/
def commitStaged (disk : Disk α) (listing : List FileName) (key : FileName) : Disk α :=
  let outputs := stagedOutputs disk.processing listing
  if outputs.isEmpty then disk
  else { disk with
    spendables := writeEntry disk.spendables key (withoutLength outputs)
    processing := none }

/-- One consolidation, sweep.rs:60-90, without interruption: nothing when the intake
directory does not exist, otherwise the intake loop over `intakeOrder`, then the staged
files read in `stagedOrder` and committed under `key`. -/
def consolidate (disk : Disk α) (intakeOrder stagedOrder : List FileName) (key : FileName) :
    Option (Disk α) :=
  match disk.pending with
  | none => some disk
  | some _ => (intakeLoop intakeOrder disk).map fun moved => commitStaged moved stagedOrder key

/-- What a move does to each directory: the named entry leaves the intake for staging. -/
theorem moveToProcessing_exact (disk : Disk α) (name : FileName) (content : List α)
    (present : entry disk.pending name = some content) :
    moveToProcessing disk name = some { disk with
      pending := removeEntry disk.pending name
      processing := writeEntry disk.processing name content } := by
  simp [moveToProcessing, present]

/-- The intake loop over distinct names that are all present moves exactly the listed
names of key length, each with its content, and never fails.

Proof: induction on the listing. A moved name leaves the intake, and the remaining
names are distinct from it, so they are still present when the loop reaches them. -/
theorem intakeLoop_exact (order : List FileName) (disk : Disk α) (distinct : order.Nodup)
    (present : ∀ name ∈ order, entry disk.pending name ≠ none) :
    ∃ moved, intakeLoop order disk = some moved ∧
      moved.spendables = disk.spendables ∧
      (∀ name, entry moved.pending name =
        if name ∈ order ∧ hasKeyLength name then none else entry disk.pending name) ∧
      (∀ name, entry moved.processing name =
        if name ∈ order ∧ hasKeyLength name then entry disk.pending name
        else entry disk.processing name) := by
  induction order generalizing disk with
  | nil => exact ⟨disk, rfl, rfl, by simp, by simp⟩
  | cons name rest inductionHypothesis =>
    obtain ⟨fresh, restDistinct⟩ := List.nodup_cons.mp distinct
    by_cases keyLength : hasKeyLength name
    · obtain ⟨content, found⟩ := Option.ne_none_iff_exists'.mp (present name (by simp))
      obtain ⟨moved, run, spendables, pending, processing⟩ := inductionHypothesis
        { disk with
          pending := removeEntry disk.pending name
          processing := writeEntry disk.processing name content } restDistinct
        (fun other member => by
          have differs : other ≠ name := fun same => fresh (same ▸ member)
          simpa [differs] using present other (by simp [member]))
      refine ⟨moved, ?_, spendables, fun other => ?_, fun other => ?_⟩
      · simp [intakeLoop, keyLength, moveToProcessing_exact disk name content found, run]
      all_goals
        rcases eq_or_ne other name with rfl | same
        · simp [pending, processing, fresh, keyLength, found]
        · simp [pending, processing, same]
    · obtain ⟨moved, run, spendables, pending, processing⟩ := inductionHypothesis disk restDistinct
        (fun other member => present other (by simp [member]))
      refine ⟨moved, by simp [intakeLoop, keyLength, run], spendables, fun other => ?_,
        fun other => ?_⟩
      all_goals
        rcases eq_or_ne other name with rfl | same
        · simp [pending, processing, fresh, keyLength]
        · simp [pending, processing, same]

/-- A consolidation with no intake directory changes nothing: `read_dir` fails and the
whole block is skipped, staged leftovers included. -/
theorem consolidate_without_intake (disk : Disk α) (intakeOrder stagedOrder : List FileName)
    (key : FileName) (absent : disk.pending = none) :
    consolidate disk intakeOrder stagedOrder key = some disk := by
  simp [consolidate, absent]

/-- The staging directory once the intake loop has run: a listed intake entry of key
length, or else the staged leftover of that name. -/
def stagedEntry (disk : Disk α) (name : FileName) : Option (List α) :=
  if hasKeyLength name && (entry disk.pending name).isSome then entry disk.pending name
  else entry disk.processing name

/-- The intake loop over a listing of the whole intake never fails: it takes every entry of
key length out of the intake, stages it over any leftover of its name (`stagedEntry`), and
leaves the claim queue as it was.

Proof: a listing of the intake is distinct and present (`intakeLoop_exact`), and a name is
listed exactly when the intake has its entry. -/
theorem intakeLoop_listed (disk : Disk α) (pending : Dir α) (order : List FileName)
    (present : disk.pending = some pending) (listed : Lists pending order) :
    ∃ moved, intakeLoop order disk = some moved ∧ moved.spendables = disk.spendables ∧
      (∀ name, entry moved.pending name =
        if hasKeyLength name then none else entry disk.pending name) ∧
      ∀ name, entry moved.processing name = stagedEntry disk name := by
  have member : ∀ name, name ∈ order ↔ (entry disk.pending name).isSome := by
    intro name
    rw [listed.mem_iff, ← AList.mem_keys, ← AList.lookup_isSome]
    simp [entry, present]
  obtain ⟨moved, run, spendables, movedPending, movedProcessing⟩ :=
    intakeLoop_exact order disk (listed.nodup_iff.mpr pending.keys_nodup)
      (fun name listedName => Option.isSome_iff_ne_none.mp ((member name).mp listedName))
  refine ⟨moved, run, spendables, fun name => ?_, fun name => ?_⟩
  · rw [movedPending]
    by_cases keyLength : hasKeyLength name <;> by_cases found : (entry disk.pending name).isSome <;>
      simp_all [Option.not_isSome_iff_eq_none]
  · simp only [movedProcessing, stagedEntry, member, Bool.and_eq_true, and_comm]

/-- The consolidation law, for every disk whose intake directory exists and every
order in which `read_dir` lists the two directories. Every intake entry of key length
leaves the intake and every other intake entry stays as it was. The staged bytes are
the listed staging files, leftovers and moved entries, appended in listing order. When
they are not empty, exactly the entry `key` of the claim queue is set to them and
staging is removed; when they are empty, nothing is written and staging keeps what the
moves put there.

The filter is the length check of sweep.rs:67: a name of 64 bytes that are not hexadecimal
digits is moved too, although the comment at sweep.rs:65-66 moves only hexadecimal names.

Proof: the intake loop over the listing stages `stagedEntry` (`intakeLoop_listed`), so the
staged bytes read it at every name; `commitStaged` splits on their emptiness. -/
theorem consolidate_exact (disk : Disk α) (pending : Dir α) (intakeOrder stagedOrder : List FileName)
    (key : FileName) (present : disk.pending = some pending)
    (listedIntake : Lists pending intakeOrder) :
    ∃ result, consolidate disk intakeOrder stagedOrder key = some result ∧
      (∀ name, entry result.pending name =
        if hasKeyLength name then none else entry disk.pending name) ∧
      (if (stagedOrder.flatMap fun name => (stagedEntry disk name).getD []).isEmpty then
        result.spendables = disk.spendables ∧
          ∀ name, entry result.processing name = stagedEntry disk name
      else
        entry result.spendables key =
            some (stagedOrder.flatMap fun name => (stagedEntry disk name).getD []) ∧
          (∀ name, name ≠ key → entry result.spendables name = entry disk.spendables name) ∧
          result.processing = none) := by
  obtain ⟨moved, run, spendables, movedPending, staged⟩ :=
    intakeLoop_listed disk pending intakeOrder present listedIntake
  have outputs : stagedOutputs moved.processing stagedOrder =
      stagedOrder.flatMap fun name => (stagedEntry disk name).getD [] := by
    simp only [stagedOutputs, staged]
  refine ⟨commitStaged moved stagedOrder key, by simp [consolidate, present, run], fun name => ?_, ?_⟩
  · have unchanged : entry (commitStaged moved stagedOrder key).pending name =
        entry moved.pending name := by
      simp only [commitStaged]
      split <;> rfl
    rw [unchanged, movedPending]
  · rw [← outputs]
    by_cases empty : (stagedOutputs moved.processing stagedOrder).isEmpty
    · simp only [commitStaged, empty, if_true]
      exact ⟨spendables, staged⟩
    · simp only [commitStaged, empty, if_false, Bool.false_eq_true]
      exact ⟨by simp [withoutLength], fun name differs => by simp [differs, spendables], trivial⟩

/-- A 64-byte lowercase hexadecimal key, `hex_str` of 32 random bytes. -/
def sampleKey (byte : UInt8) : FileName := hexStr (List.replicate 32 byte)

/-- The intake filter moves a name by its length alone. An intake entry named by 64 bytes `z`,
which are not hexadecimal digits, leaves the intake, and its byte is committed in the claim
batch, although the comment at sweep.rs:65-66 moves only hexadecimal names. -/
theorem consolidation_moves_non_hex_name :
    ∃ result, consolidate ⟨some (AList.singleton (List.replicate 64 122) [(7 : UInt8)]), none, none⟩
        [List.replicate 64 122] [List.replicate 64 122] (sampleKey 0) = some result ∧
      (List.replicate 64 (122 : UInt8)).all isHexDigit = false ∧
      entry result.pending (List.replicate 64 122) = none ∧
      entry result.spendables (sampleKey 0) = some [7] := by
  obtain ⟨result, run, pending, committed⟩ := consolidate_exact
    ⟨some (AList.singleton (List.replicate 64 122) [(7 : UInt8)]), none, none⟩
    (AList.singleton (List.replicate 64 122) [7]) [List.replicate 64 122] [List.replicate 64 122]
    (sampleKey 0) rfl (by decide)
  have staged : ([List.replicate 64 122].flatMap fun name => (stagedEntry
      ⟨some (AList.singleton (List.replicate 64 122) [7]), none, none⟩ name).getD []) =
      [(7 : UInt8)] := by decide
  rw [staged, if_neg (by decide)] at committed
  exact ⟨result, run, by decide, by simpa using pending (List.replicate 64 122), committed.1⟩

/-- Consolidate-then-decode: when every listed staged file holds the concatenated
encodings of some descriptors, the claim batch (their raw concatenation, since
`WithoutLength` adds no prefix) decodes to all of those descriptors, file after file
in listing order. No record is dropped and none is added, however the descriptors were
split among the files and whatever order `read_dir` chose. The decode loop itself ends
on every byte string, with the full list or a decode failure. -/
theorem staged_batch_decodes {Descriptor : Type} (codec : SelfFramingCodec Descriptor)
    (processing : Option (Dir UInt8)) (stagedOrder : List FileName)
    (descriptorsOf : FileName → List Descriptor)
    (framed : ∀ name ∈ stagedOrder,
      entry processing name = some (encodeAll codec (descriptorsOf name))) :
    readDescriptors codec (withoutLength (stagedOutputs processing stagedOrder)) =
        some (stagedOrder.flatMap descriptorsOf) ∧
      ∀ bytes : Bytes, readLoop codec (bytes.length + 1) bytes ≠ .running := by
  have concatenated : stagedOutputs processing stagedOrder =
      encodeAll codec (stagedOrder.flatMap descriptorsOf) := by
    induction stagedOrder with
    | nil => rfl
    | cons name rest inductionHypothesis =>
      simp only [stagedOutputs, List.flatMap_cons, encodeAll, List.flatMap_append] at *
      rw [framed name (by simp), Option.getD_some,
        inductionHypothesis (fun other listed => framed other (by simp [listed]))]
  refine ⟨by rw [withoutLength, concatenated, readDescriptors_encodeAll], fun bytes => ?_⟩
  exact readLoop_finishes codec _ bytes (Nat.lt_succ_self _)

/-- The spec's scenario: a 40-byte and a 55-byte record written back to back in one
staged file decode to exactly those two records. -/
theorem staged_batch_of_spec_scenario :
    readDescriptors framedCodec (withoutLength (stagedOutputs
        (some (AList.singleton (sampleKey 0xa1) (encodeAll framedCodec
          [⟨0, List.replicate 38 1, by decide⟩, ⟨1, List.replicate 53 2, by decide⟩])))
        [sampleKey 0xa1])) =
      some [⟨0, List.replicate 38 1, by decide⟩, ⟨1, List.replicate 53 2, by decide⟩] :=
  (staged_batch_decodes framedCodec _ [sampleKey 0xa1]
    (fun _ => [⟨0, List.replicate 38 1, by decide⟩, ⟨1, List.replicate 53 2, by decide⟩])
    (by decide)).1

end YuvLdkSample
