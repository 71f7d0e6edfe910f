import Mathlib.Data.List.AList
import YuvLdkSample.Descriptor

/-!
# File names, directories and the sweep's three directories

The sweep keeps its state in three directories of the LDK data directory:
`pending_spendable_outputs` (the intake), `processing_spendable_outputs` (staging) and
`spendable_outputs` (the claim queue). A directory that does not exist makes
`fs::read_dir` fail, and the code branches on that, so each is optional.

Entry names are byte strings, since the intake filter compares `OsString::len`, a
byte count, with 64. File contents are lists over a byte type: the code stores
bytes, and a provenance view stores each byte with the deposit that wrote it. No
operation of the sweep reads that mark, so both views run the same definitions.
-/

namespace YuvLdkSample

/-- A directory entry's name, as the bytes of its `OsString`. -/
abbrev FileName := List UInt8

/-- Modelled from the spec: one lowercase hexadecimal digit for a nibble below 16. -/
def hexDigit (nibble : UInt8) : UInt8 :=
  if nibble < 10 then 48 + nibble else 87 + nibble

/-- Modelled from the spec: `hex_utils::hex_str` is not under src/. The spec keys every
entry "by a randomly generated fixed-length hexadecimal identifier"; each byte becomes
two lowercase hexadecimal digits, high nibble first. The result is the key's file name. -/
def hexStr (value : Bytes) : FileName :=
  value.flatMap fun byte => [hexDigit (byte / 16), hexDigit (byte % 16)]

/-- Two digits per byte: 32 random bytes make a 64-byte key. -/
theorem hexStr_length (value : Bytes) : (hexStr value).length = 2 * value.length := by
  induction value with
  | nil => rfl
  | cons byte more inductionHypothesis =>
    simp only [hexStr, List.flatMap_cons, List.length_append] at inductionHypothesis ⊢
    simp only [inductionHypothesis, List.length_cons, List.length_nil]
    omega

/-- An ASCII hexadecimal digit of either case. -/
def isHexDigit (byte : UInt8) : Bool :=
  (48 ≤ byte && byte ≤ 57) || (97 ≤ byte && byte ≤ 102) || (65 ≤ byte && byte ≤ 70)

/-- The intake filter of sweep.rs:65-67. A name is moved when it is 64 bytes long; the
comment calls such a name "32-byte-hex'd", but its digits are not examined. -/
def hasKeyLength (name : FileName) : Bool := name.length == 64

/-- The decimal digits of a counter, as bytes. -/
def decimal (counter : Nat) : FileName :=
  (Nat.toDigits 10 counter).map fun digit => digit.toNat.toUInt8

/-- `FilesystemStore::write` (lightning-persister) writes `<key>.<counter>.tmp` in the
target directory and renames it onto `<key>` once it is complete; `counter` is the
store's temporary-file counter. Keys hold no dot, so `set_extension` appends. -/
def tmpFileName (key : FileName) (counter : Nat) : FileName :=
  key ++ 46 :: decimal counter ++ [46, 116, 109, 112]

/-- The length of a temporary file's name. -/
theorem tmpFileName_length (key : FileName) (counter : Nat) :
    (tmpFileName key counter).length = key.length + (decimal counter).length + 5 := by
  simp only [tmpFileName, List.length_append, List.length_cons, List.length_nil]
  omega

/-- A key's temporary file has another name than any key. -/
theorem tmpFileName_ne {key other : FileName} (keyLength : key.length = 64)
    (otherLength : other.length = 64) (counter : Nat) : tmpFileName key counter ≠ other := by
  intro same
  have lengths := congrArg List.length same
  rw [tmpFileName_length] at lengths
  omega

/-- What the store keeps of a written byte. The code keeps the byte itself; the
provenance view also keeps the number of the deposit that wrote it. -/
class StoredByte (α : Type) where
  byte : α → UInt8
  mark : Nat → UInt8 → α
  byte_mark : ∀ deposit value, byte (mark deposit value) = value

/-- The code's view: a stored byte is a byte. -/
instance : StoredByte UInt8 := ⟨id, fun _ value => value, fun _ _ => rfl⟩

/-- The provenance view: a byte with the deposit that wrote it. -/
instance : StoredByte (Nat × UInt8) := ⟨Prod.snd, Prod.mk, fun _ _ => rfl⟩

/-- A plain byte is its own content. -/
@[simp] theorem StoredByte.byte_uint8 (value : UInt8) : StoredByte.byte value = value := rfl

/-- Marking a plain byte leaves it as it is. -/
@[simp] theorem StoredByte.mark_uint8 (deposit : Nat) (value : UInt8) :
    (StoredByte.mark deposit value : UInt8) = value := rfl

/-- A directory: its entries' names with their contents, each name once. -/
abbrev Dir (α : Type) := AList fun _ : FileName => List α

/-- The three directories of `periodic_sweep`; `none` is a directory that does not exist. -/
structure Disk (α : Type) where
  pending : Option (Dir α)
  processing : Option (Dir α)
  spendables : Option (Dir α)
deriving DecidableEq

/-- The entry of a directory that may not exist. -/
def entry {α : Type} (dir : Option (Dir α)) (name : FileName) : Option (List α) :=
  dir.bind fun present => present.lookup name

/-- `FilesystemStore::write` and `fs::create_dir_all`: create the directory if needed and
set one entry, replacing an entry of the same name. -/
def writeEntry {α : Type} (dir : Option (Dir α)) (name : FileName) (content : List α) :
    Option (Dir α) :=
  some ((dir.getD ∅).insert name content)

/-- Unlink one entry; a directory that does not exist stays absent. -/
def removeEntry {α : Type} (dir : Option (Dir α)) (name : FileName) : Option (Dir α) :=
  dir.map fun present => present.erase name

/-- A missing directory has no file. -/
@[simp] theorem entry_none {α : Type} (name : FileName) : entry (none : Option (Dir α)) name = none :=
  rfl

/-- Reading a file after a write. -/
@[simp] theorem entry_writeEntry {α : Type} (dir : Option (Dir α)) (name other : FileName)
    (content : List α) :
    entry (writeEntry dir name content) other = if other = name then some content else entry dir other := by
  by_cases same : other = name
  · subst same
    simp [entry, writeEntry, AList.lookup_insert]
  · simp only [entry, writeEntry, Option.some_bind, AList.lookup_insert_ne same, same, if_false]
    cases dir <;> rfl

/-- Reading a file after a removal. -/
@[simp] theorem entry_removeEntry {α : Type} (dir : Option (Dir α)) (name other : FileName) :
    entry (removeEntry dir name) other = if other = name then none else entry dir other := by
  by_cases same : other = name
  · subst same
    cases dir <;> simp [entry, removeEntry, AList.lookup_erase]
  · cases dir <;> simp [entry, removeEntry, same, AList.lookup_erase_ne same]

end YuvLdkSample
