import Mathlib.Data.List.Infix

/-!
# Self-framing descriptor streams

A claim batch is read back as a stream. The sweep peeks one byte, seeks back and
reads one `SpendableOutputDescriptor`, until the peek meets the end of the file
(sweep.rs:100-112). No length table is stored: each record frames itself, so
independently written encodings can be concatenated and split again.

The codec belongs to LDK's serialization framework, not to this repository. It is a
parameter that carries its two framing laws, and nothing else about it is assumed.
A length-prefixed codec in the shape of LDK's tagged enum encoding shows that the
laws can be met and supplies concrete inputs.
-/

namespace YuvLdkSample

/-- Raw file contents, as `Vec<u8>`. -/
abbrev Bytes := List UInt8

/-- A descriptor codec whose every record frames itself. `read` returns the record
and the unread rest of the stream, or fails with a decode error. -/
structure SelfFramingCodec (Descriptor : Type) where
  encode : Descriptor → Bytes
  read : Bytes → Option (Descriptor × Bytes)
  /-- Reading an encoding followed by anything returns the record and leaves the rest. -/
  read_encode : ∀ descriptor rest, read (encode descriptor ++ rest) = some (descriptor, rest)
  /-- A successful read consumes at least one byte. -/
  read_consumes : ∀ {bytes descriptor rest}, read bytes = some (descriptor, rest) →
    rest.length < bytes.length

variable {Descriptor : Type}

/-- Where the peek-then-read loop stands. -/
inductive ReadOutcome (Descriptor : Type)
  /-- The one-byte peek met the end of the file (`UnexpectedEof`): the loop left. -/
  | finished (outputs : List Descriptor)
  /-- A read failed; `Readable::read(..).unwrap()` panics. -/
  | failed
  /-- The iterations given ran out before the loop left. -/
  | running
deriving DecidableEq

/-- Apply `f` to the outputs of a finished loop. -/
def ReadOutcome.mapOutputs (f : List Descriptor → List Descriptor) :
    ReadOutcome Descriptor → ReadOutcome Descriptor
  | .finished outputs => .finished (f outputs)
  | .failed => .failed
  | .running => .running

/-- Two maps of the decoded descriptors are one. -/
@[simp] theorem ReadOutcome.mapOutputs_mapOutputs (f g : List Descriptor → List Descriptor)
    (outcome : ReadOutcome Descriptor) :
    (outcome.mapOutputs f).mapOutputs g = outcome.mapOutputs (g ∘ f) := by
  cases outcome <;> rfl

/-- Mapping the decoded descriptors leaves a read running exactly when it was running. -/
@[simp] theorem ReadOutcome.mapOutputs_ne_running (f : List Descriptor → List Descriptor)
    (outcome : ReadOutcome Descriptor) :
    outcome.mapOutputs f = .running ↔ outcome = .running := by
  cases outcome <;> simp [mapOutputs]

/-- At most `fuel` iterations of the peek-then-read loop of sweep.rs:102-112: an
exhausted stream ends the loop, otherwise one descriptor is read and pushed. -/
def readLoop (codec : SelfFramingCodec Descriptor) : Nat → Bytes → ReadOutcome Descriptor
  | 0, _ => .running
  | _ + 1, [] => .finished []
  | fuel + 1, byte :: more =>
    match codec.read (byte :: more) with
    | none => .failed
    | some (descriptor, rest) => (readLoop codec fuel rest).mapOutputs (descriptor :: ·)

/-- The loop run to its end, which one iteration more than the file has bytes always
reaches (`readLoop_finishes`); `none` is the decode panic. -/
def readDescriptors (codec : SelfFramingCodec Descriptor) (bytes : Bytes) :
    Option (List Descriptor) :=
  match readLoop codec (bytes.length + 1) bytes with
  | .finished outputs => some outputs
  | _ => none

/-- The concatenated encodings of a list of descriptors, the bytes a batch of
independently written records forms. -/
def encodeAll (codec : SelfFramingCodec Descriptor) (descriptors : List Descriptor) : Bytes :=
  descriptors.flatMap codec.encode

/-- The loop terminates on every byte string: with more iterations than bytes it has
finished with the full list or failed on a read, since every read consumes a byte.

Proof: induction on the iterations. A successful read leaves fewer bytes than the
remaining iterations, so the rest of the loop ends by the induction hypothesis. -/
theorem readLoop_finishes (codec : SelfFramingCodec Descriptor) (fuel : Nat) (bytes : Bytes)
    (enough : bytes.length < fuel) : readLoop codec fuel bytes ≠ .running := by
  induction fuel generalizing bytes with
  | zero => omega
  | succ fuel inductionHypothesis =>
    match bytes with
    | [] => simp [readLoop]
    | byte :: more =>
      simp only [readLoop]
      split
      · simp
      · rename_i descriptor rest consumed
        have shorter : rest.length < fuel := by
          have := codec.read_consumes consumed
          simp only [List.length_cons] at enough this
          omega
        simpa using inductionHypothesis rest shorter

/-- No encoding is empty: reading it consumes a byte. -/
theorem encode_ne_nil (codec : SelfFramingCodec Descriptor) (descriptor : Descriptor) :
    codec.encode descriptor ≠ [] := by
  intro empty
  have consumed := codec.read_consumes (codec.read_encode descriptor [])
  simp [empty] at consumed

/-- Concatenated encodings are read back in order, whatever follows them, given
iterations for each record. -/
theorem readLoop_encodeAll_append (codec : SelfFramingCodec Descriptor)
    (descriptors : List Descriptor) (rest : Bytes) (fuel : Nat) :
    readLoop codec (fuel + descriptors.length) (encodeAll codec descriptors ++ rest) =
      (readLoop codec fuel rest).mapOutputs (descriptors ++ ·) := by
  induction descriptors with
  | nil =>
    simp only [encodeAll, List.flatMap_nil, List.nil_append, List.length_nil, Nat.add_zero]
    cases readLoop codec fuel rest <;> rfl
  | cons descriptor more inductionHypothesis =>
    obtain ⟨byte, tail, split⟩ := List.exists_cons_of_ne_nil (encode_ne_nil codec descriptor)
    have read := codec.read_encode descriptor (encodeAll codec more ++ rest)
    have shape : encodeAll codec (descriptor :: more) ++ rest =
        byte :: (tail ++ (encodeAll codec more ++ rest)) := by
      simp [encodeAll, split]
    rw [split, List.cons_append] at read
    rw [shape, List.length_cons, ← Nat.add_assoc, readLoop, read]
    simp only [inductionHypothesis, ReadOutcome.mapOutputs_mapOutputs]
    rfl

/-- Decoding the concatenated encodings of a list returns exactly that list. -/
theorem readDescriptors_encodeAll (codec : SelfFramingCodec Descriptor)
    (descriptors : List Descriptor) :
    readDescriptors codec (encodeAll codec descriptors) = some descriptors := by
  have bounded : descriptors.length ≤ (encodeAll codec descriptors).length := by
    induction descriptors with
    | nil => simp
    | cons descriptor more inductionHypothesis =>
      have := List.length_pos.mpr (encode_ne_nil codec descriptor)
      simp only [encodeAll, List.flatMap_cons, List.length_append, List.length_cons] at *
      omega
  have ends := readLoop_encodeAll_append codec descriptors []
    ((encodeAll codec descriptors).length - descriptors.length + 1)
  rw [List.append_nil, Nat.add_right_comm, Nat.sub_add_cancel bounded] at ends
  simp [readDescriptors, ends, readLoop, ReadOutcome.mapOutputs]

/-! ## A length-prefixed codec -/

/-- A descriptor as LDK frames an enum variant: a type byte and a body whose length
is written in one `BigSize` byte, which holds values below `0xFD`. -/
structure FramedDescriptor where
  tag : UInt8
  body : Bytes
  short : body.length < 253
deriving DecidableEq

/-- The type byte, the length byte, then the body. -/
def FramedDescriptor.encode (descriptor : FramedDescriptor) : Bytes :=
  descriptor.tag :: UInt8.ofNat descriptor.body.length :: descriptor.body

/-- Read the type byte and the length, then exactly that many body bytes; a short
stream or an oversized length is a decode error. -/
def FramedDescriptor.read : Bytes → Option (FramedDescriptor × Bytes)
  | tag :: size :: rest =>
    if fits : size.toNat < 253 ∧ size.toNat ≤ rest.length then
      some (⟨tag, rest.take size.toNat, by rw [List.length_take]; omega⟩, rest.drop size.toNat)
    else none
  | _ => none

/-- The length-prefixed codec meets both framing laws. -/
def framedCodec : SelfFramingCodec FramedDescriptor where
  encode := FramedDescriptor.encode
  read := FramedDescriptor.read
  read_encode := by
    rintro ⟨tag, body, short⟩ rest
    have size : (UInt8.ofNat body.length).toNat = body.length :=
      UInt8.toNat_ofNat_of_lt (by simp only [UInt8.size]; omega)
    simp [FramedDescriptor.encode, FramedDescriptor.read, size, short]
  read_consumes := by
    intro bytes descriptor rest read
    match bytes, read with
    | tag :: size :: more, read =>
      simp only [FramedDescriptor.read] at read
      split at read
      · cases read
        simp only [List.length_drop, List.length_cons]
        omega
      · cases read

end YuvLdkSample
