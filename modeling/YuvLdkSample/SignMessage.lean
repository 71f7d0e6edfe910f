import Mathlib.Data.List.DropRight
import YuvLdkSample.ChannelConfig

/-!
# The command `signmessage`

`signmessage <message>` does not read its message from the words of the line: it signs the
bytes of `line.trim()` from `MSG_STARTPOS = "signmessage".len() + 1` on, that is everything after
the command and one byte more. A line of at most `MSG_STARTPOS` bytes is refused, so the slice
never panics.

The byte skipped is the first byte of the white space after the command. For a one-byte
separator (a space, a tab) the signed bytes are exactly those of the message, white space inside
it and at its start included; for a wider one (U+3000, U+00A0, ..) the signature would also
cover the rest of the separator's UTF-8 encoding (`signmessage_signs_after_separator`). The CLI
reads its lines with `read_input`, which drops every key that is not ASCII, so there the
separator is one byte and the wider case does not arise.
-/

namespace YuvLdkSample

/-- Function `str::as_bytes`: the UTF-8 encoding of a line. -/
def asBytes (line : List Char) : List UInt8 :=
  line.flatMap String.utf8EncodeChar

/-- Function `str::trim`: the line without the white space at either end. -/
def trim (line : List Char) : List Char :=
  (line.dropWhile isWhitespace).rdropWhile isWhitespace

/-- Constant `MSG_STARTPOS`: `"signmessage".len() + 1`, a length in bytes. -/
def msgStartpos : Nat :=
  (asBytes "signmessage".toList).length + 1

/-- The slice `bytes[start..]`, `none` where it panics: when `start` is past the end. -/
def sliceFrom (bytes : List UInt8) (start : Nat) : Option (List UInt8) :=
  if start ≤ bytes.length then some (bytes.drop start) else none

/-- How `signmessage` ends. -/
inductive SignOutcome
  /-- The error is printed and the CLI reads the next line. -/
  | error (message : String)
  /-- The bytes are handed to `lightning::util::message_signing::sign`. -/
  | sign (message : List UInt8)
  /-- The slice panics. -/
  | panic
  deriving DecidableEq, Repr

/-- The arm `signmessage` of `poll_for_user_input` (cli.rs 618-631), for the whole line. -/
def signmessage (line : List Char) : SignOutcome :=
  if (asBytes (trim line)).length ≤ msgStartpos then .error "\rERROR: signmsg requires a message"
  else
    match sliceFrom (asBytes (trim line)) msgStartpos with
    | some message => .sign message
    | none => .panic

@[simp] theorem asBytes_append (line rest : List Char) :
    asBytes (line ++ rest) = asBytes line ++ asBytes rest :=
  List.flatMap_append _ _ _

@[simp] theorem asBytes_cons (c : Char) (line : List Char) :
    asBytes (c :: line) = String.utf8EncodeChar c ++ asBytes line := rfl

/-- Every character takes at least one byte. -/
theorem utf8EncodeChar_ne_nil (c : Char) : String.utf8EncodeChar c ≠ [] := by
  rw [← List.length_pos, String.length_utf8EncodeChar]
  rcases Char.utf8Size_eq c with size | size | size | size <;> omega

/-- White space at the end of a line is dropped by `rdropWhile` as if it were not there. -/
theorem rdropWhile_append_blank {p : Char → Bool} (line : List Char) {blank : List Char}
    (allBlank : ∀ c ∈ blank, p c = true) : (line ++ blank).rdropWhile p = line.rdropWhile p := by
  simp only [List.rdropWhile, List.reverse_append]
  rw [List.dropWhile_append_of_pos fun c mem => allBlank c (List.mem_reverse.1 mem)]

/-- Function `str::trim` gives back a body that starts and ends with a printed character, from
between any white space. -/
theorem trim_blank_ends {pre post : List Char} (body : List Char)
    (preBlank : ∀ c ∈ pre, isWhitespace c = true) (postBlank : ∀ c ∈ post, isWhitespace c = true)
    (firstPrinted : ∀ first ∈ body.head?, isWhitespace first = false)
    (lastPrinted : ∀ last ∈ body.getLast?, isWhitespace last = false) :
    trim (pre ++ body ++ post) = body := by
  cases body with
  | nil =>
    rw [trim, List.append_nil, (List.dropWhile_eq_nil_iff).2, List.rdropWhile_nil]
    simpa only [List.mem_append] using fun c mem => mem.elim (preBlank c) (postBlank c)
  | cons first body =>
    have dropped : (pre ++ first :: body ++ post).dropWhile isWhitespace = first :: body ++ post := by
      rw [List.append_assoc, List.dropWhile_append_of_pos preBlank, List.cons_append,
        List.dropWhile_cons_of_neg (by simp [firstPrinted first rfl])]
    rw [trim, dropped, rdropWhile_append_blank _ postBlank,
      List.rdropWhile_eq_self_iff]
    intro nonempty
    simpa using lastPrinted _ (List.getLast?_eq_getLast _ nonempty)

/-- The slice of `signmessage` never panics: the length is checked first. -/
theorem signmessage_ne_panic (line : List Char) : signmessage line ≠ .panic := by
  unfold signmessage
  split_ifs with short
  · simp
  · simp [sliceFrom, (Nat.lt_of_not_le short).le]

/-- The stray bytes the skipped separator leaves are none exactly for a one-byte separator. -/
theorem utf8EncodeChar_drop_one_eq_nil (c : Char) :
    (String.utf8EncodeChar c).drop 1 = [] ↔ c.utf8Size = 1 := by
  rw [List.drop_eq_nil_iff, String.length_utf8EncodeChar]
  rcases Char.utf8Size_eq c with size | size | size | size <;> omega

/-- What `signmessage` signs. It never panics. A line holding the command alone, between any
white space, is refused; on a line `signmessage<separator><message>`, between any white space, with a message that
does not end in white space, it signs the message's UTF-8 bytes after all but the first byte of
the separator. Those stray bytes are none exactly when the separator takes one byte, as every
separator of a line `read_input` returns does; a separator such as U+3000, which
`split_whitespace` accepts as well, would add bytes to what is signed.

Proof: `str::trim` leaves the command with its separator and message (`trim_blank_ends`);
`MSG_STARTPOS` is the command's length in bytes plus one, so the slice drops the command and the
first byte of the separator (`List.drop_append`). -/
theorem signmessage_signs_after_separator (pre post : List Char)
    (preBlank : ∀ c ∈ pre, isWhitespace c = true) (postBlank : ∀ c ∈ post, isWhitespace c = true) :
    (∀ line, signmessage line ≠ .panic) ∧
    signmessage (pre ++ "signmessage".toList ++ post) = .error "\rERROR: signmsg requires a message" ∧
      ∀ (separator : Char) (message : List Char), isWhitespace separator = true →
        (∀ last ∈ message.getLast?, isWhitespace last = false) → message ≠ [] →
          signmessage (pre ++ "signmessage".toList ++ separator :: message ++ post) =
            .sign ((String.utf8EncodeChar separator).drop 1 ++ asBytes message) ∧
          ((String.utf8EncodeChar separator).drop 1 = [] ↔ separator.utf8Size = 1) := by
  have printedEnds : ∀ rest : List Char, (∀ last ∈ rest.getLast?, isWhitespace last = false) →
      trim (pre ++ ("signmessage".toList ++ rest) ++ post) = "signmessage".toList ++ rest :=
    fun rest lastPrinted => trim_blank_ends _ preBlank postBlank (by simp; decide) fun last mem => by
      rw [List.getLast?_append] at mem
      cases restLast : rest.getLast? with
      | none => rw [restLast] at mem; simp at mem; subst mem; decide
      | some final => rw [restLast] at mem; cases mem; exact lastPrinted _ restLast
  have alone := printedEnds [] (by simp)
  rw [List.append_nil] at alone
  refine ⟨signmessage_ne_panic, by rw [signmessage, alone, if_pos (by decide)],
    fun separator message separates lastPrinted nonempty =>
      ⟨?_, utf8EncodeChar_drop_one_eq_nil separator⟩⟩
  have trimmed := printedEnds (separator :: message) fun last mem => by
    obtain ⟨first, rest, rfl⟩ := List.exists_cons_of_ne_nil nonempty
    rw [List.getLast?_cons_cons] at mem
    exact lastPrinted last mem
  rw [← List.append_assoc] at trimmed
  have separatorBytes := utf8EncodeChar_ne_nil separator
  have messageBytes : asBytes message ≠ [] := by
    obtain ⟨first, rest, rfl⟩ := List.exists_cons_of_ne_nil nonempty
    simp [utf8EncodeChar_ne_nil]
  have long : ¬(asBytes (trim (pre ++ "signmessage".toList ++ separator :: message ++ post))).length
      ≤ msgStartpos := by
    rw [trimmed, msgStartpos, asBytes_append, asBytes_cons, List.length_append, List.length_append]
    have := List.length_pos.2 separatorBytes
    have := List.length_pos.2 messageBytes
    omega
  rw [signmessage, if_neg long, sliceFrom, if_pos (Nat.le_of_lt (Nat.lt_of_not_le long)), trimmed,
    asBytes_append, asBytes_cons, msgStartpos, List.drop_append,
    List.drop_append_of_le_length (List.length_pos.2 separatorBytes)]

/-- A message after a space, as the CLI reads it: exactly the message's bytes are signed. -/
theorem signmessage_after_space :
    (∀ c ∈ ([] : List Char), isWhitespace c = true) ∧
      signmessage ("signmessage".toList ++ ' ' :: "hi".toList) = .sign [104, 105] :=
  have signs := (signmessage_signs_after_separator [] [] (by simp) (by simp)).2.2
    ' ' "hi".toList (by decide) (by decide) (by decide)
  ⟨by simp, by simpa using signs.1⟩

end YuvLdkSample
