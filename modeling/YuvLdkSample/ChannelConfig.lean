import Mathlib.Data.List.Basic

/-!
# The channel configuration the CLI and the event handler share

`start_ldk` builds the node's `UserConfig` and shares it as `default_config`, an
`Arc<Mutex<UserConfig>>`, between the CLI thread and the event handler. On the CLI,
`configchannel` sets its parameters one at a time, each under its own lock, as its loop reads
them with `parse_named_param`; a word it does not know, or a value that does not parse, prints
an error and abandons the rest of the line with `continue 'outer`, keeping what it has already
set. `openchannel` takes a clone of the configuration and overrides whether the channel is
announced and whether it negotiates anchors from its own flags. The event handler accepts every
inbound channel (`Event::OpenChannelRequest`) with a clone of the configuration.

Words are lists of characters, as the line editor produces them. The integer parsers are
Rust's `from_str` (an optional `+`, then decimal digits within the type's bound). The decoders
the code takes from other crates, for public keys and for chroma addresses, are parameters.

Every `configchannel` command that `help` documents, with its values printed as Rust prints
them, is accepted and sets its parameters in order (`configchannel_round_trip`). Over every
interleaving of command lines with inbound channel requests the shared configuration keeps
the anchors setting `start_ldk` gives it, so every inbound channel negotiates anchors, while a
channel `openchannel` opens negotiates them only when its last anchors flag asks for them
(`channel_anchors`).
-/

namespace YuvLdkSample

/-- A word of a command line. -/
abbrev Word := List Char

/-- `char::is_whitespace`: the characters with Unicode's `White_Space` property. -/
def isWhitespace (c : Char) : Bool :=
  c = ' ' || (9 ≤ c.toNat && c.toNat ≤ 13) || c.toNat = 0x85 || c.toNat = 0xA0 ||
    c.toNat = 0x1680 || (0x2000 ≤ c.toNat && c.toNat ≤ 0x200A) || c.toNat = 0x2028 ||
    c.toNat = 0x2029 || c.toNat = 0x202F || c.toNat = 0x205F || c.toNat = 0x3000

/-- `str::split_whitespace`: the non-empty pieces between white space. -/
def splitWhitespace (line : List Char) : List Word :=
  (line.splitOnP isWhitespace).filter fun word => !word.isEmpty

/-! ## Rust's integer and boolean parsers -/

/-- The kind of a `ParseIntError`. -/
inductive IntErrorKind
  | empty
  | invalidDigit
  | posOverflow
  deriving DecidableEq, Repr

/-- The text a `ParseIntError` displays. -/
def IntErrorKind.description : IntErrorKind → String
  | .empty => "cannot parse integer from empty string"
  | .invalidDigit => "invalid digit found in string"
  | .posOverflow => "number too large to fit in target type"

/-- The digit `char::to_digit(10)` reads. -/
def toDigit (c : Char) : Option Nat :=
  if c.isDigit then some (c.toNat - '0'.toNat) else none

/-- The digit loop of `from_str_radix` for an unsigned type whose largest value is `max`: a
non-digit is an invalid digit, and a value past `max` (`checked_mul`, `checked_add`) an
overflow. -/
def digitsValue (max result : Nat) : List Char → Except IntErrorKind Nat
  | [] => .ok result
  | c :: digits =>
    match toDigit c with
    | none => .error .invalidDigit
    | some x =>
      if result * 10 + x ≤ max then digitsValue max (result * 10 + x) digits
      else .error .posOverflow

/-- Function `from_str` of an unsigned integer type whose largest value is `max`: an optional
`+` before at least one digit. -/
def fromStrUnsigned (max : Nat) : Word → Except IntErrorKind Nat
  | [] => .error .empty
  | ['+'] | ['-'] => .error .invalidDigit
  | '+' :: digits => digitsValue max 0 digits
  | digits => digitsValue max 0 digits

/-- Function `u64::from_str`. -/
def fromStrU64 (word : Word) : Except IntErrorKind UInt64 :=
  (fromStrUnsigned (UInt64.size - 1) word).map UInt64.ofNat

/-- Function `u8::from_str`. -/
def fromStrU8 (word : Word) : Except IntErrorKind UInt8 :=
  (fromStrUnsigned (UInt8.size - 1) word).map UInt8.ofNat

/-- Function `bool::from_str`: exactly `true` or `false`. -/
def fromStrBool (word : Word) : Except String Bool :=
  if word = "true".toList then .ok true
  else if word = "false".toList then .ok false
  else .error "provided string was not `true` or `false`"

/-! ## The configuration and `configchannel` -/

/-- The fields of `UserConfig` that the sample reads or writes. -/
structure UserConfig where
  /-- Field `channel_handshake_config.our_htlc_minimum_msat`. -/
  ourHtlcMinimumMsat : UInt64
  /-- Field `channel_handshake_config.max_inbound_htlc_value_in_flight_percent_of_channel`. -/
  maxInboundHtlcValueInFlightPercentOfChannel : UInt8
  /-- Field `channel_handshake_config.negotiate_anchors_zero_fee_htlc_tx`. -/
  negotiateAnchorsZeroFeeHtlcTx : Bool
  /-- Field `channel_handshake_config.announced_channel`. -/
  announcedChannel : Bool
  supportYuvPayments : Bool
  deriving DecidableEq, Repr

/-- The configuration `start_ldk` shares (main.rs 816-822), from LDK's `UserConfig::default()`
and whether a YUV RPC URL was given. -/
def startConfig (ldkDefault : UserConfig) (yuvRpcUrlGiven : Bool) : UserConfig :=
  { ldkDefault with
    negotiateAnchorsZeroFeeHtlcTx := true
    ourHtlcMinimumMsat := 4000000
    supportYuvPayments := yuvRpcUrlGiven }

/-- The error `parse_named_param` prints. -/
def invalidParameter (paramName : Word) : String :=
  "\rERROR: invalid " ++ String.mk paramName ++ " parameter"

/-- The error of a word that `configchannel` or `openchannel` does not know. -/
def unknownParameter (word : Word) : String :=
  "\rERROR: unknown parameter: " ++ String.mk word

/-- Function `parse_named_param`: the next word parsed by `F::from_str`, and the words after it. -/
def parseNamedParam {ε α : Type} (fromStr : Word → Except ε α) (words : List Word)
    (paramName : Word) : Except String (α × List Word) :=
  match words with
  | [] => .error (invalidParameter paramName)
  | paramRaw :: rest =>
    match fromStr paramRaw with
    | .ok param => .ok (param, rest)
    | .error _ => .error (invalidParameter paramName)

/-- A parameter `configchannel` sets, with its value. -/
inductive ConfigParam
  | minInbHtlc (minInboundHtlc : UInt64)
  | maxInbHtlcPct (maxInboundHtlcPercent : UInt8)
  | supportYuv (supportYuv : Bool)
  deriving DecidableEq, Repr

/-- Setting a parameter under the lock. -/
def ConfigParam.apply : ConfigParam → UserConfig → UserConfig
  | .minInbHtlc value, config => { config with ourHtlcMinimumMsat := value }
  | .maxInbHtlcPct value, config => { config with maxInboundHtlcValueInFlightPercentOfChannel := value }
  | .supportYuv value, config => { config with supportYuvPayments := value }

/-- The flag `--min-inb-htlc`. -/
def minInbHtlcFlag : Word := "--min-inb-htlc".toList

/-- The flag `--max-inb-htlc-pct`. -/
def maxInbHtlcPctFlag : Word := "--max-inb-htlc-pct".toList

/-- The flag `--support-yuv`. -/
def supportYuvFlag : Word := "--support-yuv".toList

/-- How one iteration of the loop of `configchannel` ends. -/
inductive ConfigStep
  /-- The words are used up: the loop ends. -/
  | done
  /-- The parameter is set, and the loop goes on with the remaining words. -/
  | set (param : ConfigParam) (rest : List Word)
  /-- The error is printed and `continue 'outer` abandons the line. -/
  | error (message : String)
  deriving DecidableEq, Repr

/-- An arm of the loop: `parse_named_param` reads the value, which sets the parameter. -/
def configArm {ε α : Type} (fromStr : Word → Except ε α) (param : α → ConfigParam) (word : Word)
    (words : List Word) : ConfigStep :=
  match parseNamedParam fromStr words word with
  | .ok (value, rest) => .set (param value) rest
  | .error message => .error message

/-- One iteration of the loop of `configchannel` (cli.rs 224-262). -/
def configchannelStep : List Word → ConfigStep
  | [] => .done
  | word :: words =>
    if word = minInbHtlcFlag then configArm fromStrU64 .minInbHtlc word words
    else if word = maxInbHtlcPctFlag then configArm fromStrU8 .maxInbHtlcPct word words
    else if word = supportYuvFlag then configArm fromStrBool .supportYuv word words
    else .error (unknownParameter word)

/-- The loop of `configchannel`, for at most `fuel` iterations: the parameters it sets, in
order, and the error it prints. -/
def configchannelLoop : Nat → List Word → List ConfigParam × Option String
  | 0, _ => ([], none)
  | fuel + 1, words =>
    match configchannelStep words with
    | .done => ([], none)
    | .error message => ([], some message)
    | .set param rest =>
      let (params, error) := configchannelLoop fuel rest
      (param :: params, error)

/-- The whole loop of `configchannel`: each iteration reads at least one word, so as many
iterations as words reach its end. -/
def configchannel (words : List Word) : List ConfigParam × Option String :=
  configchannelLoop words.length words

/-- What an arm of the loop can do: read the next word as the value and set the parameter,
or fail with the error of `parse_named_param`, which names the flag. -/
theorem configArm_cases {ε α : Type} (fromStr : Word → Except ε α) (make : α → ConfigParam)
    (word : Word) (words : List Word) :
    (∃ paramRaw rest value, words = paramRaw :: rest ∧ fromStr paramRaw = .ok value ∧
      configArm fromStr make word words = .set (make value) rest) ∨
    configArm fromStr make word words = .error (invalidParameter word) := by
  match words with
  | [] => exact .inr rfl
  | paramRaw :: rest =>
    cases parsed : fromStr paramRaw with
    | ok value => exact .inl ⟨paramRaw, rest, value, rfl, parsed, by simp [configArm, parseNamedParam, parsed]⟩
    | error _ => exact .inr (by simp [configArm, parseNamedParam, parsed])

/-- Every error of `configchannel` names the word it rejects: a flag whose value is missing or
does not parse, or a word it does not know. -/
theorem configchannelStep_error {word : Word} {words : List Word} {message : String}
    (failed : configchannelStep (word :: words) = .error message) :
    message = invalidParameter word ∨ message = unknownParameter word := by
  have arm : ∀ {ε α : Type} (fromStr : Word → Except ε α) (make : α → ConfigParam),
      configArm fromStr make word words = .error message → message = invalidParameter word := by
    intro ε α fromStr make armFailed
    rcases configArm_cases fromStr make word words with ⟨_, _, _, _, _, set⟩ | failedArm
    · rw [set] at armFailed; cases armFailed
    · rw [failedArm] at armFailed; exact (ConfigStep.error.inj armFailed).symm
  simp only [configchannelStep] at failed
  split_ifs at failed
  · exact .inl (arm _ _ failed)
  · exact .inl (arm _ _ failed)
  · exact .inl (arm _ _ failed)
  · exact .inr (ConfigStep.error.inj failed).symm

/-- An iteration that sets a parameter reads at least one word. -/
theorem configchannelStep_shorter {words rest : List Word} {param : ConfigParam}
    (stepped : configchannelStep words = .set param rest) : rest.length < words.length := by
  have arm : ∀ {ε α : Type} (fromStr : Word → Except ε α) (make : α → ConfigParam) (word : Word)
      (more : List Word), configArm fromStr make word more = .set param rest →
        rest.length < more.length + 1 := by
    intro ε α fromStr make word more armSet
    rcases configArm_cases fromStr make word more with ⟨_, left, _, rfl, _, set⟩ | failedArm
    · rw [set] at armSet
      cases armSet
      simp only [List.length_cons]
      omega
    · rw [failedArm] at armSet; cases armSet
  match words, stepped with
  | word :: more, stepped =>
    simp only [configchannelStep] at stepped
    simp only [List.length_cons]
    split_ifs at stepped
    · exact arm _ _ _ _ stepped
    · exact arm _ _ _ _ stepped
    · exact arm _ _ _ _ stepped

/-! ## The round trip of `configchannel` -/

/-- Each digit character reads back as its digit. -/
theorem toDigit_digitChar : ∀ digit, digit < 10 → toDigit (Nat.digitChar digit) = some digit := by
  decide

/-- One step of `Nat.toDigitsCore` in base ten: the last digit goes in front of what is already
printed. -/
theorem toDigitsCore_succ (fuel n : Nat) (digits : List Char) :
    Nat.toDigitsCore 10 (fuel + 1) n digits =
      if n / 10 = 0 then Nat.digitChar (n % 10) :: digits
      else Nat.toDigitsCore 10 fuel (n / 10) (Nat.digitChar (n % 10) :: digits) := rfl

/-- The digits `Nat.toDigitsCore` prints read back as the number, whatever follows them.

Proof: by induction on the fuel; the last digit printed is the first one read, and the value
read before it is the number without its last digit, which is at most `max`. -/
theorem digitsValue_toDigitsCore {max : Nat} :
    ∀ fuel n (digits : List Char), n < fuel → n ≤ max →
      digitsValue max 0 (Nat.toDigitsCore 10 fuel n digits) = digitsValue max n digits
  | 0, _, _, enough, _ => absurd enough (Nat.not_lt_zero _)
  | fuel + 1, n, digits, enough, bounded => by
    have last : n / 10 * 10 + n % 10 = n := Nat.div_add_mod' n 10
    rw [toDigitsCore_succ]
    split
    · next small =>
      have single : n < 10 := by omega
      rw [Nat.mod_eq_of_lt single]
      simp only [digitsValue, toDigit_digitChar n single, Nat.zero_mul, Nat.zero_add, bounded,
        if_true]
    · next large =>
      rw [digitsValue_toDigitsCore fuel (n / 10) _ (by omega) (by omega)]
      simp only [digitsValue, toDigit_digitChar _ (Nat.mod_lt _ (by decide)), last, bounded,
        if_true]

/-- Printing a number gives at least one digit. -/
theorem toDigitsCore_ne_nil : ∀ fuel n (digits : List Char), Nat.toDigitsCore 10 (fuel + 1) n digits ≠ []
  | fuel, n, digits => by
    rw [toDigitsCore_succ]
    split
    · exact List.cons_ne_nil _ _
    · cases fuel with
      | zero => exact List.cons_ne_nil _ _
      | succ fuel => exact toDigitsCore_ne_nil fuel _ _

/-- A word of digits that reads as a number is read as that number by `from_str`. -/
theorem fromStrUnsigned_of_digitsValue {max n : Nat} {word : Word} (nonempty : word ≠ [])
    (read : digitsValue max 0 word = .ok n) : fromStrUnsigned max word = .ok n := by
  unfold fromStrUnsigned
  split
  · exact absurd rfl nonempty
  all_goals simp_all [digitsValue, toDigit]

/-- Rust prints a `u64` as the digits of `Nat.toDigits 10`, and `from_str` reads them back. -/
theorem fromStrUnsigned_toDigits {max n : Nat} (bounded : n ≤ max) :
    fromStrUnsigned max (Nat.toDigits 10 n) = .ok n := by
  have read : digitsValue max 0 (Nat.toDigits 10 n) = .ok n := by
    exact (digitsValue_toDigitsCore _ _ _ (Nat.lt_succ_self n) bounded).trans rfl
  exact fromStrUnsigned_of_digitsValue (toDigitsCore_ne_nil n n []) read

/-- The words of a parameter as `help` documents them, with the value as Rust prints it. -/
def ConfigParam.words : ConfigParam → List Word
  | .minInbHtlc value => [minInbHtlcFlag, Nat.toDigits 10 value.toNat]
  | .maxInbHtlcPct value => [maxInbHtlcPctFlag, Nat.toDigits 10 value.toNat]
  | .supportYuv value => [supportYuvFlag, (toString value).toList]

/-- An arm reads a value that parses and goes on after it. -/
theorem configArm_ok {ε α : Type} {fromStr : Word → Except ε α} {paramRaw : Word} {value : α}
    (parsed : fromStr paramRaw = .ok value) (make : α → ConfigParam) (word : Word)
    (rest : List Word) : configArm fromStr make word (paramRaw :: rest) = .set (make value) rest := by
  simp [configArm, parseNamedParam, parsed]

/-- Function `u64::from_str` reads every value back from its decimal digits. -/
theorem fromStrU64_toDigits (value : UInt64) : fromStrU64 (Nat.toDigits 10 value.toNat) = .ok value := by
  have bounded : value.toNat ≤ UInt64.size - 1 := by have := value.toNat_lt_size; omega
  rw [fromStrU64, fromStrUnsigned_toDigits bounded]
  exact congrArg Except.ok (UInt64.toNat.inj (UInt64.toNat_ofNat_of_lt value.toNat_lt_size))

/-- One iteration reads a documented parameter back and goes on with what follows it. -/
theorem configchannelStep_words (param : ConfigParam) (rest : List Word) :
    configchannelStep (param.words ++ rest) = .set param rest := by
  cases param with
  | minInbHtlc value =>
    simp only [ConfigParam.words, List.cons_append, List.nil_append, configchannelStep, if_pos]
    exact configArm_ok (fromStrU64_toDigits value) _ _ _
  | maxInbHtlcPct value =>
    have parsed : fromStrU8 (Nat.toDigits 10 value.toNat) = .ok value := by
      have bounded : value.toNat ≤ UInt8.size - 1 := by have := value.toNat_lt_size; omega
      rw [fromStrU8, fromStrUnsigned_toDigits bounded]
      exact congrArg Except.ok (UInt8.toNat.inj (UInt8.toNat_ofNat_of_lt value.toNat_lt_size))
    have distinct : maxInbHtlcPctFlag ≠ minInbHtlcFlag := by decide
    simp only [ConfigParam.words, List.cons_append, List.nil_append, configchannelStep,
      if_neg distinct, if_pos]
    exact configArm_ok parsed _ _ _
  | supportYuv value =>
    have parsed : fromStrBool (toString value).toList = .ok value := by cases value <;> rfl
    have distinct : supportYuvFlag ≠ minInbHtlcFlag ∧ supportYuvFlag ≠ maxInbHtlcPctFlag := by
      decide
    simp only [ConfigParam.words, List.cons_append, List.nil_append, configchannelStep,
      if_neg distinct.1, if_neg distinct.2, if_pos]
    exact configArm_ok parsed _ _ _

/-- The loop reads documented parameters back in order, with fuel to spare. -/
theorem configchannelLoop_words :
    ∀ (params : List ConfigParam) (fuel : Nat), (params.flatMap ConfigParam.words).length ≤ fuel →
      configchannelLoop fuel (params.flatMap ConfigParam.words) = (params, none)
  | [], 0, _ => rfl
  | [], _ + 1, _ => rfl
  | param :: params, fuel, enough => by
    have two : param.words.length = 2 := by cases param <;> rfl
    obtain ⟨fuel, rfl⟩ : ∃ less, fuel = less + 1 := ⟨fuel - 1, by simp at enough; omega⟩
    have rest := configchannelLoop_words params fuel (by simp at enough ⊢; omega)
    simp only [configchannelLoop, List.flatMap_cons, configchannelStep_words, rest]

/-! ## Command lines -/

/-- What a command line of `poll_for_user_input` does with `default_config`. -/
inductive ConfigCommand
  /-- The command `configchannel`, with the words after it. -/
  | configchannel (words : List Word)
  /-- The command `openchannel`, with the words after it. -/
  | openchannel (words : List Word)
  /-- The commands `quit` and `exit` end the loop of the CLI. -/
  | quit
  /-- An empty line or another command, which leaves `default_config` alone. -/
  | other
  deriving DecidableEq, Repr

/-- The dispatch of `poll_for_user_input` on the first word of a line (cli.rs 214-221); an
empty line has no first word. -/
def configCommand (line : List Char) : ConfigCommand :=
  match splitWhitespace line with
  | [] => .other
  | word :: words =>
    if word = "configchannel".toList then .configchannel words
    else if word = "openchannel".toList then .openchannel words
    else if word = "quit".toList ∨ word = "exit".toList then .quit
    else .other

/-- The line `help` documents for a list of parameters: `configchannel` and each parameter's
flag and value, separated by spaces. -/
def configchannelLine (params : List ConfigParam) : List Char :=
  [' '].intercalate ("configchannel".toList :: params.flatMap ConfigParam.words)

/-- Joining words with spaces and splitting at white space gives the words back, when no word
holds white space. -/
theorem splitOnP_intercalate_space : ∀ words : List Word, words ≠ [] →
    (∀ word ∈ words, ∀ c ∈ word, isWhitespace c = false) →
      ([' '].intercalate words).splitOnP isWhitespace = words
  | [], nonempty, _ => absurd rfl nonempty
  | [word], _, plain => by
    simpa [List.intercalate] using
      List.splitOnP_eq_single isWhitespace word (by simpa using plain word (.head _))
  | word :: next :: more, _, plain => by
    have joined : [' '].intercalate (word :: next :: more) =
        word ++ ' ' :: [' '].intercalate (next :: more) := by
      simp [List.intercalate, List.intersperse_cons_cons]
    rw [joined, List.splitOnP_first isWhitespace word (by simpa using plain word (.head _)) ' ' rfl,
      splitOnP_intercalate_space (next :: more) (List.cons_ne_nil _ _)
        fun other mem => plain other (.tail _ mem)]

/-- Each digit character is a digit and not white space. -/
theorem digitChar_plain : ∀ digit, digit < 10 → isWhitespace (Nat.digitChar digit) = false := by
  decide

/-- The characters `Nat.toDigitsCore` adds are digit characters. -/
theorem mem_toDigitsCore : ∀ fuel n (digits : List Char) (c : Char),
    c ∈ Nat.toDigitsCore 10 fuel n digits → c ∈ digits ∨ isWhitespace c = false
  | 0, _, _, _, mem => .inl mem
  | fuel + 1, n, digits, c, mem => by
    have plain := digitChar_plain (n % 10) (Nat.mod_lt _ (by decide))
    rw [toDigitsCore_succ] at mem
    split at mem
    · rcases List.mem_cons.1 mem with rfl | mem
      · exact .inr plain
      · exact .inl mem
    · rcases mem_toDigitsCore fuel _ _ c mem with mem | plainChar
      · rcases List.mem_cons.1 mem with rfl | mem
        · exact .inr plain
        · exact .inl mem
      · exact .inr plainChar

/-- The words of a parameter are not empty and hold no white space. -/
theorem ConfigParam.words_plain (param : ConfigParam) :
    ∀ word ∈ param.words, word ≠ [] ∧ ∀ c ∈ word, isWhitespace c = false := by
  have digits : ∀ n, Nat.toDigits 10 n ≠ [] ∧ ∀ c ∈ Nat.toDigits 10 n, isWhitespace c = false :=
    fun n => ⟨toDigitsCore_ne_nil n n [], fun c mem =>
      (mem_toDigitsCore _ _ _ c mem).resolve_left (List.not_mem_nil c)⟩
  cases param with
  | minInbHtlc value =>
    simp only [ConfigParam.words, List.mem_cons, List.mem_singleton, List.not_mem_nil, or_false,
      forall_eq_or_imp, forall_eq]
    exact ⟨by decide, digits _⟩
  | maxInbHtlcPct value =>
    simp only [ConfigParam.words, List.mem_cons, List.mem_singleton, List.not_mem_nil, or_false,
      forall_eq_or_imp, forall_eq]
    exact ⟨by decide, digits _⟩
  | supportYuv value => cases value <;> decide

/-- The words of the line `help` documents for a list of parameters. -/
theorem splitWhitespace_configchannelLine (params : List ConfigParam) :
    splitWhitespace (configchannelLine params) =
      "configchannel".toList :: params.flatMap ConfigParam.words := by
  have plain : ∀ word ∈ "configchannel".toList :: params.flatMap ConfigParam.words,
      word ≠ [] ∧ ∀ c ∈ word, isWhitespace c = false := by
    intro word mem
    rcases List.mem_cons.1 mem with rfl | mem
    · decide
    · obtain ⟨param, _, inParam⟩ := List.mem_flatMap.1 mem
      exact param.words_plain word inParam
  rw [splitWhitespace, configchannelLine,
    splitOnP_intercalate_space _ (List.cons_ne_nil _ _) fun word mem => (plain word mem).2,
    List.filter_eq_self]
  intro word mem
  simpa using (plain word mem).1

/-! ## Command `openchannel` -/

/-- A YUV pixel: a luma (`u128`) and a chroma. -/
structure YuvPixel (Chroma : Type) where
  luma : Nat
  chroma : Chroma
  deriving DecidableEq, Repr

/-- The decoders `openchannel` takes from other crates. -/
structure Decoders (PublicKey Chroma : Type) where
  /-- Function `hex_utils::to_compressed_pubkey`. -/
  toCompressedPubkey : Word → Option PublicKey
  /-- Function `Chroma::from_address`, with the text of its error. -/
  chromaFromAddress : Word → Except String Chroma

section Openchannel

variable {PublicKey Chroma : Type} (decoders : Decoders PublicKey Chroma)

/-- Function `parse_pixel_word`: `<luma>:<chroma>`, read with `u128::from_str` (up to
`u128::MAX`) and `Chroma::from_address`; what follows a second colon is ignored. -/
def parsePixelWord (word : Word) : Except String (YuvPixel Chroma) :=
  match word.splitOnP (· = ':') with
  | lumaRaw :: chromaRaw :: _ =>
    match fromStrUnsigned 340282366920938463463374607431768211455 lumaRaw with
    | .error e => .error ("invalid Luma(u64): " ++ e.description)
    | .ok luma =>
      match decoders.chromaFromAddress chromaRaw with
      | .error e => .error ("invalid Chroma(P2TR): " ++ e)
      | .ok chroma => .ok ⟨luma, chroma⟩
  | _ => .error "Pixel must be in the form: <luma>:<chroma>"

/-- The variables the flag loop of `openchannel` sets. -/
structure OpenchannelFlags (Chroma : Type) where
  announceChannel : Bool
  withAnchors : Bool
  yuvPixel : Option (YuvPixel Chroma)

/-- The arm `--pixel` of the flag loop: the pixel word is read, and the loop goes on with
`proceed`. -/
def pixelArm (pixelWord : Word) (flags : OpenchannelFlags Chroma)
    (proceed : OpenchannelFlags Chroma → Except String (OpenchannelFlags Chroma)) :
    Except String (OpenchannelFlags Chroma) :=
  match parsePixelWord decoders pixelWord with
  | .ok pixel => proceed { flags with yuvPixel := some pixel }
  | .error err => .error ("\rERROR: invalid `--pixel` param: " ++ err)

/-- The flag loop of `openchannel` (cli.rs 286-313); `--pixel` reads the next word, or an empty
one when there is none (`unwrap_or_default`). -/
def openchannelFlags : OpenchannelFlags Chroma → List Word → Except String (OpenchannelFlags Chroma)
  | flags, [] => .ok flags
  | flags, word :: words =>
    if word = "--pixel".toList then
      match words with
      | [] => pixelArm decoders [] flags .ok
      | pixelWord :: rest => pixelArm decoders pixelWord flags (openchannelFlags · rest)
    else if word = "--public".toList ∨ word = "--public=true".toList then
      openchannelFlags { flags with announceChannel := true } words
    else if word = "--public=false".toList then
      openchannelFlags { flags with announceChannel := false } words
    else if word = "--with-anchors".toList ∨ word = "--with-anchors=true".toList then
      openchannelFlags { flags with withAnchors := true } words
    else if word = "--with-anchors=false".toList then
      openchannelFlags { flags with withAnchors := false } words
    else .error (unknownParameter word)

/-- What `openchannel` hands on to the lookup of the peer and to `open_channel`. -/
structure OpenchannelRequest (PublicKey Chroma : Type) where
  pubkey : PublicKey
  chanAmtSat : UInt64
  config : UserConfig
  yuvPixel : Option (YuvPixel Chroma)

/-- The usage error of `openchannel`. -/
def openchannelUsage : String :=
  "\rERROR: openchannel has 2 required arguments: `openchannel peer_pubkey channel_amt_satoshis [--pixel <luma>:<chroma>] [--public] [--with-anchors] [--min-inbound-htlc]`"

/-- The arm `openchannel` of `poll_for_user_input` (cli.rs 264-318) up to the lookup of the
peer in `channel_peer_data`: the key, the amount, the flags, and a clone of the shared
configuration with the two fields the flags set. -/
def openchannel (defaultConfig : UserConfig) (words : List Word) :
    Except String (OpenchannelRequest PublicKey Chroma) :=
  match words with
  | peerPubkey :: channelValueSat :: flagWords =>
    match decoders.toCompressedPubkey peerPubkey with
    | none => .error "\rError: invalid peer pubkey"
    | some pubkey =>
      match fromStrU64 channelValueSat with
      | .error _ => .error "\rERROR: channel amount must be a number"
      | .ok chanAmtSat =>
        (openchannelFlags decoders ⟨false, false, none⟩ flagWords).map fun flags =>
          ⟨pubkey, chanAmtSat,
            { defaultConfig with
              negotiateAnchorsZeroFeeHtlcTx := flags.withAnchors
              announcedChannel := flags.announceChannel },
            flags.yuvPixel⟩
  | _ => .error openchannelUsage

/-- How an anchors flag changes whether the channel negotiates anchors. -/
def anchorsStep (anchors : Bool) (word : Word) : Bool :=
  if word = "--with-anchors".toList ∨ word = "--with-anchors=true".toList then true
  else if word = "--with-anchors=false".toList then false
  else anchors

/-- Whether the last anchors flag among the words asks for anchors; without one, no anchors. -/
def lastAnchorsFlag (words : List Word) : Bool := words.foldl anchorsStep false

/-- A pixel word that parses holds a colon. -/
theorem colon_of_parsePixelWord {word : Word} {pixel : YuvPixel Chroma}
    (parsed : parsePixelWord decoders word = .ok pixel) : ':' ∈ word := by
  by_contra noColon
  have single : word.splitOnP (· = ':') = [word] :=
    List.splitOnP_eq_single _ _ fun c mem same => noColon (of_decide_eq_true same ▸ mem)
  simp [parsePixelWord, single] at parsed

/-- A word that is no anchors flag leaves the anchors alone. -/
theorem anchorsStep_of_not_flag {word : Word}
    (notFlag : word ≠ "--with-anchors".toList ∧ word ≠ "--with-anchors=true".toList ∧
      word ≠ "--with-anchors=false".toList) (anchors : Bool) :
    anchorsStep anchors word = anchors := by
  simp only [anchorsStep, notFlag.1, notFlag.2.1, notFlag.2.2, or_self, if_false]

/-- A word with a colon is no anchors flag. -/
theorem anchorsStep_of_colon {word : Word} (colon : ':' ∈ word) (anchors : Bool) :
    anchorsStep anchors word = anchors :=
  anchorsStep_of_not_flag ⟨by rintro rfl; revert colon; decide, by rintro rfl; revert colon; decide,
    by rintro rfl; revert colon; decide⟩ anchors

/-- The pixel word read after a trailing `--pixel` is empty, which never parses. -/
theorem parsePixelWord_nil : parsePixelWord decoders [] = .error "Pixel must be in the form: <luma>:<chroma>" :=
  rfl

/-- The arm `--pixel` goes on only with a pixel that parses. -/
theorem pixelArm_ok {pixelWord : Word} {flags flags' : OpenchannelFlags Chroma}
    {proceed : OpenchannelFlags Chroma → Except String (OpenchannelFlags Chroma)}
    (parsed : pixelArm decoders pixelWord flags proceed = .ok flags') :
    ∃ pixel, parsePixelWord decoders pixelWord = .ok pixel ∧
      proceed { flags with yuvPixel := some pixel } = .ok flags' := by
  unfold pixelArm at parsed
  cases pixelParsed : parsePixelWord decoders pixelWord with
  | ok pixel => rw [pixelParsed] at parsed; exact ⟨pixel, rfl, parsed⟩
  | error _ => rw [pixelParsed] at parsed; cases parsed

/-- The flag loop decides anchors by the last anchors flag: a pixel's word, the only word the
loop reads as a value, holds a colon and is no flag. -/
theorem openchannelFlags_withAnchors (flags : OpenchannelFlags Chroma) (words : List Word)
    {flags' : OpenchannelFlags Chroma} (parsed : openchannelFlags decoders flags words = .ok flags') :
    flags'.withAnchors = words.foldl anchorsStep flags.withAnchors := by
  induction flags, words using openchannelFlags.induct decoders generalizing flags' with
  | case1 => cases parsed; rfl
  | case2 flags =>
    simp only [openchannelFlags, if_true] at parsed
    obtain ⟨_, nilParsed, _⟩ := pixelArm_ok decoders parsed
    rw [parsePixelWord_nil] at nilParsed
    cases nilParsed
  | case3 flags pixelWord rest restAnchors =>
    simp only [openchannelFlags, if_true] at parsed
    obtain ⟨_, pixelParsed, restParsed⟩ := pixelArm_ok decoders parsed
    rw [restAnchors _ restParsed, List.foldl_cons, List.foldl_cons,
      anchorsStep_of_colon (colon_of_parsePixelWord decoders pixelParsed),
      anchorsStep_of_not_flag (by decide)]
  | case4 flags word words notPixel public wordsAnchors =>
    rw [openchannelFlags.eq_def] at parsed
    simp only [notPixel, public, if_true, if_false] at parsed
    rw [wordsAnchors parsed, List.foldl_cons]
    rcases public with rfl | rfl <;> rw [anchorsStep_of_not_flag (by decide)]
  | case5 flags words _ _ wordsAnchors =>
    rw [openchannelFlags.eq_def] at parsed
    rw [wordsAnchors parsed, List.foldl_cons, anchorsStep_of_not_flag (by decide)]
  | case6 flags word words notPixel notPublic notPublicFalse anchors wordsAnchors =>
    rw [openchannelFlags.eq_def] at parsed
    simp only [notPixel, notPublic, notPublicFalse, anchors, if_true, if_false] at parsed
    rw [wordsAnchors parsed, List.foldl_cons]
    simp only [anchorsStep, anchors, if_true]
  | case7 flags words _ _ _ _ wordsAnchors =>
    rw [openchannelFlags.eq_def] at parsed
    rw [wordsAnchors parsed, List.foldl_cons]
    rfl
  | case8 flags word words notPixel notPublic notPublicFalse notAnchors notAnchorsFalse =>
    rw [openchannelFlags.eq_def] at parsed
    simp only [notPixel, notPublic, notPublicFalse, notAnchors, notAnchorsFalse, if_false,
      reduceCtorEq] at parsed

/-- A channel that `openchannel` opens negotiates anchors exactly when the last anchors flag of
its line asks for them, whatever the shared configuration says. -/
theorem openchannel_anchors {defaultConfig : UserConfig} {words : List Word}
    {request : OpenchannelRequest PublicKey Chroma}
    (opened : openchannel decoders defaultConfig words = .ok request) :
    request.config.negotiateAnchorsZeroFeeHtlcTx = lastAnchorsFlag (words.drop 2) := by
  rcases words with _ | ⟨peerPubkey, _ | ⟨channelValueSat, flagWords⟩⟩
  · cases opened
  · cases opened
  simp only [openchannel] at opened
  cases key : decoders.toCompressedPubkey peerPubkey with
  | none => simp [key] at opened
  | some pubkey =>
    cases amount : fromStrU64 channelValueSat with
    | error _ => simp [key, amount] at opened
    | ok chanAmtSat =>
      cases flagsParsed : openchannelFlags decoders ⟨false, false, none⟩ flagWords with
      | error _ => simp [key, amount, flagsParsed, Except.map] at opened
      | ok flags =>
        simp only [key, amount, flagsParsed, Except.map, Except.ok.injEq] at opened
        subst opened
        exact openchannelFlags_withAnchors decoders _ _ flagsParsed

end Openchannel

/-! ## The CLI and the event handler -/

/-- Where the CLI thread is, as far as `default_config` is concerned. -/
inductive CliConfigState
  | idle
  /-- In the loop of `configchannel`, with the words it has not read. -/
  | configuring (words : List Word)
  /-- After `quit` or `exit`. -/
  | stopped
  deriving DecidableEq, Repr

/-- The shared configuration, where the CLI thread is, and the configurations channels are
accepted and opened with. -/
structure ConfigNode (PublicKey Chroma : Type) where
  defaultConfig : UserConfig
  cli : CliConfigState
  /-- The configurations `accept_inbound_channel_override_config` was given, in order. -/
  accepted : List UserConfig
  /-- The requests `openchannel` handed on to the lookup of the peer, in order. -/
  opened : List (OpenchannelRequest PublicKey Chroma)

/-- One step of either thread. -/
inductive ConfigAction
  /-- The CLI reads a line while it waits for one. -/
  | line (line : List Char)
  /-- The CLI runs one iteration of the loop of `configchannel`. -/
  | configure
  /-- The event handler handles an `Event::OpenChannelRequest` (main.rs 385-411). -/
  | openChannelRequest
  deriving DecidableEq, Repr

section Node

variable {PublicKey Chroma : Type} (decoders : Decoders PublicKey Chroma)

/-- The node after `start_ldk`: the shared configuration, and the CLI waiting for a line. -/
def ConfigNode.start (config : UserConfig) : ConfigNode PublicKey Chroma :=
  ⟨config, .idle, [], []⟩

/-- What the CLI does with a line: `configchannel` enters its loop, `openchannel` hands a
request on at once, `quit` and `exit` end the loop, and every other line leaves the shared
configuration alone. -/
def ConfigNode.readLine (n : ConfigNode PublicKey Chroma) (line : List Char) :
    ConfigNode PublicKey Chroma :=
  match configCommand line with
  | .configchannel words => { n with cli := .configuring words }
  | .openchannel words =>
    match openchannel decoders n.defaultConfig words with
    | .ok request => { n with opened := n.opened ++ [request] }
    | .error _ => n
  | .quit => { n with cli := .stopped }
  | .other => n

/-- One step, `none` when the thread cannot take it: the CLI reads a line only while it waits
for one, and sets each parameter of `configchannel` under its own lock. -/
def ConfigNode.step (n : ConfigNode PublicKey Chroma) :
    ConfigAction → Option (ConfigNode PublicKey Chroma)
  | .line line => if n.cli = .idle then some (n.readLine decoders line) else none
  | .configure =>
    match n.cli with
    | .configuring words =>
      match configchannelStep words with
      | .set param rest =>
        some { n with defaultConfig := param.apply n.defaultConfig, cli := .configuring rest }
      | .done | .error _ => some { n with cli := .idle }
    | _ => none
  | .openChannelRequest => some { n with accepted := n.accepted ++ [n.defaultConfig] }

/-- Runs a list of steps. -/
def ConfigNode.run (n : ConfigNode PublicKey Chroma) :
    List ConfigAction → Option (ConfigNode PublicKey Chroma)
  | [] => some n
  | action :: more => (n.step decoders action).bind (·.run more)

/-- The loop of `configchannel`, step by step: from any words, the CLI sets the parameters the
loop reads, in order, each under its own lock, and returns to waiting for a line, whether the
loop ends at the last word or at an error; a line that fails keeps what it set before the
failing word.

Proof: by induction on the fuel, one iteration per step (`configchannelStep`); an iteration
that sets a parameter reads a word (`configchannelStep_shorter`), so the fuel never runs out
before the words. -/
theorem ConfigNode.run_configchannel : ∀ (fuel : Nat) (words : List Word) (n : ConfigNode PublicKey Chroma),
    words.length ≤ fuel → n.cli = .configuring words →
      n.run decoders (List.replicate ((configchannelLoop fuel words).1.length + 1) .configure) =
        some { n with
          defaultConfig := (configchannelLoop fuel words).1.foldl (fun config param => param.apply config)
            n.defaultConfig
          cli := .idle }
  | 0, words, n, enough, configuring => by
    obtain rfl : words = [] := List.eq_nil_of_length_eq_zero (Nat.le_zero.1 enough)
    simp [ConfigNode.run, ConfigNode.step, configuring, configchannelStep, configchannelLoop]
  | fuel + 1, words, n, enough, configuring => by
    cases stepped : configchannelStep words with
    | done => simp [ConfigNode.run, ConfigNode.step, configuring, configchannelLoop, stepped]
    | error message => simp [ConfigNode.run, ConfigNode.step, configuring, configchannelLoop, stepped]
    | set param rest =>
      have shorter := configchannelStep_shorter stepped
      have first : n.step decoders .configure =
          some { n with defaultConfig := param.apply n.defaultConfig, cli := .configuring rest } := by
        simp [ConfigNode.step, configuring, stepped]
      have loop : configchannelLoop (fuel + 1) words =
          (param :: (configchannelLoop fuel rest).1, (configchannelLoop fuel rest).2) := by
        simp [configchannelLoop, stepped]
      rw [loop, List.length_cons, List.replicate_succ, ConfigNode.run, first, Option.some_bind,
        ConfigNode.run_configchannel fuel rest _ (by omega) rfl]
      rfl

/-- Typing a `configchannel` line as `help` documents it, with values printed as Rust prints
them, sets exactly its parameters in order, each under its own lock, and leaves the CLI waiting
for the next line: every documented command parses back to what it says.

Proof: the line splits at its spaces into its words (`splitWhitespace_configchannelLine`); each
iteration of the loop reads a flag and its printed value back (`configchannelStep_words`, from
`fromStrUnsigned_toDigits`), and the steps of the loop set them in turn
(`ConfigNode.run_configchannel`, `configchannelLoop_words`). -/
theorem configchannel_round_trip (n : ConfigNode PublicKey Chroma) (waiting : n.cli = .idle)
    (params : List ConfigParam) :
    n.run decoders (.line (configchannelLine params) :: List.replicate (params.length + 1) .configure) =
      some { n with
        defaultConfig := params.foldl (fun config param => param.apply config) n.defaultConfig } := by
  have read : n.step decoders (.line (configchannelLine params)) =
      some { n with cli := .configuring (params.flatMap ConfigParam.words) } := by
    simp [ConfigNode.step, ConfigNode.readLine, configCommand, waiting,
      splitWhitespace_configchannelLine]
  have loop := configchannelLoop_words params _ le_rfl
  have steps := ConfigNode.run_configchannel decoders _ _
    { n with cli := .configuring (params.flatMap ConfigParam.words) } le_rfl rfl
  rw [loop] at steps
  rw [ConfigNode.run, read, Option.some_bind, steps]
  cases n
  cases waiting
  rfl

/-- The shared configuration negotiates anchors, and so did every inbound channel accepted so
far. -/
def ConfigNode.AnchorsKept (n : ConfigNode PublicKey Chroma) : Prop :=
  n.defaultConfig.negotiateAnchorsZeroFeeHtlcTx = true ∧
    ∀ config ∈ n.accepted, config.negotiateAnchorsZeroFeeHtlcTx = true

/-- No parameter of `configchannel` touches anchors. -/
@[simp] theorem ConfigParam.apply_negotiateAnchors (param : ConfigParam) (config : UserConfig) :
    (param.apply config).negotiateAnchorsZeroFeeHtlcTx = config.negotiateAnchorsZeroFeeHtlcTx := by
  cases param <;> rfl

/-- Reading a line changes neither the shared configuration nor the accepted channels: an
`openchannel` line works on a clone. -/
theorem ConfigNode.readLine_shared (n : ConfigNode PublicKey Chroma) (line : List Char) :
    (n.readLine decoders line).defaultConfig = n.defaultConfig ∧
      (n.readLine decoders line).accepted = n.accepted := by
  unfold ConfigNode.readLine
  split
  · exact ⟨rfl, rfl⟩
  · split <;> exact ⟨rfl, rfl⟩
  · exact ⟨rfl, rfl⟩
  · exact ⟨rfl, rfl⟩

/-- Every step of either thread keeps anchors on. -/
theorem ConfigNode.AnchorsKept.step {n n' : ConfigNode PublicKey Chroma} (kept : n.AnchorsKept)
    {action : ConfigAction} (stepped : n.step decoders action = some n') : n'.AnchorsKept := by
  cases action with
  | line line =>
    simp only [ConfigNode.step] at stepped
    split_ifs at stepped
    cases stepped
    obtain ⟨same, sameAccepted⟩ := n.readLine_shared decoders line
    exact ⟨same ▸ kept.1, sameAccepted ▸ kept.2⟩
  | configure =>
    simp only [ConfigNode.step] at stepped
    split at stepped
    · split at stepped <;> cases stepped
      · exact ⟨by simp [kept.1], kept.2⟩
      · exact kept
      · exact kept
    · cases stepped
  | openChannelRequest =>
    simp only [ConfigNode.step, Option.some.injEq] at stepped
    subst stepped
    refine ⟨kept.1, fun config mem => ?_⟩
    rcases List.mem_append.1 mem with mem | mem
    · exact kept.2 config mem
    · rw [List.mem_singleton.1 mem]
      exact kept.1

/-- Every run keeps anchors on. -/
theorem ConfigNode.AnchorsKept.run : ∀ (actions : List ConfigAction) {n n' : ConfigNode PublicKey Chroma},
    n.AnchorsKept → n.run decoders actions = some n' → n'.AnchorsKept
  | [], _, _, kept, ran => by
    cases ran
    exact kept
  | _ :: more, _, _, kept, ran => by
    simp only [ConfigNode.run, Option.bind_eq_some] at ran
    obtain ⟨_, stepped, rest⟩ := ran
    exact ConfigNode.AnchorsKept.run more (kept.step decoders stepped) rest

/-- Inbound and outbound channels negotiate anchors differently. In every interleaving of
command lines with inbound channel requests from the start, every inbound channel is accepted
with anchors, which `start_ldk` turns on and no `configchannel` parameter touches; a channel that
`openchannel` opens negotiates anchors exactly when the last anchors flag of its line asks for
them, and not at all without one, whatever the shared configuration says.

Proof: anchors stay on in the shared configuration and in every accepted one over every run
(`ConfigNode.AnchorsKept.run`); the flag loop of `openchannel` computes the last anchors flag
(`openchannel_anchors`). -/
theorem channel_anchors (ldkDefault : UserConfig) (yuvRpcUrlGiven : Bool)
    (actions : List ConfigAction) {n : ConfigNode PublicKey Chroma}
    (ran : (ConfigNode.start (startConfig ldkDefault yuvRpcUrlGiven)).run decoders actions = some n) :
    (∀ config ∈ n.accepted, config.negotiateAnchorsZeroFeeHtlcTx = true) ∧
      ∀ (defaultConfig : UserConfig) (words : List Word) (request : OpenchannelRequest PublicKey Chroma),
        openchannel decoders defaultConfig words = .ok request →
          request.config.negotiateAnchorsZeroFeeHtlcTx = lastAnchorsFlag (words.drop 2) :=
  ⟨(ConfigNode.AnchorsKept.run decoders actions ⟨rfl, fun _ mem => absurd mem (List.not_mem_nil _)⟩
      ran).2,
    fun _ _ _ opened => openchannel_anchors decoders opened⟩

end Node

/-- Decoders that take every word as a key and as a chroma. -/
def sampleDecoders : Decoders Word Word := ⟨some, .ok⟩

/-- A sample of LDK's defaults for the fields the sample reads or writes. -/
def sampleLdkDefault : UserConfig := ⟨1, 10, false, false, false⟩

/-- The line `configchannel --min-inb-htlc 5000 --support-yuv false` sets both parameters. -/
theorem configchannel_round_trip_after_start :
    (ConfigNode.start (startConfig sampleLdkDefault true) : ConfigNode Word Word).cli = .idle ∧
      (ConfigNode.start (startConfig sampleLdkDefault true)).run sampleDecoders
          (.line (configchannelLine [.minInbHtlc 5000, .supportYuv false]) ::
            List.replicate ([ConfigParam.minInbHtlc 5000, .supportYuv false].length + 1) .configure) =
        some { (ConfigNode.start (startConfig sampleLdkDefault true) : ConfigNode Word Word) with
          defaultConfig := [ConfigParam.minInbHtlc 5000, .supportYuv false].foldl
            (fun config param => param.apply config) (startConfig sampleLdkDefault true) } :=
  ⟨rfl, configchannel_round_trip sampleDecoders _ rfl [.minInbHtlc 5000, .supportYuv false]⟩

/-- After a `configchannel` line, an inbound channel is still accepted with anchors. -/
theorem inbound_anchors_after_configchannel :
    ∃ n : ConfigNode Word Word,
      (ConfigNode.start (startConfig sampleLdkDefault false)).run sampleDecoders
          [.line (configchannelLine [.minInbHtlc 5000]), .configure, .configure,
            .openChannelRequest] = some n ∧
        ((∀ config ∈ n.accepted, config.negotiateAnchorsZeroFeeHtlcTx = true) ∧
          ∀ (defaultConfig : UserConfig) (words : List Word) (request : OpenchannelRequest Word Word),
            openchannel sampleDecoders defaultConfig words = .ok request →
              request.config.negotiateAnchorsZeroFeeHtlcTx = lastAnchorsFlag (words.drop 2)) :=
  ⟨_, rfl, channel_anchors sampleDecoders sampleLdkDefault false
    [.line (configchannelLine [.minInbHtlc 5000]), .configure, .configure, .openChannelRequest] rfl⟩

end YuvLdkSample
