import YuvLdkSample.OnionMessage

/-!
# The commands `closechannel`, `forceclosechannel` and `updatebalance`

The three commands read a channel id and a peer key the same way. The channel id is a hex word
that must decode to 32 bytes, copied into `[0; 32]` with `copy_from_slice`, which panics on a
slice of another length. The key is decoded by `hex_utils::to_vec` and `PublicKey::from_slice`.
`closechannel` and `forceclosechannel` inline the key's parsing, with their own name in the
usage error; `updatebalance` calls `pubkey_from_input`, whose usage error names `updatebalance`.
`updatebalance` then reads two optional numbers by position: a new balance in msat
(`u64::from_str`) and a new YUV luma (`u128::from_str`, although its error text says `u64`).

None of the three ever panics, and every request they hand to the channel manager names the 32
bytes of the first word and the key of the second (`channel_commands_target`). The numbers of
`updatebalance` round-trip through their decimal digits, every luma up to `u128::MAX` included,
and no line asks for a new luma without a new balance (`updatebalance_round_trip`).
-/

namespace YuvLdkSample

/-- How a step of a command ends: with a value, with an error the CLI prints before it reads
the next line, or with a panic. -/
inductive CommandResult (α : Type)
  | ok (value : α)
  | error (message : String)
  | panic
  deriving DecidableEq, Repr

/-- The next step of a command, after a step that gave a value. -/
def CommandResult.bind {α β : Type} : CommandResult α → (α → CommandResult β) → CommandResult β
  | .ok value, next => next value
  | .error message, _ => .error message
  | .panic, _ => .panic

@[simp] theorem CommandResult.ok_bind {α β : Type} (value : α) (next : α → CommandResult β) :
    (CommandResult.ok value).bind next = next value := rfl

@[simp] theorem CommandResult.error_bind {α β : Type} (message : String)
    (next : α → CommandResult β) : (CommandResult.error message).bind next = .error message := rfl

/-- A chain of steps gives a value only when its first step does. -/
theorem CommandResult.bind_eq_ok {α β : Type} {first : CommandResult α} {next : α → CommandResult β}
    {value : β} (chained : first.bind next = .ok value) :
    ∃ middle, first = .ok middle ∧ next middle = .ok value := by
  cases first with
  | ok middle => exact ⟨middle, rfl, chained⟩
  | error _ => cases chained
  | panic => cases chained

/-- A chain of steps panics only when one of its steps does. -/
theorem CommandResult.bind_ne_panic {α β : Type} {first : CommandResult α}
    {next : α → CommandResult β} (firstSafe : first ≠ .panic)
    (nextSafe : ∀ middle, first = .ok middle → next middle ≠ .panic) : first.bind next ≠ .panic := by
  cases first with
  | ok middle => exact nextSafe middle rfl
  | error _ => simp
  | panic => exact absurd rfl firstSafe

/-- Function `<[u8]>::copy_from_slice`: the destination takes the bytes of the source, and the
call panics when the two lengths differ. -/
def copyFromSlice (destination source : List UInt8) : CommandResult (List UInt8) :=
  if source.length = destination.length then .ok source else .panic

/-- What a channel command asks of the channel manager. -/
inductive ChannelRequest (PublicKey : Type)
  /-- Function `close_channel`: `ChannelManager::close_channel`. -/
  | close (channelId : List UInt8) (counterpartyNodeId : PublicKey)
  /-- Function `force_close_channel`: `force_close_broadcasting_latest_txn`. -/
  | forceClose (channelId : List UInt8) (counterpartyNodeId : PublicKey)
  /-- Function `update_balance`: `ChannelManager::update_balance` with an `UpdateBalance`. -/
  | updateBalance (channelId : List UInt8) (nodeId : PublicKey) (newBalanceMsat : Option UInt64)
      (newYuvLuma : Option Nat)
  deriving DecidableEq, Repr

/-- The channel a request is about. -/
def ChannelRequest.channelId {PublicKey : Type} : ChannelRequest PublicKey → List UInt8
  | .close channelId _ | .forceClose channelId _ | .updateBalance channelId _ _ _ => channelId

/-- The peer a request is about. -/
def ChannelRequest.counterparty {PublicKey : Type} : ChannelRequest PublicKey → PublicKey
  | .close _ key | .forceClose _ key | .updateBalance _ key _ _ => key

/-- Function `u128::from_str`. -/
def fromStrU128 (word : Word) : Except IntErrorKind Nat :=
  fromStrUnsigned 340282366920938463463374607431768211455 word

section Commands

variable {PublicKey : Type} (decoders : OnionDecoders PublicKey)

/-- The channel-id step of the three commands: the word must decode to 32 bytes, which
`copy_from_slice` then copies into `[0; 32]`. -/
def parseChannelId (command : String) : List Word → CommandResult (List UInt8 × List Word)
  | [] =>
    .error ("\rERROR: " ++ command ++ " requires a channel ID: `" ++ command ++
      " <channel_id> <peer_pubkey>`")
  | channelIdStr :: rest =>
    match decoders.toVec channelIdStr with
    | some channelIdVec =>
      if channelIdVec.length ≠ 32 then .error "\rERROR: couldn't parse channel_id"
      else (copyFromSlice (List.replicate 32 0) channelIdVec).bind fun channelId => .ok (channelId, rest)
    | none => .error "\rERROR: couldn't parse channel_id"

/-- The peer-key step of the three commands. -/
def parsePeerPubkey (command : String) : List Word → CommandResult (PublicKey × List Word)
  | [] =>
    .error ("\rERROR: " ++ command ++ " requires a peer pubkey: `" ++ command ++
      " <channel_id> <peer_pubkey>`")
  | peerPubkeyStr :: rest =>
    match decoders.toVec peerPubkeyStr with
    | none => .error "\rERROR: couldn't parse peer_pubkey"
    | some peerPubkeyVec =>
      match decoders.fromSlice peerPubkeyVec with
      | none => .error "\rERROR: couldn't parse peer_pubkey"
      | some peerPubkey => .ok (peerPubkey, rest)

/-- Function `pubkey_from_input` (cli.rs 848-870), whose usage error names `updatebalance`. -/
def pubkeyFromInput : List Word → CommandResult (PublicKey × List Word) :=
  parsePeerPubkey decoders "updatebalance"

/-- The arms `closechannel` and `forceclosechannel` (cli.rs 544-615): a channel id and a peer
key, handed to the channel manager's `call`. -/
def closeArm (command : String) (call : List UInt8 → PublicKey → ChannelRequest PublicKey)
    (words : List Word) : CommandResult (ChannelRequest PublicKey) :=
  (parseChannelId decoders command words).bind fun parsed =>
    (parsePeerPubkey decoders command parsed.2).bind fun peer => .ok (call parsed.1 peer.1)

/-- The arm `closechannel` (cli.rs 544-579). -/
def closechannel : List Word → CommandResult (ChannelRequest PublicKey) :=
  closeArm decoders "closechannel" .close

/-- The arm `forceclosechannel` (cli.rs 580-615). -/
def forceclosechannel : List Word → CommandResult (ChannelRequest PublicKey) :=
  closeArm decoders "forceclosechannel" .forceClose

/-- An optional number read by position: no word leaves it out, and a word that does not parse
prints `message` and the parse error. -/
def optionalNumber {α : Type} (parse : Word → Except IntErrorKind α) (message : String) :
    List Word → CommandResult (Option α × List Word)
  | [] => .ok (none, [])
  | raw :: rest =>
    match parse raw with
    | .ok value => .ok (some value, rest)
    | .error e => .error (message ++ e.description)

/-- The arm `updatebalance` (cli.rs 688-740). -/
def updatebalance (words : List Word) : CommandResult (ChannelRequest PublicKey) :=
  (parseChannelId decoders "updatebalance" words).bind fun parsed =>
    (pubkeyFromInput decoders parsed.2).bind fun peer =>
      (optionalNumber fromStrU64 "\rERROR: invalid new_balance_msat (u64): " peer.2).bind
        fun balance =>
          (optionalNumber fromStrU128 "\rERROR: invalid luma(u64): " balance.2).bind fun luma =>
            .ok (.updateBalance parsed.1 peer.1 balance.1 luma.1)

/-! ## The shared steps -/

/-- The channel-id step never panics: the length check comes before `copy_from_slice`. -/
theorem parseChannelId_ne_panic (command : String) (words : List Word) :
    parseChannelId decoders command words ≠ .panic := by
  rcases words with _ | ⟨channelIdStr, rest⟩
  · simp [parseChannelId]
  · rcases vec : decoders.toVec channelIdStr with _ | channelIdVec
    · simp [parseChannelId, vec]
    · by_cases length : channelIdVec.length = 32 <;> simp [parseChannelId, vec, length, copyFromSlice]

/-- The channel-id step gives the 32 bytes its first word decodes to. -/
theorem parseChannelId_eq_ok {command : String} {words rest : List Word} {channelId : List UInt8}
    (parsed : parseChannelId decoders command words = .ok (channelId, rest)) :
    ∃ channelIdStr, words = channelIdStr :: rest ∧ decoders.toVec channelIdStr = some channelId ∧
      channelId.length = 32 := by
  rcases words with _ | ⟨channelIdStr, more⟩
  · cases parsed
  · unfold parseChannelId at parsed
    rcases vec : decoders.toVec channelIdStr with _ | channelIdVec <;> simp only [vec] at parsed
    · cases parsed
    · by_cases length : channelIdVec.length = 32 <;>
        simp [length, copyFromSlice] at parsed
      obtain ⟨rfl, rfl⟩ := parsed
      exact ⟨channelIdStr, rfl, vec, length⟩

/-- The channel-id step reads a word that decodes to 32 bytes. -/
theorem parseChannelId_of_decodes (command : String) {channelIdStr : Word} {channelId : List UInt8}
    (decoded : decoders.toVec channelIdStr = some channelId) (length : channelId.length = 32)
    (rest : List Word) :
    parseChannelId decoders command (channelIdStr :: rest) = .ok (channelId, rest) := by
  simp [parseChannelId, decoded, length, copyFromSlice]

/-- The peer-key step gives the key its first word decodes to. -/
theorem parsePeerPubkey_eq_ok {command : String} {words rest : List Word} {key : PublicKey}
    (parsed : parsePeerPubkey decoders command words = .ok (key, rest)) :
    ∃ peerPubkeyStr, words = peerPubkeyStr :: rest ∧ decoders.Decodes peerPubkeyStr key := by
  rcases words with _ | ⟨peerPubkeyStr, more⟩
  · cases parsed
  · unfold parsePeerPubkey at parsed
    rcases vec : decoders.toVec peerPubkeyStr with _ | bytes <;> simp only [vec] at parsed
    · cases parsed
    rcases fromSlice : decoders.fromSlice bytes with _ | decoded <;>
      simp only [fromSlice, CommandResult.ok.injEq, Prod.mk.injEq] at parsed
    · cases parsed
    obtain ⟨rfl, rfl⟩ := parsed
    exact ⟨peerPubkeyStr, rfl, bytes, vec, fromSlice⟩

/-- The peer-key step reads a word that decodes to a key. -/
theorem parsePeerPubkey_of_decodes (command : String) {peerPubkeyStr : Word} {key : PublicKey}
    (decoded : decoders.Decodes peerPubkeyStr key) (rest : List Word) :
    parsePeerPubkey decoders command (peerPubkeyStr :: rest) = .ok (key, rest) := by
  obtain ⟨bytes, vec, fromSlice⟩ := decoded
  simp [parsePeerPubkey, vec, fromSlice]

/-- The peer-key step has no panic. -/
theorem parsePeerPubkey_ne_panic (command : String) (words : List Word) :
    parsePeerPubkey decoders command words ≠ .panic := by
  rcases words with _ | ⟨peerPubkeyStr, rest⟩
  · simp [parsePeerPubkey]
  · rcases vec : decoders.toVec peerPubkeyStr with _ | bytes
    · simp [parsePeerPubkey, vec]
    · rcases fromSlice : decoders.fromSlice bytes with _ | key <;>
        simp [parsePeerPubkey, vec, fromSlice]

/-- An optional number has no panic. -/
theorem optionalNumber_ne_panic {α : Type} (parse : Word → Except IntErrorKind α)
    (message : String) (words : List Word) : optionalNumber parse message words ≠ .panic := by
  rcases words with _ | ⟨raw, rest⟩
  · simp [optionalNumber]
  · rcases parsedRaw : parse raw with e | value <;> simp [optionalNumber, parsedRaw]

/-- An optional number is read only from a word that is there: none is given back for no
word, and a number leaves the words after it. -/
theorem optionalNumber_eq_ok {α : Type} {parse : Word → Except IntErrorKind α} {message : String}
    {words rest : List Word} {value : Option α}
    (parsed : optionalNumber parse message words = .ok (value, rest)) :
    (words = [] ∧ value = none ∧ rest = []) ∨
      ∃ raw number, words = raw :: rest ∧ parse raw = .ok number ∧ value = some number := by
  rcases words with _ | ⟨raw, more⟩
  · simp only [optionalNumber, CommandResult.ok.injEq, Prod.mk.injEq] at parsed
    exact .inl ⟨rfl, parsed.1.symm, parsed.2.symm⟩
  · unfold optionalNumber at parsed
    rcases parsedRaw : parse raw with e | number <;>
      simp only [parsedRaw, CommandResult.ok.injEq, Prod.mk.injEq] at parsed
    · cases parsed
    · exact .inr ⟨raw, number, by rw [parsed.2], parsedRaw, parsed.1.symm⟩

/-! ## The three commands -/

/-- The shared arm of `closechannel` and `forceclosechannel` never panics, and hands on the
channel id and the key of its first two words. -/
theorem closeArm_target (command : String) (call : List UInt8 → PublicKey → ChannelRequest PublicKey)
    (words : List Word) :
    closeArm decoders command call words ≠ .panic ∧
      ∀ request, closeArm decoders command call words = .ok request →
        ∃ channelIdStr peerPubkeyStr more channelId key, words = channelIdStr :: peerPubkeyStr :: more ∧
          decoders.toVec channelIdStr = some channelId ∧ channelId.length = 32 ∧
          decoders.Decodes peerPubkeyStr key ∧ request = call channelId key := by
  refine ⟨CommandResult.bind_ne_panic (parseChannelId_ne_panic decoders command words)
    fun _ _ => CommandResult.bind_ne_panic (parsePeerPubkey_ne_panic decoders command _)
      fun _ _ => by simp, fun request requested => ?_⟩
  obtain ⟨⟨channelId, rest⟩, parsedId, requested⟩ := CommandResult.bind_eq_ok requested
  obtain ⟨⟨key, more⟩, parsedKey, handed⟩ := CommandResult.bind_eq_ok requested
  obtain ⟨channelIdStr, rfl, vec, length⟩ := parseChannelId_eq_ok decoders parsedId
  obtain ⟨peerPubkeyStr, rfl, decodes⟩ := parsePeerPubkey_eq_ok decoders parsedKey
  cases handed
  exact ⟨channelIdStr, peerPubkeyStr, more, channelId, key, rfl, vec, length, decodes, rfl⟩

/-- The steps `updatebalance` goes through before its request. -/
theorem updatebalance_eq_ok {words : List Word} {request : ChannelRequest PublicKey}
    (requested : updatebalance decoders words = .ok request) :
    ∃ channelIdStr peerPubkeyStr rest channelId key newBalanceMsat newYuvLuma,
      words = channelIdStr :: peerPubkeyStr :: rest ∧
      decoders.toVec channelIdStr = some channelId ∧ channelId.length = 32 ∧
      decoders.Decodes peerPubkeyStr key ∧
      request = .updateBalance channelId key newBalanceMsat newYuvLuma ∧
      ∃ afterBalance afterLuma,
        optionalNumber fromStrU64 "\rERROR: invalid new_balance_msat (u64): " rest =
          .ok (newBalanceMsat, afterBalance) ∧
        optionalNumber fromStrU128 "\rERROR: invalid luma(u64): " afterBalance =
          .ok (newYuvLuma, afterLuma) := by
  obtain ⟨⟨channelId, rest⟩, parsedId, requested⟩ := CommandResult.bind_eq_ok requested
  obtain ⟨⟨key, more⟩, parsedKey, requested⟩ := CommandResult.bind_eq_ok requested
  obtain ⟨⟨newBalanceMsat, afterBalance⟩, balance, requested⟩ := CommandResult.bind_eq_ok requested
  obtain ⟨⟨newYuvLuma, afterLuma⟩, luma, handed⟩ := CommandResult.bind_eq_ok requested
  obtain ⟨channelIdStr, rfl, vec, length⟩ := parseChannelId_eq_ok decoders parsedId
  obtain ⟨peerPubkeyStr, rfl, decodes⟩ := parsePeerPubkey_eq_ok decoders parsedKey
  cases handed
  exact ⟨channelIdStr, peerPubkeyStr, more, channelId, key, newBalanceMsat, newYuvLuma, rfl, vec,
    length, decodes, rfl, afterBalance, afterLuma, balance, luma⟩

/-- None of `closechannel`, `forceclosechannel` and `updatebalance` ever panics at its
`copy_from_slice`, and every request they hand to the channel manager is about the 32 bytes the
first word decodes to and the key the second decodes to.

Proof: the shared arm of the first two and the first two steps of `updatebalance` are the
channel-id step, which checks the length before it copies (`parseChannelId_ne_panic`,
`parseChannelId_eq_ok`), and the peer-key step (`parsePeerPubkey_eq_ok`). -/
theorem channel_commands_target (words : List Word) :
    (closechannel decoders words ≠ .panic ∧ forceclosechannel decoders words ≠ .panic ∧
      updatebalance decoders words ≠ .panic) ∧
      ∀ request, (closechannel decoders words = .ok request ∨
        forceclosechannel decoders words = .ok request ∨ updatebalance decoders words = .ok request) →
        ∃ channelIdStr peerPubkeyStr more, words = channelIdStr :: peerPubkeyStr :: more ∧
          decoders.toVec channelIdStr = some request.channelId ∧ request.channelId.length = 32 ∧
          decoders.Decodes peerPubkeyStr request.counterparty := by
  have updateSafe : updatebalance decoders words ≠ .panic :=
    CommandResult.bind_ne_panic (parseChannelId_ne_panic decoders _ words) fun _ _ =>
      CommandResult.bind_ne_panic (parsePeerPubkey_ne_panic decoders _ _) fun _ _ =>
        CommandResult.bind_ne_panic (optionalNumber_ne_panic _ _ _) fun _ _ =>
          CommandResult.bind_ne_panic (optionalNumber_ne_panic _ _ _) fun _ _ => by simp
  refine ⟨⟨(closeArm_target decoders _ _ words).1, (closeArm_target decoders _ _ words).1,
    updateSafe⟩, fun request requested => ?_⟩
  rcases requested with requested | requested | requested
  · obtain ⟨channelIdStr, peerPubkeyStr, more, _, _, rfl, vec, length, decodes, rfl⟩ :=
      (closeArm_target decoders _ _ words).2 request requested
    exact ⟨channelIdStr, peerPubkeyStr, more, rfl, vec, length, decodes⟩
  · obtain ⟨channelIdStr, peerPubkeyStr, more, _, _, rfl, vec, length, decodes, rfl⟩ :=
      (closeArm_target decoders _ _ words).2 request requested
    exact ⟨channelIdStr, peerPubkeyStr, more, rfl, vec, length, decodes⟩
  · obtain ⟨channelIdStr, peerPubkeyStr, rest, _, _, _, _, rfl, vec, length, decodes, rfl, -⟩ :=
      updatebalance_eq_ok decoders requested
    exact ⟨channelIdStr, peerPubkeyStr, rest, rfl, vec, length, decodes⟩

/-- Function `u128::from_str` reads every value up to `u128::MAX` back from its decimal digits. -/
theorem fromStrU128_toDigits {luma : Nat} (bounded : luma ≤ 340282366920938463463374607431768211455) :
    fromStrU128 (Nat.toDigits 10 luma) = .ok luma :=
  fromStrUnsigned_toDigits bounded

/-- The numbers of `updatebalance` round-trip through their decimal digits: after a channel id
word and a key word that decode, no further word asks for no change, one word for a new balance,
and two words for a new balance and a new luma, whatever follows them; every luma up to
`u128::MAX` is taken, past the `u64` its error text names. And no line at all asks for a new
luma without a new balance, since the luma is the word after the balance.

Proof: the first two steps read the two words (`parseChannelId_of_decodes`,
`parsePeerPubkey_of_decodes`), and the two numbers are read back from their digits
(`fromStrU64_toDigits`, `fromStrU128_toDigits`). The last part follows from the steps of any
request (`updatebalance_eq_ok`, `optionalNumber_eq_ok`): a luma comes from a word, and a word
there means the balance was read from the word before. -/
theorem updatebalance_round_trip {channelIdStr peerPubkeyStr : Word} {channelId : List UInt8}
    {key : PublicKey} (channelIdDecodes : decoders.toVec channelIdStr = some channelId)
    (length : channelId.length = 32) (keyDecodes : decoders.Decodes peerPubkeyStr key)
    (newBalanceMsat : UInt64) {newYuvLuma : Nat}
    (lumaBounded : newYuvLuma ≤ 340282366920938463463374607431768211455) (more : List Word) :
    updatebalance decoders [channelIdStr, peerPubkeyStr] = .ok (.updateBalance channelId key none none) ∧
      updatebalance decoders [channelIdStr, peerPubkeyStr, Nat.toDigits 10 newBalanceMsat.toNat] =
        .ok (.updateBalance channelId key (some newBalanceMsat) none) ∧
      updatebalance decoders (channelIdStr :: peerPubkeyStr :: Nat.toDigits 10 newBalanceMsat.toNat ::
        Nat.toDigits 10 newYuvLuma :: more) =
        .ok (.updateBalance channelId key (some newBalanceMsat) (some newYuvLuma)) ∧
      ∀ (words : List Word) (anyChannel : List UInt8) (anyKey : PublicKey) (anyLuma : Nat),
        updatebalance decoders words ≠ .ok (.updateBalance anyChannel anyKey none (some anyLuma)) := by
  have channel := parseChannelId_of_decodes decoders "updatebalance" channelIdDecodes length
  have peer := parsePeerPubkey_of_decodes decoders "updatebalance" keyDecodes
  refine ⟨?_, ?_, ?_, fun words anyChannel anyKey anyLuma requested => ?_⟩
  · simp [updatebalance, channel, pubkeyFromInput, peer, optionalNumber]
  · simp [updatebalance, channel, pubkeyFromInput, peer, optionalNumber,
      fromStrU64_toDigits newBalanceMsat]
  · simp [updatebalance, channel, pubkeyFromInput, peer, optionalNumber,
      fromStrU64_toDigits newBalanceMsat, fromStrU128_toDigits lumaBounded]
  · obtain ⟨_, _, _, _, _, _, _, -, -, -, -, same, afterBalance, _, balance, luma⟩ :=
      updatebalance_eq_ok decoders requested
    cases same
    rcases optionalNumber_eq_ok balance with ⟨-, -, rfl⟩ | ⟨_, _, -, -, given⟩
    · rcases optionalNumber_eq_ok luma with ⟨-, given, -⟩ | ⟨_, _, nonempty, -, -⟩
      · cases given
      · cases nonempty
    · cases given

end Commands

/-- Decoders that read a word of two characters as one key, and the word `id` as a channel id
of 32 zero bytes. -/
def sampleChannelDecoders : OnionDecoders Word :=
  ⟨fun word => if word = "id".toList then some (List.replicate 32 0)
    else if word.length = 2 then some [0] else none, fun _ => some ['k']⟩

/-- A balance and a luma past `u64::MAX` are read back from the line that writes them. -/
theorem updatebalance_with_large_luma :
    sampleChannelDecoders.toVec "id".toList = some (List.replicate 32 0) ∧
      (List.replicate 32 (0 : UInt8)).length = 32 ∧
      sampleChannelDecoders.Decodes "ab".toList ['k'] ∧
      18446744073709551616 ≤ 340282366920938463463374607431768211455 ∧
      updatebalance sampleChannelDecoders ["id".toList, "ab".toList, Nat.toDigits 10 (5000 : UInt64).toNat,
        Nat.toDigits 10 18446744073709551616] =
        .ok (.updateBalance (List.replicate 32 0) ['k'] (some 5000) (some 18446744073709551616)) :=
  have decodes : sampleChannelDecoders.Decodes "ab".toList ['k'] := ⟨[0], rfl, rfl⟩
  ⟨rfl, rfl, decodes, by decide,
    (@updatebalance_round_trip Word sampleChannelDecoders "id".toList "ab".toList
      (List.replicate 32 0) ['k'] rfl rfl decodes 5000 18446744073709551616 (by decide) []).2.2.1⟩

end YuvLdkSample
