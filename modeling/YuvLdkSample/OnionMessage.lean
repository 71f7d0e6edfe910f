import YuvLdkSample.ChannelConfig

/-!
# The command `sendonionmessage`

`sendonionmessage <node_id_1,node_id_2,..,destination_node_id> <type> <hex_bytes>` splits its
first word at commas and decodes every piece into a public key, stopping at the first that does
not decode. It then reads the message type, which must be at least 64, and the hex data, and
sends the message to `Destination::Node(intermediate_nodes.pop().unwrap())`, the last key of
the path, with no reply path. The hex decoder (`hex_utils::to_vec`) and `PublicKey::from_slice`
come from other crates and are parameters.

The `unwrap` never panics, and a message that is sent goes to the last node of the path, every
other node of which is decoded and then dropped (`sendonionmessage_targets_last`).
-/

namespace YuvLdkSample

/-- The decoders `sendonionmessage` and the channel commands take from other crates. -/
structure OnionDecoders (PublicKey : Type) where
  /-- Function `hex_utils::to_vec`. -/
  toVec : Word → Option (List UInt8)
  /-- Function `PublicKey::from_slice`, with its error left out. -/
  fromSlice : List UInt8 → Option PublicKey

/-- How `sendonionmessage` ends. -/
inductive OnionOutcome (PublicKey : Type)
  /-- An error is printed and the CLI reads the next line. -/
  | error (message : String)
  /-- The message of type `tlvType` and content `data` is handed to `send_onion_message` for
  `destination`. -/
  | send (tlvType : UInt64) (data : List UInt8) (destination : PublicKey)
  /-- Function `intermediate_nodes.pop().unwrap()` panics. -/
  | panic
  deriving DecidableEq, Repr

section Onion

variable {PublicKey : Type} (decoders : OnionDecoders PublicKey)

/-- A piece of the path decodes into a key. -/
def OnionDecoders.Decodes (piece : Word) (key : PublicKey) : Prop :=
  ∃ bytes, decoders.toVec piece = some bytes ∧ decoders.fromSlice bytes = some key

/-- The loop over the pieces of the path: each piece is decoded and pushed, and the first that
does not decode ends the loop with the error. -/
def onionPath : List Word → Except String (List PublicKey)
  | [] => .ok []
  | pkStr :: more =>
    match decoders.toVec pkStr with
    | none => .error "\rERROR: couldn't parse peer_pubkey"
    | some nodePubkeyVec =>
      match decoders.fromSlice nodePubkeyVec with
      | none => .error "\rERROR: couldn't parse peer_pubkey"
      | some nodePubkey => (onionPath more).map (nodePubkey :: ·)

/-- The arm `sendonionmessage` of `poll_for_user_input` (cli.rs 632-687), up to the call of
`send_onion_message`. -/
def sendonionmessage (words : List Word) : OnionOutcome PublicKey :=
  match words with
  | [] => .error "\rERROR: sendonionmessage requires at least one node id for the path"
  | pathPksStr :: rest =>
    match onionPath decoders (pathPksStr.splitOnP (· = ',')) with
    | .error message => .error message
    | .ok intermediateNodes =>
      match rest.head?.map fromStrU64 with
      | some (.ok tlvType) =>
        if tlvType ≥ 64 then
          match rest.tail.head?.map decoders.toVec with
          | some (some data) =>
            match intermediateNodes.getLast? with
            | some destination => .send tlvType data destination
            | none => .panic
          | _ => .error "\rNeed a hex data string"
        else .error "\rNeed an integral message type above 64"
      | _ => .error "\rNeed an integral message type above 64"

/-- A path decodes piece by piece: its first piece into its first key, the others into the rest. -/
theorem onionPath_cons_ok {pkStr : Word} {more : List Word} {keys : List PublicKey}
    (decoded : onionPath decoders (pkStr :: more) = .ok keys) :
    ∃ key restKeys, decoders.Decodes pkStr key ∧ onionPath decoders more = .ok restKeys ∧
      keys = key :: restKeys := by
  unfold onionPath at decoded
  rcases vec : decoders.toVec pkStr with _ | bytes <;> simp only [vec] at decoded
  · cases decoded
  rcases fromSlice : decoders.fromSlice bytes with _ | key <;> simp only [fromSlice] at decoded
  · cases decoded
  rcases rest : onionPath decoders more with _ | restKeys <;>
    simp only [rest, Except.map] at decoded <;> cases decoded
  exact ⟨key, restKeys, ⟨bytes, vec, fromSlice⟩, rfl, rfl⟩

/-- A path that decodes has a key for each piece, and its last key is that of its last piece. -/
theorem onionPath_last : ∀ {pieces : List Word} {keys : List PublicKey},
    onionPath decoders pieces = .ok keys → pieces ≠ [] →
      ∃ lastPiece destination, pieces.getLast? = some lastPiece ∧
        keys.getLast? = some destination ∧ decoders.Decodes lastPiece destination
  | [], _, _, nonempty => absurd rfl nonempty
  | [pkStr], _, decoded, _ => by
    obtain ⟨key, restKeys, decodes, rest, rfl⟩ := onionPath_cons_ok decoders decoded
    cases rest
    exact ⟨pkStr, key, rfl, rfl, decodes⟩
  | pkStr :: next :: more, _, decoded, _ => by
    obtain ⟨key, restKeys, -, rest, rfl⟩ := onionPath_cons_ok decoders decoded
    obtain ⟨lastPiece, destination, lastIs, keyIs, decodes⟩ :=
      onionPath_last rest (List.cons_ne_nil _ _)
    exact ⟨lastPiece, destination, by rw [List.getLast?_cons_cons, lastIs],
      by rw [List.getLast?_cons, keyIs]; rfl, decodes⟩

/-- The `unwrap` of `sendonionmessage` never panics, and a message it sends goes to the last node
of the path, with the type and the data of the next two words: the other nodes are decoded, and
an error among them stops the command, but none of them is passed on.

Proof: splitting at commas gives at least one piece (`List.splitOnP_ne_nil`), and a path that
decodes has a key for each piece, whose last is the last piece's (`onionPath_last`). -/
theorem sendonionmessage_targets_last (words : List Word) :
    sendonionmessage decoders words ≠ .panic ∧
      ∀ tlvType data destination, sendonionmessage decoders words = .send tlvType data destination →
        ∃ pathPksStr typeWord dataWord more lastPiece,
          words = pathPksStr :: typeWord :: dataWord :: more ∧
          (pathPksStr.splitOnP (· = ',')).getLast? = some lastPiece ∧
          decoders.Decodes lastPiece destination ∧
          fromStrU64 typeWord = .ok tlvType ∧ 64 ≤ tlvType ∧ decoders.toVec dataWord = some data := by
  match words with
  | [] => simp [sendonionmessage]
  | pathPksStr :: rest =>
    cases path : onionPath decoders (pathPksStr.splitOnP (· = ',')) with
    | error message => simp [sendonionmessage, path]
    | ok intermediateNodes =>
      obtain ⟨lastPiece, destination, lastIs, keyIs, decodes⟩ :=
        onionPath_last decoders path (List.splitOnP_ne_nil _ _)
      simp only [sendonionmessage, path, keyIs]
      refine ⟨by split <;> (try split) <;> (try split) <;> simp, fun tlvType data target sentTo => ?_⟩
      rcases rest with _ | ⟨typeWord, _ | ⟨dataWord, more⟩⟩
      · cases sentTo
      · simp only [List.head?_cons, List.tail_cons, List.head?_nil, Option.map_some',
          Option.map_none'] at sentTo
        split at sentTo <;> (try split_ifs at sentTo); cases sentTo
      · cases typed : fromStrU64 typeWord <;> cases dataIs : decoders.toVec dataWord <;>
          simp only [typed, dataIs, List.head?_cons, List.tail_cons, Option.map_some'] at sentTo <;>
          (try split_ifs at sentTo with above) <;> cases sentTo
        exact ⟨pathPksStr, typeWord, dataWord, more, lastPiece, rfl, lastIs, decodes, typed, above,
          dataIs⟩

end Onion

/-- Decoders that read a word of two characters as one key and reject every other word. -/
def sampleOnionDecoders : OnionDecoders Word :=
  ⟨fun word => if word.length = 2 then some [0] else none, fun _ => some ['k']⟩

/-- A path of two nodes: the message goes to the second. -/
theorem sendonionmessage_to_second_of_two :
    sendonionmessage sampleOnionDecoders ["ab,cd".toList, "64".toList, "00".toList] ≠ .panic ∧
      sendonionmessage sampleOnionDecoders ["ab,cd".toList, "64".toList, "00".toList] =
        .send 64 [0] ['k'] :=
  ⟨(sendonionmessage_targets_last sampleOnionDecoders _).1, by decide⟩

end YuvLdkSample
