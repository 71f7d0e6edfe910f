import YuvLdkSample.Descriptor

/-!
# Sweeping one claim batch

The body of the sweep loop for one file of `spendable_outputs` (sweep.rs:99-177). The
file is decoded into descriptors, a destination key is taken from the wallet, and the
signer is asked for the transactions spending them. Each transaction is dry-run by the
YUV node; a rejection skips it, anything else publishes its proofs and broadcasts it.

The signer's result and the YUV node's answers come from outside: the environment gives
them, each transaction together with the answer its dry run receives. Two `unwrap`s can
panic here, on a decode error and on a missing YUV client, and either ends the sweep task.
-/

namespace YuvLdkSample

/-- `EmulateYuvTransactionResponse` of the YUV node's RPC API. -/
inductive EmulateYuvTransactionResponse
  | valid
  | invalid (reason : String)
deriving DecidableEq

/-- What a dry-run request returns: the node's response, or a transport error. -/
abbrev EmulateAnswer := Except String EmulateYuvTransactionResponse

/-- `YuvClient::emulate_yuv_transaction`, yuv_client.rs:51-70: the reason of an `Invalid`
response. A `Valid` response and a failed request alike give `None`; the failure is
only logged. -/
def emulateYuvTransaction : EmulateAnswer → Option String
  | .ok .valid => none
  | .ok (.invalid reason) => some reason
  | .error _ => none

/-- The handle of the YUV node's RPC client, `Some` only when a URL was given at startup. -/
structure YuvClient where
  url : String

/-- The parts of the wallet the sweep uses. -/
structure Wallet (Key : Type) where
  publicKey : Key

/-- `Wallet::get_change_yuv_pubkey`, wallet.rs:160-162: always the wallet's own key. -/
def getChangeYuvPubkey {Key : Type} (wallet : Wallet Key) : Except Unit Key :=
  .ok wallet.publicKey

/-- `LockTime::from_height(height).map_or(PackedLockTime::ZERO, ..)`, sweep.rs:124-126: the
current height, or zero when it is not below the locktime threshold of 500 000 000. -/
def sweepLocktime (height : Nat) : Nat :=
  if height < 500000000 then height else 0

/-- The anti-fee-sniping locktime never exceeds the current height. -/
theorem sweepLocktime_le (height : Nat) : sweepLocktime height ≤ height := by
  unfold sweepLocktime
  split <;> omega

/-- What the sweep of a batch does outside the store, in order. -/
inductive SweepEffect (Descriptor Key Tx : Type)
  /-- `keys_manager.spend_yuv_spendable_outputs` with the decoded descriptors, the fee
  rate, the destination key, the wallet's key and the locktime. -/
  | spend (outputs : List Descriptor) (feerate : Nat) (destination wallet : Key) (locktime : Nat)
  /-- `log_error!` of a dry-run rejection, with its reason. -/
  | rejected (tx : Tx) (reason : String)
  /-- `broadcast_transactions_proofs` to the YUV node. -/
  | publishProofs (tx : Tx)
  /-- `broadcast_transactions` of the Bitcoin transaction. -/
  | broadcast (tx : Tx)
  /-- Any other `log_error!`, with its message. -/
  | logged (message : String)

/-- Why the sweep task panics. -/
inductive SweepPanic
  /-- `Readable::read(&mut file).unwrap()`, sweep.rs:111. -/
  | decodeFailed
  /-- `yuv_client.as_ref().unwrap()`, sweep.rs:140-142. -/
  | missingYuvClient
deriving DecidableEq

variable {Descriptor Key Tx : Type}

/-- The loop over the signed transactions, sweep.rs:139-168. Each transaction comes with
the answer its dry run receives. The YUV client is unwrapped before the dry run. -/
def broadcastYuvTxs (yuvClient : Option YuvClient) :
    List (Tx × EmulateAnswer) → Except SweepPanic (List (SweepEffect Descriptor Key Tx))
  | [] => .ok []
  | (tx, answer) :: rest =>
    match yuvClient with
    | none => .error .missingYuvClient
    | some _ =>
      match emulateYuvTransaction answer with
      | some reason => (SweepEffect.rejected tx reason :: ·) <$> broadcastYuvTxs yuvClient rest
      | none => ([.publishProofs tx, .broadcast tx] ++ ·) <$> broadcastYuvTxs yuvClient rest

/-- What the outside world answers for one batch: the fee estimate, the chain height and
the signer's result, each signed transaction with the answer of its dry run. -/
structure SweepEnv (Key Tx : Type) where
  feerate : Nat
  height : Nat
  spendResult : Except String (List (Tx × EmulateAnswer))

/-- The sweep of one claim-batch file, sweep.rs:100-177. -/
def sweepBatch (codec : SelfFramingCodec Descriptor) (yuvClient : Option YuvClient)
    (wallet : Wallet Key) (env : SweepEnv Key Tx) (file : Bytes) :
    Except SweepPanic (List (SweepEffect Descriptor Key Tx)) :=
  match readDescriptors codec file with
  | none => .error .decodeFailed
  | some outputs =>
    match getChangeYuvPubkey wallet with
    | .error () => .ok [.logged "Failed to get change YUV pubkey"]
    | .ok destination =>
      let request := SweepEffect.spend outputs env.feerate destination wallet.publicKey
        (sweepLocktime env.height)
      match env.spendResult with
      | .ok txs => (request :: ·) <$> broadcastYuvTxs yuvClient txs
      | .error err => .ok [request, .logged ("Failed to sweep YUV spendable outputs: " ++ err)]

/-- Whether an effect is the request to `spend_yuv_spendable_outputs`. -/
def SweepEffect.isSpend : SweepEffect Descriptor Key Tx → Bool
  | .spend .. => true
  | _ => false

/-- A batch sweep that does not panic has decoded its file and, before anything else, asked
the signer to spend the decoded descriptors: `get_change_yuv_pubkey` never fails. -/
theorem sweepBatch_ok_spend {codec : SelfFramingCodec Descriptor} {yuvClient : Option YuvClient}
    {wallet : Wallet Key} {env : SweepEnv Key Tx} {file : Bytes}
    {effects : List (SweepEffect Descriptor Key Tx)}
    (completed : sweepBatch codec yuvClient wallet env file = .ok effects) :
    ∃ outputs rest, readDescriptors codec file = some outputs ∧
      effects = .spend outputs env.feerate wallet.publicKey wallet.publicKey
        (sweepLocktime env.height) :: rest := by
  unfold sweepBatch at completed
  rcases decoded : readDescriptors codec file with _ | outputs <;> simp only [decoded] at completed
  · cases completed
  simp only [getChangeYuvPubkey] at completed
  rcases signed : env.spendResult with err | txs <;> simp only [signed] at completed
  · cases completed
    exact ⟨outputs, _, rfl, rfl⟩
  · simp only [Functor.map, Except.map] at completed
    split at completed <;> cases completed
    exact ⟨outputs, _, rfl, rfl⟩

/-- A batch sweep that does not panic has requested `spend_yuv_spendable_outputs`. -/
theorem sweepBatch_ok_requests_spend {codec : SelfFramingCodec Descriptor}
    {yuvClient : Option YuvClient} {wallet : Wallet Key} {env : SweepEnv Key Tx} {file : Bytes}
    {effects : List (SweepEffect Descriptor Key Tx)}
    (completed : sweepBatch codec yuvClient wallet env file = .ok effects) :
    effects.any SweepEffect.isSpend = true := by
  obtain ⟨outputs, rest, -, rfl⟩ := sweepBatch_ok_spend completed
  rfl

/-- The transactions broadcast to the Bitcoin network, in order. -/
def broadcasts : List (SweepEffect Descriptor Key Tx) → List Tx
  | [] => []
  | .broadcast tx :: rest => tx :: broadcasts rest
  | _ :: rest => broadcasts rest

/-- The transactions whose proofs go to the YUV node, in order. -/
def publishedProofs : List (SweepEffect Descriptor Key Tx) → List Tx
  | [] => []
  | .publishProofs tx :: rest => tx :: publishedProofs rest
  | _ :: rest => publishedProofs rest

/-- Whether a dry-run answer makes the loop skip its transaction. -/
def rejects (answer : EmulateAnswer) : Bool := (emulateYuvTransaction answer).isSome

/-- With a YUV client, the loop never panics, and each transaction contributes exactly
its rejection, or its proof publication followed by its broadcast.

Proof: induction on the signed transactions, one case per dry-run answer. -/
theorem broadcastYuvTxs_configured (client : YuvClient) (txs : List (Tx × EmulateAnswer)) :
    broadcastYuvTxs (some client) txs =
      (.ok (txs.flatMap fun (tx, answer) =>
        match emulateYuvTransaction answer with
        | some reason => [.rejected tx reason]
        | none => [.publishProofs tx, .broadcast tx]) :
          Except SweepPanic (List (SweepEffect Descriptor Key Tx))) := by
  induction txs with
  | nil => rfl
  | cons signed rest inductionHypothesis =>
    obtain ⟨tx, answer⟩ := signed
    simp only [broadcastYuvTxs, inductionHypothesis, List.flatMap_cons]
    cases emulateYuvTransaction answer <;> rfl

/-- The broadcasts of two runs of effects in a row. -/
@[simp] theorem broadcasts_append (first second : List (SweepEffect Descriptor Key Tx)) :
    broadcasts (first ++ second) = broadcasts first ++ broadcasts second := by
  induction first with
  | nil => rfl
  | cons effect rest inductionHypothesis => cases effect <;> simp [broadcasts, inductionHypothesis]

/-- The proofs published by two runs of effects in a row. -/
@[simp] theorem publishedProofs_append (first second : List (SweepEffect Descriptor Key Tx)) :
    publishedProofs (first ++ second) = publishedProofs first ++ publishedProofs second := by
  induction first with
  | nil => rfl
  | cons effect rest inductionHypothesis =>
    cases effect <;> simp [publishedProofs, inductionHypothesis]

/-- Validator gating: with a YUV client, the sweep of a batch publishes proofs for, and
broadcasts, exactly the signed transactions whose dry run did not answer `Invalid`, each
once and in the signer's order. A failed request counts as no rejection. -/
theorem broadcastYuvTxs_gating (client : YuvClient) (txs : List (Tx × EmulateAnswer)) :
    ∃ effects : List (SweepEffect Descriptor Key Tx), broadcastYuvTxs (some client) txs =
        .ok effects ∧
      broadcasts effects = (txs.filter fun signed => !rejects signed.2).map Prod.fst ∧
      publishedProofs effects = (txs.filter fun signed => !rejects signed.2).map Prod.fst := by
  refine ⟨_, broadcastYuvTxs_configured client txs, ?_, ?_⟩ <;>
  · induction txs with
    | nil => rfl
    | cons signed rest inductionHypothesis =>
      obtain ⟨tx, answer⟩ := signed
      simp only [List.flatMap_cons, broadcasts_append, publishedProofs_append, List.filter_cons,
        inductionHypothesis, rejects]
      cases emulateYuvTransaction answer <;> rfl

/-- Whether the YUV node answered `Valid`. -/
def answeredValid : EmulateAnswer → Bool
  | .ok .valid => true
  | _ => false

/-- Proofs are published for, and broadcast to the Bitcoin network, exactly the transactions
whose dry run answered `Valid`, each once and in order. -/
def BroadcastsExactlyValid (txs : List (Tx × EmulateAnswer))
    (effects : List (SweepEffect Descriptor Key Tx)) : Prop :=
  broadcasts effects = (txs.filter fun signed => answeredValid signed.2).map Prod.fst ∧
    publishedProofs effects = (txs.filter fun signed => answeredValid signed.2).map Prod.fst

/-- A dry run whose request fails is not a rejection: the transaction is broadcast. -/
theorem failed_dry_run_still_broadcast :
    ∃ effects : List (SweepEffect Unit Unit Nat), broadcastYuvTxs (some ⟨"http://yuv"⟩)
        [(0, .error "connection refused")] = .ok effects ∧
      ¬ BroadcastsExactlyValid [((0 : Nat), (.error "connection refused" : EmulateAnswer))]
        effects := by
  refine ⟨_, rfl, fun gated => ?_⟩
  exact absurd gated.1 (by decide)

/-- A deployment without a YUV client does not sweep like a configured one. Once the
signer returns a transaction, the sweep panics on `yuv_client.as_ref().unwrap()` before
any broadcast, while a configured client whose dry runs accept every transaction
broadcasts them all. -/
theorem sweepBatch_without_client_panics (codec : SelfFramingCodec Descriptor)
    (wallet : Wallet Key) (env : SweepEnv Key Tx) (file : Bytes) (outputs : List Descriptor)
    (txs : List (Tx × EmulateAnswer)) (decoded : readDescriptors codec file = some outputs)
    (signed : env.spendResult = .ok txs) (nonempty : txs ≠ []) :
    sweepBatch codec none wallet env file = .error .missingYuvClient ∧
      ∀ client, (∀ tx ∈ txs, rejects tx.2 = false) →
        ∃ effects, sweepBatch codec (some client) wallet env file = .ok effects ∧
          broadcasts effects = txs.map Prod.fst := by
  obtain ⟨first, rest, rfl⟩ := List.exists_cons_of_ne_nil nonempty
  refine ⟨by simp [sweepBatch, decoded, getChangeYuvPubkey, signed, broadcastYuvTxs], ?_⟩
  intro client accepted
  obtain ⟨effects, run, broadcast, -⟩ :=
    @broadcastYuvTxs_gating Descriptor Key Tx client (first :: rest)
  refine ⟨.spend outputs env.feerate wallet.publicKey wallet.publicKey (sweepLocktime env.height) ::
    effects, by simp [sweepBatch, decoded, getChangeYuvPubkey, signed, run], ?_⟩
  rw [List.filter_eq_self.mpr (by simpa using accepted)] at broadcast
  simpa [broadcasts] using broadcast

/-- The panic at a concrete batch: one framed descriptor, one signed transaction. -/
theorem sweep_without_client_at_one_transaction :
    readDescriptors framedCodec (framedCodec.encode ⟨0, [], by decide⟩) =
        some [⟨0, [], by decide⟩] ∧
      (⟨1, 0, .ok [((7 : Nat), .ok .valid)]⟩ : SweepEnv Unit Nat).spendResult =
        .ok [(7, .ok .valid)] ∧
      sweepBatch framedCodec none ⟨()⟩ ⟨1, 0, .ok [((7 : Nat), .ok .valid)]⟩
        (framedCodec.encode ⟨0, [], by decide⟩) = .error .missingYuvClient :=
  ⟨readDescriptors_encodeAll framedCodec [⟨0, [], by decide⟩], rfl,
    (sweepBatch_without_client_panics framedCodec ⟨()⟩ ⟨1, 0, .ok [(7, .ok .valid)]⟩
      (framedCodec.encode ⟨0, [], by decide⟩) [⟨0, [], by decide⟩] [(7, .ok .valid)]
      (readDescriptors_encodeAll framedCodec [⟨0, [], by decide⟩]) rfl (by simp)).1⟩

end YuvLdkSample
