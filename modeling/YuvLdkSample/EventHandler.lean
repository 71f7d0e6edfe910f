import YuvLdkSample.PaymentStore
import YuvLdkSample.ChannelConfig

/-!
# Where the event handler panics

Four arms of `handle_ldk_events` can panic outside the payment stores' locks. The YUV branches of
`PaymentClaimable`, `PaymentClaimed` and `PaymentForwarded` look the channel up in
`channel_manager.list_channels()` and print the chroma of its `yuv_holder_pixel`, with an `unwrap`
on each: `PaymentClaimable` and `PaymentClaimed` also `unwrap` the lookup itself, while
`PaymentForwarded` prints nothing for a channel it does not find. `PaymentClaimable` then
`unwrap`s the preimage its purpose gives, and `FundingGenerationReady` the funding transaction of
a channel without a YUV pixel, while it force-closes a YUV channel whose funding fails.

A panic there ends the background processor, and with it the node. The handler panics exactly
under the conditions `PanicsOn` states without reference to the code's lookups, as long as
`list_channels` lists each channel once (`handleLdkEvents_panics_iff`); in particular a YUV
payment that is claimable over no known channel (`via_channel_id` is `None`) always panics.
-/

namespace YuvLdkSample

/-- The fields of a `ChannelDetails` the handler reads. -/
structure ChannelDetails (ChannelId Chroma : Type) where
  channelId : ChannelId
  yuvHolderPixel : Option (YuvPixel Chroma)
  deriving DecidableEq, Repr

/-- The events whose handling can panic, with the fields the handler reads. -/
inductive HandledEvent (ChannelId Chroma : Type)
  | fundingGenerationReady (fundingYuvPixel : Option (YuvPixel Chroma))
  | paymentClaimable (purpose : PaymentPurpose) (viaChannelId : Option ChannelId)
      (yuvAmount : Option Nat)
  /-- The part of `PaymentClaimed` before `inbound_payments` is locked: the channel ids of its
  HTLCs, and the YUV amount. -/
  | paymentClaimed (htlcChannelIds : List ChannelId) (senderIntendedTotalYuv : Option Nat)
  | paymentForwarded (prevChannelId nextChannelId : Option ChannelId)
      (outboundAmountForwardedYuv : Option Nat)
  deriving DecidableEq, Repr

/-- What the handler's calls answer: the channel list and the wallet's funding transactions. -/
structure HandlerEnv (ChannelId Chroma Tx Proofs : Type) where
  /-- Function `channel_manager.list_channels()`. -/
  channels : List (ChannelDetails ChannelId Chroma)
  /-- Function `wallet.new_yuv_funding_tx(..)`: the transaction and its YUV proofs. -/
  newYuvFundingTx : Except String (Tx × Proofs)
  /-- Function `wallet.new_funding_tx(..)`. -/
  newFundingTx : Except String Tx

/-- How the handling of an event ends. -/
inductive HandlerOutcome (Tx Proofs : Type)
  /-- Function `channel_manager.funding_transaction_generated` gets the transaction and the YUV
  proofs. -/
  | fundingGenerated (tx : Tx) (yuvProofs : Option Proofs)
  /-- Function `channel_manager.force_close_without_broadcasting_txn`. -/
  | forceClosed
  /-- Function `channel_manager.claim_funds(preimage)`. -/
  | claimFunds (preimage : PaymentPreimage)
  /-- The handler goes on to lock `inbound_payments` (the critical section of `PaymentStore`). -/
  | lockInbound
  /-- The forwarded payment is printed. -/
  | printed
  | panic
  deriving DecidableEq, Repr

section Handler

variable {ChannelId Chroma Tx Proofs : Type} [DecidableEq ChannelId]
  (env : HandlerEnv ChannelId Chroma Tx Proofs)

/-- `channels.iter().find(wanted).unwrap()` and then `yuv_holder_pixel.unwrap().chroma`, as the
claim events print a YUV amount; `none` where one of the two `unwrap`s panics. -/
def yuvHolderChroma (channels : List (ChannelDetails ChannelId Chroma))
    (wanted : ChannelDetails ChannelId Chroma → Bool) : Option Chroma :=
  (channels.find? wanted).bind fun channelDetails => channelDetails.yuvHolderPixel.map (·.chroma)

/-- The closure `node_str` of `PaymentForwarded` for one channel, as far as it can panic: an
unknown channel prints nothing, and a known one `unwrap`s its pixel when a YUV amount was
forwarded; `none` where it panics. -/
def forwardedNodeStr (channels : List (ChannelDetails ChannelId Chroma))
    (outboundAmountForwardedYuv : Option Nat) : Option ChannelId → Option Unit
  | none => some ()
  | some channelId =>
    match channels.find? fun c => decide (c.channelId = channelId) with
    | none => some ()
    | some channel =>
      match outboundAmountForwardedYuv with
      | some _ => channel.yuvHolderPixel.map fun _ => ()
      | none => some ()

/-- The arms of `handle_ldk_events` (main.rs 200-258, 259-298, 299-322 and 435-511) up to what
they hand to LDK, or up to the lock of `PaymentClaimed`. -/
def handleLdkEvents : HandledEvent ChannelId Chroma → HandlerOutcome Tx Proofs
  | .fundingGenerationReady fundingYuvPixel =>
    match fundingYuvPixel with
    | some _ =>
      match env.newYuvFundingTx with
      | .ok (bitcoinTx, txType) => .fundingGenerated bitcoinTx (some txType)
      | .error _ => .forceClosed
    | none =>
      match env.newFundingTx with
      | .ok tx => .fundingGenerated tx none
      | .error _ => .panic
  | .paymentClaimable purpose viaChannelId yuvAmount =>
    match yuvAmount.map fun _ =>
        yuvHolderChroma env.channels fun c => decide (some c.channelId = viaChannelId) with
    | some none => .panic
    | _ =>
      match purpose.preimageAndSecret.1 with
      | some paymentPreimage => .claimFunds paymentPreimage
      | none => .panic
  | .paymentClaimed htlcChannelIds senderIntendedTotalYuv =>
    match senderIntendedTotalYuv with
    | some _ =>
      match htlcChannelIds with
      | [] => .panic
      | first :: _ =>
        match yuvHolderChroma env.channels fun c => decide (c.channelId = first) with
        | some _ => .lockInbound
        | none => .panic
    | none => .lockInbound
  | .paymentForwarded prevChannelId nextChannelId outboundAmountForwardedYuv =>
    match forwardedNodeStr env.channels outboundAmountForwardedYuv prevChannelId,
      forwardedNodeStr env.channels outboundAmountForwardedYuv nextChannelId with
    | some (), some () => .printed
    | _, _ => .panic

/-- When the handler panics, stated without the code's lookups: the channel a YUV amount came
through must be a known channel with a pixel, and a forwarded YUV amount must not pass a known
channel without one. -/
def PanicsOn : HandledEvent ChannelId Chroma → Prop
  | .fundingGenerationReady fundingYuvPixel =>
    fundingYuvPixel = none ∧ ∃ error, env.newFundingTx = .error error
  | .paymentClaimable purpose viaChannelId yuvAmount =>
    (yuvAmount.isSome ∧
      ¬∃ c ∈ env.channels, some c.channelId = viaChannelId ∧ c.yuvHolderPixel.isSome) ∨
      purpose.preimageAndSecret.1 = none
  | .paymentClaimed htlcChannelIds senderIntendedTotalYuv =>
    senderIntendedTotalYuv.isSome ∧
      ¬∃ c ∈ env.channels, some c.channelId = htlcChannelIds.head? ∧ c.yuvHolderPixel.isSome
  | .paymentForwarded prevChannelId nextChannelId outboundAmountForwardedYuv =>
    outboundAmountForwardedYuv.isSome ∧
      ∃ c ∈ env.channels, (some c.channelId = prevChannelId ∨ some c.channelId = nextChannelId) ∧
        c.yuvHolderPixel = none

/-! ## Lookups in a list of distinct channels -/

section Lookup

variable {channels : List (ChannelDetails ChannelId Chroma)}

/-- In a list of distinct channel ids, the search for an id finds the channel that has it. -/
theorem find?_channelId {channelId : ChannelId}
    (distinct : (channels.map ChannelDetails.channelId).Nodup) {channel : ChannelDetails ChannelId Chroma}
    (listed : channel ∈ channels) (named : channel.channelId = channelId) :
    channels.find? (fun c => decide (c.channelId = channelId)) = some channel := by
  cases foundIs : channels.find? (fun c => decide (c.channelId = channelId)) with
  | none => exact absurd (List.find?_eq_none.1 foundIs channel listed) (by simpa using named)
  | some found =>
    have foundNamed := List.find?_some foundIs
    simp only [decide_eq_true_eq] at foundNamed
    rw [List.inj_on_of_nodup_map distinct (List.mem_of_find?_eq_some foundIs) listed
      (foundNamed.trans named.symm)]

/-- The search for an id no listed channel has finds nothing. -/
theorem find?_channelId_eq_none {channelId : ChannelId}
    (unlisted : ¬∃ c ∈ channels, c.channelId = channelId) :
    channels.find? (fun c => decide (c.channelId = channelId)) = none :=
  List.find?_eq_none.2 fun c listed named => unlisted ⟨c, listed, of_decide_eq_true named⟩

/-- The two `unwrap`s of a claim event's lookup panic exactly when no listed channel has the id
and a pixel. -/
theorem yuvHolderChroma_eq_none_iff (distinct : (channels.map ChannelDetails.channelId).Nodup)
    (channelId : ChannelId) :
    yuvHolderChroma channels (fun c => decide (c.channelId = channelId)) = none ↔
      ¬∃ c ∈ channels, c.channelId = channelId ∧ c.yuvHolderPixel.isSome := by
  by_cases listed : ∃ c ∈ channels, c.channelId = channelId
  · obtain ⟨channel, member, named⟩ := listed
    rw [yuvHolderChroma, find?_channelId distinct member named, Option.some_bind]
    constructor
    · rintro noPixel ⟨other, otherMember, otherNamed, hasPixel⟩
      rw [List.inj_on_of_nodup_map distinct otherMember member (otherNamed.trans named.symm)]
        at hasPixel
      simp [Option.map_eq_none'.1 noPixel] at hasPixel
    · intro noneHas
      cases pixel : channel.yuvHolderPixel with
      | none => rfl
      | some _ => exact absurd ⟨channel, member, named, by simp [pixel]⟩ noneHas
  · rw [yuvHolderChroma, find?_channelId_eq_none listed, Option.none_bind]
    exact iff_of_true rfl fun ⟨c, member, named, _⟩ => listed ⟨c, member, named⟩

/-- The closure `node_str` panics exactly on a known channel without a pixel, after a forwarded
YUV amount. -/
theorem forwardedNodeStr_eq_none_iff (distinct : (channels.map ChannelDetails.channelId).Nodup)
    (outboundAmountForwardedYuv : Option Nat) (channelId : Option ChannelId) :
    forwardedNodeStr channels outboundAmountForwardedYuv channelId = none ↔
      outboundAmountForwardedYuv.isSome ∧
        ∃ c ∈ channels, some c.channelId = channelId ∧ c.yuvHolderPixel = none := by
  cases channelId with
  | none => simp [forwardedNodeStr]
  | some channelId =>
    by_cases listed : ∃ c ∈ channels, c.channelId = channelId
    · obtain ⟨channel, member, named⟩ := listed
      have unique : ∀ c ∈ channels, some c.channelId = some channelId → c = channel :=
        fun c cMember cNamed => List.inj_on_of_nodup_map distinct cMember member
          ((Option.some.inj cNamed).trans named.symm)
      cases outboundAmountForwardedYuv <;>
        simp only [forwardedNodeStr, find?_channelId distinct member named, Option.isSome_none,
          Option.isSome_some, false_and, true_and, reduceCtorEq, Option.map_eq_none']
      constructor
      · exact fun noPixel => ⟨channel, member, congrArg some named, noPixel⟩
      · rintro ⟨c, cMember, cNamed, noPixel⟩
        rwa [unique c cMember cNamed] at noPixel
    · simp only [forwardedNodeStr, find?_channelId_eq_none listed, reduceCtorEq, false_iff,
        not_and, not_exists]
      exact fun _ c member named _ => listed ⟨c, member, Option.some.inj named⟩

end Lookup

/-- The event handler panics exactly where `PanicsOn` says, on every event, when
`list_channels` lists each channel once. A YUV payment claimable with no `via_channel_id`
always panics, and `PaymentForwarded`, unlike the claim events, does not panic on a channel it
does not find.

Proof: one case per event. The claim events' lookups are `yuvHolderChroma_eq_none_iff` (for
`PaymentClaimable` without a channel id the search finds nothing), `PaymentForwarded`'s is
`forwardedNodeStr_eq_none_iff` for each of its two channels, and the rest are the `unwrap`s of
the preimage and of the funding transaction. -/
theorem handleLdkEvents_panics_iff
    (distinct : (env.channels.map ChannelDetails.channelId).Nodup)
    (event : HandledEvent ChannelId Chroma) :
    handleLdkEvents env event = .panic ↔ PanicsOn env event := by
  cases event with
  | fundingGenerationReady fundingYuvPixel =>
    rcases fundingYuvPixel with _ | pixel <;> rcases funding : env.newFundingTx with error | tx <;>
      rcases yuvFunding : env.newYuvFundingTx with yuvError | ⟨bitcoinTx, txType⟩ <;>
      simp [handleLdkEvents, PanicsOn, funding, yuvFunding]
  | paymentClaimable purpose viaChannelId yuvAmount =>
    have lookup : yuvHolderChroma env.channels (fun c => decide (some c.channelId = viaChannelId)) =
        none ↔ ¬∃ c ∈ env.channels, some c.channelId = viaChannelId ∧ c.yuvHolderPixel.isSome := by
      cases viaChannelId with
      | none =>
        rw [yuvHolderChroma, List.find?_eq_none.2 fun c _ => by simp, Option.none_bind]
        simp
      | some channelId =>
        simpa only [Option.some.injEq] using yuvHolderChroma_eq_none_iff distinct channelId
    rcases yuvAmount with _ | amount <;>
      rcases chroma : yuvHolderChroma env.channels
        (fun c => decide (some c.channelId = viaChannelId)) with _ | chroma <;>
      rcases preimage : purpose.preimageAndSecret.1 with _ | paymentPreimage <;>
      simp_all [handleLdkEvents, PanicsOn]
  | paymentClaimed htlcChannelIds senderIntendedTotalYuv =>
    rcases senderIntendedTotalYuv with _ | amount
    · simp [handleLdkEvents, PanicsOn]
    rcases htlcChannelIds with _ | ⟨first, more⟩
    · simp [handleLdkEvents, PanicsOn]
    have lookup := yuvHolderChroma_eq_none_iff distinct first
    simp only [Option.some.injEq, List.head?_cons] at lookup ⊢
    rcases chroma : yuvHolderChroma env.channels (fun c => decide (c.channelId = first)) with
      _ | chroma <;> simp_all [handleLdkEvents, PanicsOn]
  | paymentForwarded prevChannelId nextChannelId outboundAmountForwardedYuv =>
    have eitherChannel : handleLdkEvents env
        (.paymentForwarded prevChannelId nextChannelId outboundAmountForwardedYuv) = .panic ↔
          forwardedNodeStr env.channels outboundAmountForwardedYuv prevChannelId = none ∨
            forwardedNodeStr env.channels outboundAmountForwardedYuv nextChannelId = none := by
      simp only [handleLdkEvents]
      rcases forwardedNodeStr env.channels outboundAmountForwardedYuv prevChannelId with _ | ⟨⟩ <;>
        rcases forwardedNodeStr env.channels outboundAmountForwardedYuv nextChannelId with _ | ⟨⟩ <;>
        simp
    rw [eitherChannel, forwardedNodeStr_eq_none_iff distinct, forwardedNodeStr_eq_none_iff distinct,
      PanicsOn, ← and_or_left]
    simp only [or_and_right, and_or_left, exists_or]

end Handler

/-- A node with a channel without a pixel (id 1) and a YUV channel (id 2). -/
def sampleHandlerEnv : HandlerEnv Nat Char Nat Nat :=
  ⟨[⟨1, none⟩, ⟨2, some ⟨5, 'c'⟩⟩], .error "no YUV funding", .ok 7⟩

/-- A YUV payment claimable with no `via_channel_id` panics, as `PanicsOn` says. -/
theorem yuv_claimable_without_channel_panics :
    (sampleHandlerEnv.channels.map ChannelDetails.channelId).Nodup ∧
      handleLdkEvents sampleHandlerEnv (.paymentClaimable (.spontaneousPayment [1]) none (some 10)) =
        .panic ∧
      (handleLdkEvents sampleHandlerEnv (.paymentClaimable (.spontaneousPayment [1]) none (some 10)) =
          .panic ↔
        PanicsOn sampleHandlerEnv (.paymentClaimable (.spontaneousPayment [1]) none (some 10))) :=
  ⟨by decide, by decide, handleLdkEvents_panics_iff sampleHandlerEnv (by decide) _⟩

end YuvLdkSample
