import Mathlib.Data.List.AList

/-!
# The payment stores and the code that changes them

`inbound_payments` and `outbound_payments` are `PaymentInfoStorage` values behind a
`Mutex`. Every piece of code that changes one locks it, changes it and writes the store's
encoding to `INBOUND_PAYMENTS_FNAME` or `OUTBOUND_PAYMENTS_FNAME`. Each such piece of
code is written here as the `CriticalSection` it runs with the lock held: what it reads,
what it changes, when it writes and when it drops the guard. A `HashMap` is an `AList`,
whose `insert` replaces a present entry as `HashMap::insert` does.

The answers of the channel manager and of LDK's invoice helpers are inputs of the
operation: they do not read the payment stores. A keysend's hash is
`PaymentHash::from(payment_preimage)` of a random preimage; it is an input too.

The file is represented by the store value whose encoding it holds, which is what
`disk::read_payment_info` reads back at the next start.
-/

namespace YuvLdkSample

/-- `HTLCStatus` (main.rs). -/
inductive HTLCStatus
  | pending
  | succeeded
  | failed
  deriving DecidableEq, Repr

/-- A payment hash, as its 32 bytes. -/
abbrev PaymentHash := List UInt8

/-- A payment preimage, as its 32 bytes. -/
abbrev PaymentPreimage := List UInt8

/-- A payment secret, as its 32 bytes. -/
abbrev PaymentSecret := List UInt8

/-- A YUV pixel, as the bytes it is encoded to; the modelled code only copies it. -/
abbrev Pixel := List UInt8

/-- `PaymentInfo` (main.rs); `amtMsat` is the `Option<u64>` inside `MillisatAmount`. -/
structure PaymentInfo where
  preimage : Option PaymentPreimage
  secret : Option PaymentSecret
  status : HTLCStatus
  amtMsat : Option Nat
  yuvPixel : Option Pixel
  deriving DecidableEq, Repr

/-- `PaymentInfoStorage` (main.rs). -/
structure PaymentInfoStorage where
  payments : AList fun _ : PaymentHash => PaymentInfo

/-- `payments.insert(hash, info)` on the store. -/
def PaymentInfoStorage.insert (store : PaymentInfoStorage) (hash : PaymentHash)
    (info : PaymentInfo) : PaymentInfoStorage :=
  ⟨store.payments.insert hash info⟩

/-- `payments.get(&hash)` on the store. -/
def PaymentInfoStorage.lookup (store : PaymentInfoStorage) (hash : PaymentHash) :
    Option PaymentInfo :=
  store.payments.lookup hash

/-- The record under a hash after an insert. -/
@[simp]
theorem PaymentInfoStorage.lookup_insert (store : PaymentInfoStorage) (hash other : PaymentHash)
    (info : PaymentInfo) :
    (store.insert hash info).lookup other = if other = hash then some info else store.lookup other := by
  by_cases same : other = hash
  · subst same
    simp only [lookup, insert, AList.lookup_insert, if_true]
  · simp only [lookup, insert, AList.lookup_insert_ne same, same, if_false]

/-- The fields of a `Bolt11Invoice` that `send_payment` reads. -/
structure Bolt11Invoice where
  paymentHash : PaymentHash
  paymentSecret : PaymentSecret
  amountMilliSatoshis : Option Nat
  yuvPixel : Option Pixel
  deriving DecidableEq, Repr

/-- What a piece of code does with a store it has locked, up to the drop of the guard. -/
inductive CriticalSection
  /-- The guard is dropped. -/
  | release
  /-- The code reads the store and goes on according to what it read. -/
  | inspect (proceed : PaymentInfoStorage → CriticalSection)
  /-- The code changes the store. -/
  | update (change : PaymentInfoStorage → PaymentInfoStorage) (next : CriticalSection)
  /-- `fs_store.write("", "", FNAME, &store.encode()).unwrap()`. -/
  | persist (next : CriticalSection)
  /-- An `unwrap` of `None` panics; unwinding drops the guard and poisons the mutex. -/
  | panic

/-- The records under the hashes other than one are the same in two stores. -/
def SameElsewhere (hash : PaymentHash) (store store' : PaymentInfoStorage) : Prop :=
  ∀ other, other ≠ hash → store'.lookup other = store.lookup other

/-- `payments.get_mut(&hash).unwrap().status = status`, then what follows. -/
def setStatus (hash : PaymentHash) (status : HTLCStatus) (next : CriticalSection) :
    CriticalSection :=
  .inspect fun store =>
    match store.lookup hash with
    | some payment => .update (·.insert hash { payment with status }) next
    | none => .panic

/-- `get_invoice` given the invoice LDK's helper created (`none` when it failed): the
store it leaves. -/
def getInvoice (created : Option Bolt11Invoice) (amtMsat : Nat) (yuvPixel : Option Pixel)
    (inboundPayments : PaymentInfoStorage) : PaymentInfoStorage :=
  match created with
  | none => inboundPayments
  | some invoice =>
    inboundPayments.insert invoice.paymentHash
      ⟨none, some invoice.paymentSecret, .pending, some amtMsat, yuvPixel⟩

/-- The `getinvoice` command of `poll_for_user_input`: lock `inbound_payments`, run
`get_invoice`, write the store. -/
def getinvoiceCommand (created : Option Bolt11Invoice) (amtMsat : Nat)
    (yuvPixel : Option Pixel) : CriticalSection :=
  .update (getInvoice created amtMsat yuvPixel) (.persist .release)

/-- The checks of `send_payment` that return before anything is stored: a zero-amount
invoice needs an amount from the user, any other invoice one that agrees with it. -/
def amountAgreed (invoice : Bolt11Invoice) (requiredAmountMsat : Option Nat) : Bool :=
  let zeroAmtInvoice :=
    invoice.amountMilliSatoshis.isNone || invoice.amountMilliSatoshis == some 0
  if zeroAmtInvoice then requiredAmountMsat.isSome
  else !(requiredAmountMsat.isSome && invoice.amountMilliSatoshis != requiredAmountMsat)

/-- `send_payment`, run with `outbound_payments` locked for the whole call.
`parametersFound` is whether `payment_parameters_from_(zero_amount_)invoice` returned
`Ok`, `sent` whether `channel_manager.send_payment` did; on success the code prints
`invoice.amount_milli_satoshis().unwrap()`. -/
def sendPayment (invoice : Bolt11Invoice) (requiredAmountMsat : Option Nat)
    (parametersFound sent : Bool) : CriticalSection :=
  if amountAgreed invoice requiredAmountMsat && parametersFound then
    .update (·.insert invoice.paymentHash
        ⟨none, some invoice.paymentSecret, .pending, invoice.amountMilliSatoshis,
          invoice.yuvPixel⟩)
      (.persist
        (if sent then
          match invoice.amountMilliSatoshis with
          | some _ => .release
          | none => .panic
        else setStatus invoice.paymentHash .failed (.persist .release)))
  else .release

/-- An invoice without an amount, paid with 1000 msat from the command line: once the channel
manager accepts the payment, `invoice.amount_milli_satoshis().unwrap()` panics, after the
`Pending` record was written. -/
example : sendPayment ⟨[5], [6], none, none⟩ (some 1000) true true =
    .update (·.insert [5] ⟨none, some [6], .pending, none, none⟩) (.persist .panic) := rfl

/-- `keysend`, run with `outbound_payments` locked for the whole call, for the hash of
its random preimage. -/
def keysend (paymentHash : PaymentHash) (amtMsat : Nat) (sent : Bool) : CriticalSection :=
  .update (·.insert paymentHash ⟨none, none, .pending, some amtMsat, none⟩)
    (.persist (if sent then .release else setStatus paymentHash .failed (.persist .release)))

/-- The `purpose` of a claimed payment. -/
inductive PaymentPurpose
  | bolt11InvoicePayment (paymentPreimage : Option PaymentPreimage) (paymentSecret : PaymentSecret)
  | spontaneousPayment (preimage : PaymentPreimage)
  | other
  deriving DecidableEq, Repr

/-- The preimage and secret `Event::PaymentClaimed` takes from the purpose. -/
def PaymentPurpose.preimageAndSecret :
    PaymentPurpose → Option PaymentPreimage × Option PaymentSecret
  | .bolt11InvoicePayment paymentPreimage paymentSecret => (paymentPreimage, some paymentSecret)
  | .spontaneousPayment preimage => (some preimage, none)
  | .other => (none, none)

/-- The entry update of `Event::PaymentClaimed` on `inbound_payments`. -/
def paymentClaimed (paymentHash : PaymentHash) (purpose : PaymentPurpose) (amountMsat : Nat)
    (inbound : PaymentInfoStorage) : PaymentInfoStorage :=
  let (preimage, secret) := purpose.preimageAndSecret
  match inbound.lookup paymentHash with
  | some payment =>
    inbound.insert paymentHash { payment with status := .succeeded, preimage, secret }
  | none => inbound.insert paymentHash ⟨preimage, secret, .succeeded, some amountMsat, none⟩

/-- `Event::PaymentSent` on `outbound_payments`: an unknown hash returns without writing. -/
def paymentSent (paymentPreimage : PaymentPreimage) (paymentHash : PaymentHash) :
    CriticalSection :=
  .inspect fun outbound =>
    match outbound.lookup paymentHash with
    | some payment =>
      .update (·.insert paymentHash
          { payment with preimage := some paymentPreimage, status := .succeeded })
        (.persist .release)
    | none => .release

/-- `Event::PaymentFailed` on `outbound_payments`. -/
def paymentFailed (paymentHash : PaymentHash) : CriticalSection :=
  .inspect fun outbound =>
    if (outbound.lookup paymentHash).isSome then setStatus paymentHash .failed (.persist .release)
    else .persist .release

/-- Starting from a store whose file holds `file`, every way the section can run ends,
when it drops the guard normally, with the file holding the store. -/
def Restores : CriticalSection → PaymentInfoStorage → PaymentInfoStorage → Prop
  | .release, store, file => file = store
  | .inspect proceed, store, file => Restores (proceed store) store file
  | .update change next, store, file => Restores next (change store) file
  | .persist next, store, _ => Restores next store store
  | .panic, _, _ => True

/-- Dropping the guard right away leaves the file as it was. -/
theorem restores_release (store : PaymentInfoStorage) : Restores .release store store := rfl

/-- Every change the section can make keeps the records under the other hashes. -/
def Confined (hash : PaymentHash) : CriticalSection → Prop
  | .release => True
  | .inspect proceed => ∀ store, Confined hash (proceed store)
  | .update change next => (∀ store, SameElsewhere hash store (change store)) ∧ Confined hash next
  | .persist next => Confined hash next
  | .panic => True

/-- Every change the section can make keeps the record under one hash. -/
def Keeps (hash : PaymentHash) : CriticalSection → Prop
  | .release => True
  | .inspect proceed => ∀ store, Keeps hash (proceed store)
  | .update change next => (∀ store, (change store).lookup hash = store.lookup hash) ∧ Keeps hash next
  | .persist next => Keeps hash next
  | .panic => True

/-- A section confined to one hash keeps the record under every other. -/
theorem Confined.keeps {hash other : PaymentHash} (apart : other ≠ hash) {critical : CriticalSection}
    (confined : Confined hash critical) : Keeps other critical := by
  induction critical with
  | release => trivial
  | inspect proceed inductionHypothesis => exact fun store => inductionHypothesis store (confined store)
  | update change next inductionHypothesis =>
    exact ⟨fun store => confined.1 store other apart, inductionHypothesis confined.2⟩
  | persist next inductionHypothesis => exact inductionHypothesis confined
  | panic => trivial

/-- An insert under a hash keeps the records under the other hashes. -/
theorem sameElsewhere_insert (hash : PaymentHash) (info : PaymentInfo) (store : PaymentInfoStorage) :
    SameElsewhere hash store (store.insert hash info) := fun other apart => by
  simp only [PaymentInfoStorage.lookup_insert, apart, if_false]

/-- Setting a status restores the file when what follows does. -/
theorem restores_setStatus {hash : PaymentHash} {status : HTLCStatus} {next : CriticalSection}
    (restored : ∀ store, Restores next store store) (store file : PaymentInfoStorage) :
    Restores (setStatus hash status (.persist next)) store file := by
  simp only [setStatus, Restores]
  split <;> simp only [Restores, restored]

/-- Setting a status changes only the record under its hash. -/
theorem confined_setStatus {hash : PaymentHash} {status : HTLCStatus} {next : CriticalSection}
    (confined : Confined hash next) : Confined hash (setStatus hash status next) := fun store => by
  simp only [setStatus]
  split
  · exact ⟨fun _ => sameElsewhere_insert _ _ _, confined⟩
  · trivial

/-- `send_payment` writes the store after each of its changes, on every path. -/
theorem restores_sendPayment (invoice : Bolt11Invoice) (requiredAmountMsat : Option Nat)
    (parametersFound sent : Bool) (store : PaymentInfoStorage) :
    Restores (sendPayment invoice requiredAmountMsat parametersFound sent) store store := by
  unfold sendPayment
  split
  · simp only [Restores]
    split
    · split <;> trivial
    · exact restores_setStatus (restores_release ·) _ _
  · rfl

/-- `keysend` writes the store after each of its changes, on every path. -/
theorem restores_keysend (paymentHash : PaymentHash) (amtMsat : Nat) (sent : Bool)
    (store : PaymentInfoStorage) : Restores (keysend paymentHash amtMsat sent) store store := by
  simp only [keysend, Restores]
  split
  · simp only [Restores]
  · exact restores_setStatus (restores_release ·) _ _

/-- `Event::PaymentSent` writes the store after its change. -/
theorem restores_paymentSent (paymentPreimage : PaymentPreimage) (paymentHash : PaymentHash)
    (store : PaymentInfoStorage) : Restores (paymentSent paymentPreimage paymentHash) store store := by
  simp only [paymentSent, Restores]
  split <;> simp only [Restores]

/-- `Event::PaymentFailed` writes the store after its change. -/
theorem restores_paymentFailed (paymentHash : PaymentHash) (store : PaymentInfoStorage) :
    Restores (paymentFailed paymentHash) store store := by
  simp only [paymentFailed, Restores]
  split
  · exact restores_setStatus (restores_release ·) _ _
  · simp only [Restores]

/-- `send_payment` changes only the record under the invoice's hash. -/
theorem confined_sendPayment (invoice : Bolt11Invoice) (requiredAmountMsat : Option Nat)
    (parametersFound sent : Bool) :
    Confined invoice.paymentHash (sendPayment invoice requiredAmountMsat parametersFound sent) := by
  unfold sendPayment
  split
  · refine ⟨fun _ => sameElsewhere_insert _ _ _, ?_⟩
    simp only [Confined]
    split
    · split <;> trivial
    · exact confined_setStatus trivial
  · trivial

/-- `keysend` changes only the record under its hash. -/
theorem confined_keysend (paymentHash : PaymentHash) (amtMsat : Nat) (sent : Bool) :
    Confined paymentHash (keysend paymentHash amtMsat sent) := by
  refine ⟨fun _ => sameElsewhere_insert _ _ _, ?_⟩
  simp only [Confined]
  split
  · trivial
  · exact confined_setStatus trivial

/-- `Event::PaymentSent` changes only the record under its hash. -/
theorem confined_paymentSent (paymentPreimage : PaymentPreimage) (paymentHash : PaymentHash) :
    Confined paymentHash (paymentSent paymentPreimage paymentHash) := fun store => by
  dsimp only [paymentSent]
  split
  · exact ⟨fun _ => sameElsewhere_insert _ _ _, trivial⟩
  · trivial

/-- `Event::PaymentFailed` changes only the record under its hash. -/
theorem confined_paymentFailed (paymentHash : PaymentHash) :
    Confined paymentHash (paymentFailed paymentHash) := fun store => by
  dsimp only [paymentFailed]
  split
  · exact confined_setStatus trivial
  · trivial

/-- One turn of the reconciliation loop. -/
def failUnlisted (recentPaymentsPaymentHashes : List PaymentHash) (store : PaymentInfoStorage)
    (paymentHash : PaymentHash) : PaymentInfoStorage :=
  match store.lookup paymentHash with
  | some paymentInfo =>
    if paymentInfo.status = .pending ∧ paymentHash ∉ recentPaymentsPaymentHashes then
      store.insert paymentHash { paymentInfo with status := .failed }
    else store
  | none => store

/-- The startup reconciliation (main.rs): every `Pending` outbound record whose hash the
channel manager does not list among its recent payments becomes `Failed`. -/
def reconcile (recentPaymentsPaymentHashes : List PaymentHash) (outbound : PaymentInfoStorage) :
    PaymentInfoStorage :=
  outbound.payments.keys.foldl (failUnlisted recentPaymentsPaymentHashes) outbound

/-- A turn of the reconciliation loop changes at most the record it visits, and that one only
when it is `Pending` and not listed: it becomes `Failed`. -/
theorem failUnlisted_lookup (recent : List PaymentHash) (store : PaymentInfoStorage)
    (paymentHash hash : PaymentHash) :
    (failUnlisted recent store paymentHash).lookup hash =
      if hash = paymentHash then (store.lookup hash).map fun info =>
        if info.status = .pending ∧ hash ∉ recent then { info with status := .failed } else info
      else store.lookup hash := by
  unfold failUnlisted
  rcases found : store.lookup paymentHash with _ | info
  · split_ifs with same
    · rw [same, found]
      rfl
    · rfl
  · by_cases same : hash = paymentHash
    · subst same
      simp only [found, Option.map_some', if_true]
      split_ifs <;> simp [found]
    · simp only [same, if_false]
      split_ifs
      · simp [same]
      · rfl

/-- The reconciliation loop over distinct hashes changes exactly the listed records as one turn
changes its own.

Proof: induction on the hashes; a hash is visited once, so its record is still the original
one when its turn comes. -/
theorem foldl_failUnlisted_lookup (recent : List PaymentHash) (hash : PaymentHash) :
    ∀ (hashes : List PaymentHash) (store : PaymentInfoStorage), hashes.Nodup →
      (hashes.foldl (failUnlisted recent) store).lookup hash =
        if hash ∈ hashes then (store.lookup hash).map fun info =>
          if info.status = .pending ∧ hash ∉ recent then { info with status := .failed } else info
        else store.lookup hash
  | [], _, _ => rfl
  | paymentHash :: more, store, distinct => by
    obtain ⟨fresh, restDistinct⟩ := List.nodup_cons.mp distinct
    rw [List.foldl_cons, foldl_failUnlisted_lookup recent hash more _ restDistinct,
      failUnlisted_lookup]
    by_cases same : hash = paymentHash
    · subst same
      simp [fresh]
    · simp [same]

/-- The startup reconciliation changes only `Pending` records: it keeps every other record,
adds none, and turns a `Pending` record whose hash the channel manager does not list among its
recent payments into a `Failed` one, with its other fields kept. -/
theorem reconcile_lookup (recent : List PaymentHash) (outbound : PaymentInfoStorage)
    (hash : PaymentHash) :
    (reconcile recent outbound).lookup hash = (outbound.lookup hash).map fun info =>
      if info.status = .pending ∧ hash ∉ recent then { info with status := .failed } else info := by
  rw [reconcile, foldl_failUnlisted_lookup recent hash _ _ outbound.payments.keys_nodup]
  split_ifs with listed
  · rfl
  · rw [PaymentInfoStorage.lookup, AList.lookup_eq_none.mpr fun mem => listed (AList.mem_keys.mp mem)]
    rfl

end YuvLdkSample
