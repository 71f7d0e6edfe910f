import YuvLdkSample.PaymentStore
import Mathlib.Logic.Function.Basic

/-!
# The CLI and the event handler sharing the payment stores

Two threads lock the payment stores: the CLI (`poll_for_user_input`, started with
`spawn_blocking`) and the event handler (`handle_ldk_events`, which the background processor
calls for one event at a time). A `Node` holds both stores, what each file holds, the
`Mutex` of each store and where each thread is. A thread begins an operation, waits in
`lock()`, then runs the operation's critical section one step at a time, so the steps of the
two threads interleave in every order the mutexes allow.

A panic while a thread holds a lock (an `unwrap` of `None`, or of a failed write) drops the
guard while unwinding and poisons the mutex; every later `lock().unwrap()` of that store
panics in turn. The node starts after the startup code: both stores read from their files,
the outbound one reconciled and written back. The process may stop at any point and start
again, from what the files then hold (`Node.restart`).

The main result is that a store whose mutex is free is what its file holds, unless it is
poisoned (`unlocked_store_persisted`): a failed write drops the guard with the change
unpersisted (`failed_write_releases_unpersisted`). A poisoned store never changes again
(`poisoned_store_frozen`); one way to poison `outbound_payments` is paying an invoice without
an amount, whose `unwrap` panics after the payment is sent.
-/

namespace YuvLdkSample

/-- The two payment stores. -/
inductive StoreId
  | inbound
  | outbound
  deriving DecidableEq, Repr

/-- The two threads that lock the payment stores. -/
inductive Thread
  | cli
  | eventHandler
  deriving DecidableEq, Repr

/-- A piece of code that locks a payment store, with the answers of the code it calls. -/
inductive Operation
  | getinvoice (created : Option Bolt11Invoice) (amtMsat : Nat) (yuvPixel : Option Pixel)
  | sendpayment (invoice : Bolt11Invoice) (requiredAmountMsat : Option Nat)
      (parametersFound sent : Bool)
  | keysend (paymentHash : PaymentHash) (amtMsat : Nat) (sent : Bool)
  | paymentClaimed (paymentHash : PaymentHash) (purpose : PaymentPurpose) (amountMsat : Nat)
  | paymentSent (paymentPreimage : PaymentPreimage) (paymentHash : PaymentHash)
  | paymentFailed (paymentHash : PaymentHash)
  deriving DecidableEq, Repr

/-- The thread that runs an operation: CLI commands and LDK events. -/
def Operation.thread : Operation → Thread
  | .getinvoice .. | .sendpayment .. | .keysend .. => .cli
  | .paymentClaimed .. | .paymentSent .. | .paymentFailed .. => .eventHandler

/-- The store an operation locks. -/
def Operation.store : Operation → StoreId
  | .getinvoice .. | .paymentClaimed .. => .inbound
  | .sendpayment .. | .keysend .. | .paymentSent .. | .paymentFailed .. => .outbound

/-- The critical section an operation runs once it holds the lock. -/
def Operation.critical : Operation → CriticalSection
  | .getinvoice created amtMsat yuvPixel => getinvoiceCommand created amtMsat yuvPixel
  | .sendpayment invoice requiredAmountMsat parametersFound sent =>
    sendPayment invoice requiredAmountMsat parametersFound sent
  | .keysend paymentHash amtMsat sent => YuvLdkSample.keysend paymentHash amtMsat sent
  | .paymentClaimed paymentHash purpose amountMsat =>
    .update (YuvLdkSample.paymentClaimed paymentHash purpose amountMsat) (.persist .release)
  | .paymentSent paymentPreimage paymentHash =>
    YuvLdkSample.paymentSent paymentPreimage paymentHash
  | .paymentFailed paymentHash => YuvLdkSample.paymentFailed paymentHash

/-- The outbound payment hash an operation names, if it locks `outbound_payments`. -/
def Operation.outboundHash : Operation → Option PaymentHash
  | .sendpayment invoice .. => some invoice.paymentHash
  | .keysend paymentHash .. => some paymentHash
  | .paymentSent _ paymentHash => some paymentHash
  | .paymentFailed paymentHash => some paymentHash
  | .getinvoice .. | .paymentClaimed .. => none

/-- Every operation writes its store after each of its changes, on every path. -/
theorem Operation.restores (op : Operation) (store : PaymentInfoStorage) :
    Restores op.critical store store := by
  cases op with
  | getinvoice => rfl
  | sendpayment => exact restores_sendPayment ..
  | keysend => exact restores_keysend ..
  | paymentClaimed => rfl
  | paymentSent => exact restores_paymentSent ..
  | paymentFailed => exact restores_paymentFailed ..

/-- An operation on `outbound_payments` that names another hash keeps the record of a hash. -/
theorem Operation.keeps (op : Operation) (hash : PaymentHash) (locksOutbound : op.store = .outbound)
    (other : op.outboundHash ≠ some hash) : Keeps hash op.critical := by
  cases op with
  | getinvoice => cases locksOutbound
  | paymentClaimed => cases locksOutbound
  | sendpayment invoice =>
    exact (confined_sendPayment ..).keeps fun same => other (congrArg some same.symm)
  | keysend paymentHash amtMsat sent =>
    exact (confined_keysend paymentHash amtMsat sent).keeps fun same => other (congrArg some same.symm)
  | paymentSent paymentPreimage paymentHash =>
    exact (confined_paymentSent paymentPreimage paymentHash).keeps
      fun same => other (congrArg some same.symm)
  | paymentFailed paymentHash =>
    exact (confined_paymentFailed paymentHash).keeps fun same => other (congrArg some same.symm)

/-- What remains of a critical section after some of its steps. -/
inductive Reaches : CriticalSection → CriticalSection → Prop
  | refl (critical : CriticalSection) : Reaches critical critical
  | inspect {proceed : PaymentInfoStorage → CriticalSection} {rest : CriticalSection}
      (store : PaymentInfoStorage) : Reaches (proceed store) rest → Reaches (.inspect proceed) rest
  | update {change : PaymentInfoStorage → PaymentInfoStorage} {next rest : CriticalSection} :
      Reaches next rest → Reaches (.update change next) rest
  | persist {next rest : CriticalSection} : Reaches next rest → Reaches (.persist next) rest

/-- What remains of a section that keeps a record keeps it too. -/
theorem Keeps.reaches {hash : PaymentHash} {critical rest : CriticalSection}
    (keeps : Keeps hash critical) (reaches : Reaches critical rest) : Keeps hash rest := by
  induction reaches with
  | refl => exact keeps
  | inspect store _ inductionHypothesis => exact inductionHypothesis (keeps store)
  | update _ inductionHypothesis => exact inductionHypothesis keeps.2
  | persist _ inductionHypothesis => exact inductionHypothesis keeps

/-- Taking one more step of what remains still reaches from the start. -/
theorem Reaches.trans_step {critical rest : CriticalSection} (reaches : Reaches critical rest) :
    ∀ {next : CriticalSection}, Reaches rest next → Reaches critical next := by
  induction reaches with
  | refl => exact id
  | inspect store _ inductionHypothesis => exact fun last => .inspect store (inductionHypothesis last)
  | update _ inductionHypothesis => exact fun last => .update (inductionHypothesis last)
  | persist _ inductionHypothesis => exact fun last => .persist (inductionHypothesis last)

/-- Where a thread is. -/
inductive ThreadState
  | idle
  /-- Blocked in `lock()` of the operation's store. -/
  | locking (op : Operation)
  /-- Holding the lock, with what remains of the critical section. -/
  | locked (op : Operation) (rest : CriticalSection)
  | panicked

/-- The operation a thread is running. -/
def ThreadState.operation : ThreadState → Option Operation
  | .locking op | .locked op _ => some op
  | .idle | .panicked => none

/-- The payment stores of a running node and the two threads that use them. -/
structure Node where
  stores : StoreId → PaymentInfoStorage
  /-- The store value whose encoding the store's file holds. -/
  files : StoreId → PaymentInfoStorage
  /-- The thread holding the store's mutex. -/
  holder : StoreId → Option Thread
  poisoned : StoreId → Bool
  threads : Thread → ThreadState

/-- One interleaving step: a thread begins an operation, takes its lock, runs one step of its
critical section, or sees its write fail. -/
inductive NodeAction
  | begin (op : Operation)
  | lock (thread : Thread)
  | advance (thread : Thread)
  | writeFails (thread : Thread)

open Function (update update_same update_noteq)

/-- The node after `start_ldk`: the inbound store as its file holds it, the outbound store
reconciled against the channel manager's recent payments and written back. -/
def Node.start (inbound outbound : PaymentInfoStorage)
    (recentPaymentsPaymentHashes : List PaymentHash) : Node :=
  let loaded : StoreId → PaymentInfoStorage
    | .inbound => inbound
    | .outbound => reconcile recentPaymentsPaymentHashes outbound
  ⟨loaded, loaded, fun _ => none, fun _ => false, fun _ => .idle⟩

/-- The process stops, wherever its threads are, and `start_ldk` runs again: both stores are
read from their files, and the outbound one is reconciled and written back. -/
def Node.restart (n : Node) (recentPaymentsPaymentHashes : List PaymentHash) : Node :=
  Node.start (n.files .inbound) (n.files .outbound) recentPaymentsPaymentHashes

/-- After a restart the outbound store is the reconciled file. -/
@[simp] theorem Node.restart_stores_outbound (n : Node) (recent : List PaymentHash) :
    (n.restart recent).stores .outbound = reconcile recent (n.files .outbound) := rfl

/-- After a restart no thread runs. -/
@[simp] theorem Node.restart_threads (n : Node) (recent : List PaymentHash) (thread : Thread) :
    (n.restart recent).threads thread = .idle := rfl

/-- A thread panics holding a store's lock: the guard is dropped and poisons the mutex. -/
def Node.abandon (n : Node) (thread : Thread) (store : StoreId) : Node :=
  { n with
    holder := update n.holder store none
    poisoned := update n.poisoned store true
    threads := update n.threads thread .panicked }

/-- One step of a critical section, run by the thread holding the operation's store. -/
def Node.advance (n : Node) (thread : Thread) (op : Operation) : CriticalSection → Node
  | .release =>
    { n with holder := update n.holder op.store none, threads := update n.threads thread .idle }
  | .inspect proceed =>
    { n with threads := update n.threads thread (.locked op (proceed (n.stores op.store))) }
  | .update change next =>
    { n with
      stores := update n.stores op.store (change (n.stores op.store))
      threads := update n.threads thread (.locked op next) }
  | .persist next =>
    { n with
      files := update n.files op.store (n.stores op.store)
      threads := update n.threads thread (.locked op next) }
  | .panic => n.abandon thread op.store

/-- One interleaving step, `none` when the thread cannot take it. -/
def Node.step (n : Node) : NodeAction → Option Node
  | .begin op =>
    match n.threads op.thread with
    | .idle => some { n with threads := update n.threads op.thread (.locking op) }
    | _ => none
  | .lock thread =>
    match n.threads thread with
    | .locking op =>
      if n.poisoned op.store then some { n with threads := update n.threads thread .panicked }
      else
        match n.holder op.store with
        | none =>
          some { n with
            holder := update n.holder op.store (some thread)
            threads := update n.threads thread (.locked op op.critical) }
        | some _ => none
    | _ => none
  | .advance thread =>
    match n.threads thread with
    | .locked op rest => some (n.advance thread op rest)
    | _ => none
  | .writeFails thread =>
    match n.threads thread with
    | .locked op (.persist _) => some (n.abandon thread op.store)
    | _ => none

/-- The nodes some interleaving reaches after some start, with restarts at any point. -/
inductive Node.Reachable : Node → Prop
  | start (inbound outbound : PaymentInfoStorage) (recent : List PaymentHash) :
      Node.Reachable (Node.start inbound outbound recent)
  | step {n n' : Node} (action : NodeAction) : Node.Reachable n → n.step action = some n' →
      Node.Reachable n'
  | restart {n : Node} (recent : List PaymentHash) : Node.Reachable n →
      Node.Reachable (n.restart recent)

/-- Runs a list of interleaving steps. -/
def Node.run (n : Node) : List NodeAction → Option Node
  | [] => some n
  | action :: more => (n.step action).bind (·.run more)

/-- A run from a reachable node ends in a reachable node. -/
theorem Node.reachable_run {n n' : Node} (actions : List NodeAction) (reachable : n.Reachable)
    (ran : n.run actions = some n') : n'.Reachable := by
  induction actions generalizing n with
  | nil => cases ran; exact reachable
  | cons action more inductionHypothesis =>
    simp only [Node.run, Option.bind_eq_some] at ran
    obtain ⟨middle, stepped, rest⟩ := ran
    exact inductionHypothesis (.step action reachable stepped) rest

/-- What one interleaving step can do, guards included: begin an operation on an idle thread,
panic on a poisoned lock, take a free lock, run one step of the held section, or fail the
section's write. -/
theorem Node.step_cases {n n' : Node} {action : NodeAction} (stepped : n.step action = some n') :
    (∃ op, action = .begin op ∧ n.threads op.thread = .idle ∧
      n' = { n with threads := update n.threads op.thread (.locking op) }) ∨
    (∃ thread op, action = .lock thread ∧ n.threads thread = .locking op ∧
      n.poisoned op.store = true ∧ n' = { n with threads := update n.threads thread .panicked }) ∨
    (∃ thread op, action = .lock thread ∧ n.threads thread = .locking op ∧
      n.poisoned op.store = false ∧ n.holder op.store = none ∧
      n' = { n with
        holder := update n.holder op.store (some thread)
        threads := update n.threads thread (.locked op op.critical) }) ∨
    (∃ thread op rest, action = .advance thread ∧ n.threads thread = .locked op rest ∧
      n' = n.advance thread op rest) ∨
    (∃ thread op next, action = .writeFails thread ∧ n.threads thread = .locked op (.persist next) ∧
      n' = n.abandon thread op.store) := by
  cases action with
  | begin op =>
    simp only [Node.step] at stepped
    split at stepped
    · rename_i idle
      cases stepped
      exact .inl ⟨op, rfl, idle, rfl⟩
    · cases stepped
  | lock thread =>
    simp only [Node.step] at stepped
    split at stepped
    · rename_i op locking
      split at stepped
      · rename_i poisoned
        cases stepped
        exact .inr (.inl ⟨thread, op, rfl, locking, poisoned, rfl⟩)
      · rename_i healthy
        split at stepped
        · rename_i free
          cases stepped
          exact .inr (.inr (.inl ⟨thread, op, rfl, locking, Bool.not_eq_true _ ▸ healthy, free, rfl⟩))
        · cases stepped
    · cases stepped
  | advance thread =>
    simp only [Node.step] at stepped
    split at stepped
    · rename_i op rest running
      cases stepped
      exact .inr (.inr (.inr (.inl ⟨thread, op, rest, rfl, running, rfl⟩)))
    · cases stepped
  | writeFails thread =>
    simp only [Node.step] at stepped
    split at stepped
    · rename_i op next running
      cases stepped
      exact .inr (.inr (.inr (.inr ⟨thread, op, next, rfl, running, rfl⟩)))
    · cases stepped

/-- The invariant of the mutexes: a free, healthy store is what its file holds; a locked
store belongs to the thread running a critical section on it, and what remains of that
section writes the store before it drops the guard. -/
structure Node.Consistent (n : Node) : Prop where
  persisted : ∀ store, n.holder store = none → n.poisoned store = false →
    n.files store = n.stores store
  holds : ∀ thread op rest, n.threads thread = .locked op rest →
    n.holder op.store = some thread ∧ Restores rest (n.stores op.store) (n.files op.store) ∧
      Reaches op.critical rest
  poisonedFree : ∀ store, n.poisoned store = true → n.holder store = none

/-- A change of one thread to a state outside any critical section keeps the invariant. -/
theorem Node.Consistent.with_thread {n : Node} (consistent : n.Consistent) (thread : Thread)
    (state : ThreadState) (outside : ∀ op rest, state ≠ .locked op rest) :
    Node.Consistent { n with threads := update n.threads thread state } where
  persisted := consistent.persisted
  holds other op rest running := by
    by_cases acting : other = thread
    · subst acting
      exact absurd (by simpa only [update_same] using running) (outside op rest)
    · exact consistent.holds other op rest (by simpa only [update_noteq acting] using running)
  poisonedFree := consistent.poisonedFree

/-- The invariant survives a step that changes one store and one thread, when it holds for
that store and that thread afterwards and no other thread runs on that store. -/
theorem Node.Consistent.of_frame {n n' : Node} (consistent : n.Consistent) (thread : Thread)
    (store : StoreId)
    (storesFrame : ∀ other, other ≠ store → n'.stores other = n.stores other)
    (filesFrame : ∀ other, other ≠ store → n'.files other = n.files other)
    (holderFrame : ∀ other, other ≠ store → n'.holder other = n.holder other)
    (poisonedFrame : ∀ other, other ≠ store → n'.poisoned other = n.poisoned other)
    (threadsFrame : ∀ other, other ≠ thread → n'.threads other = n.threads other)
    (alone : ∀ other op rest, other ≠ thread → n.threads other = .locked op rest →
      op.store ≠ store)
    (persistedHere : n'.holder store = none → n'.poisoned store = false →
      n'.files store = n'.stores store)
    (holdsHere : ∀ op rest, n'.threads thread = .locked op rest →
      n'.holder op.store = some thread ∧ Restores rest (n'.stores op.store) (n'.files op.store) ∧
        Reaches op.critical rest)
    (poisonedHere : n'.poisoned store = true → n'.holder store = none) : n'.Consistent where
  persisted other free healthy := by
    by_cases here : other = store
    · subst here
      exact persistedHere free healthy
    · rw [storesFrame other here, filesFrame other here]
      exact consistent.persisted other (by rwa [← holderFrame other here])
        (by rwa [← poisonedFrame other here])
  holds other op rest running := by
    by_cases acting : other = thread
    · subst acting
      exact holdsHere op rest running
    · rw [threadsFrame other acting] at running
      have apart := alone other op rest acting running
      rw [holderFrame _ apart, storesFrame _ apart, filesFrame _ apart]
      exact consistent.holds other op rest running
  poisonedFree other poisoned := by
    by_cases here : other = store
    · subst here
      exact poisonedHere poisoned
    · rw [holderFrame other here]
      exact consistent.poisonedFree other (by rwa [← poisonedFrame other here])

/-- Two threads running critical sections lock different stores. -/
theorem Node.Consistent.stores_apart {n : Node} {thread other : Thread} {op op' : Operation}
    (consistent : n.Consistent) {rest rest' : CriticalSection}
    (running : n.threads thread = .locked op rest)
    (running' : n.threads other = .locked op' rest') (apart : other ≠ thread) :
    op'.store ≠ op.store := fun same => by
  have held := (consistent.holds _ _ _ running).1
  rw [← same, (consistent.holds _ _ _ running').1] at held
  exact apart (Option.some.inj held)

section Steps

variable {n : Node} {thread : Thread} {op : Operation} {rest : CriticalSection}

/-- A locked thread's running section, read off the updated thread map. -/
theorem locked_update_inj {threads : Thread → ThreadState} {op' : Operation}
    {rest' : CriticalSection}
    (running : update threads thread (.locked op rest) thread = .locked op' rest') :
    op' = op ∧ rest' = rest := by
  rw [update_same] at running
  cases running
  exact ⟨rfl, rfl⟩

/-- A panic inside a critical section keeps the invariant: the store is poisoned. -/
theorem Node.Consistent.abandon (consistent : n.Consistent)
    (running : n.threads thread = .locked op rest) :
    (n.abandon thread op.store).Consistent :=
  consistent.of_frame thread op.store (fun _ _ => rfl) (fun _ _ => rfl)
    (fun _ apart => update_noteq apart _ _) (fun _ apart => update_noteq apart _ _)
    (fun _ apart => update_noteq apart _ _)
    (fun _ _ _ acting running' => consistent.stores_apart running running' acting)
    (fun _ healthy => by simp only [Node.abandon, update_same] at healthy; cases healthy)
    (fun _ _ running' => by simp only [Node.abandon, update_same] at running'; cases running')
    (fun _ => update_same _ _ _)

/-- Taking the lock of a free, healthy store keeps the invariant. -/
theorem Node.Consistent.lock (consistent : n.Consistent) (free : n.holder op.store = none)
    (healthy : n.poisoned op.store = false) :
    Node.Consistent { n with
      holder := update n.holder op.store (some thread)
      threads := update n.threads thread (.locked op op.critical) } :=
  consistent.of_frame thread op.store (fun _ _ => rfl) (fun _ _ => rfl)
    (fun _ apart => update_noteq apart _ _) (fun _ _ => rfl)
    (fun _ apart => update_noteq apart _ _)
    (fun _ _ _ _ running' same => by
      rw [← same, (consistent.holds _ _ _ running').1] at free
      cases free)
    (fun held _ => by simp only [update_same] at held; cases held)
    (fun _ _ running' => by
      obtain ⟨rfl, rfl⟩ := locked_update_inj running'
      refine ⟨update_same _ _ _, ?_, .refl _⟩
      rw [consistent.persisted _ free healthy]
      exact Operation.restores _ _)
    (fun poisoned => by rw [healthy] at poisoned; cases poisoned)

/-- One step of a critical section keeps the invariant. -/
theorem Node.Consistent.advance (consistent : n.Consistent)
    (running : n.threads thread = .locked op rest) :
    (n.advance thread op rest).Consistent := by
  obtain ⟨held, restores, reaches⟩ := consistent.holds _ _ _ running
  have busy : ∀ {P : Prop}, n.holder op.store = none → P := fun free =>
    absurd (held.symm.trans free) (Option.some_ne_none _)
  have alone : ∀ other op' rest', other ≠ thread → n.threads other = .locked op' rest' →
      op'.store ≠ op.store := fun _ _ _ acting running' =>
    consistent.stores_apart running running' acting
  cases rest with
  | release =>
    refine consistent.of_frame thread op.store (fun _ _ => rfl)
      (fun _ _ => rfl) (fun _ apart => update_noteq apart _ _) (fun _ _ => rfl)
      (fun _ apart => update_noteq apart _ _) alone (fun _ _ => restores) ?_ ?_
    · intro _ _ running'
      simp only [Node.advance, update_same] at running'
      cases running'
    · exact fun _ => update_same _ _ _
  | inspect proceed =>
    refine consistent.of_frame thread op.store (fun _ _ => rfl)
      (fun _ _ => rfl) (fun _ _ => rfl) (fun _ _ => rfl)
      (fun _ apart => update_noteq apart _ _) alone (fun free _ => busy free) ?_
      (consistent.poisonedFree _)
    intro _ _ running'
    obtain ⟨rfl, rfl⟩ := locked_update_inj running'
    exact ⟨held, restores, reaches.trans_step (.inspect _ (.refl _))⟩
  | update change next =>
    refine consistent.of_frame thread op.store
      (fun _ apart => update_noteq apart _ _) (fun _ _ => rfl) (fun _ _ => rfl) (fun _ _ => rfl)
      (fun _ apart => update_noteq apart _ _) alone (fun free _ => busy free) ?_
      (consistent.poisonedFree _)
    intro _ _ running'
    obtain ⟨rfl, rfl⟩ := locked_update_inj running'
    refine ⟨held, ?_, reaches.trans_step (.update (.refl _))⟩
    simp only [Node.advance, update_same]
    exact restores
  | persist next =>
    refine consistent.of_frame thread op.store (fun _ _ => rfl)
      (fun _ apart => update_noteq apart _ _) (fun _ _ => rfl) (fun _ _ => rfl)
      (fun _ apart => update_noteq apart _ _) alone (fun free _ => busy free) ?_
      (consistent.poisonedFree _)
    intro _ _ running'
    obtain ⟨rfl, rfl⟩ := locked_update_inj running'
    refine ⟨held, ?_, reaches.trans_step (.persist (.refl _))⟩
    simp only [Node.advance, update_same]
    exact restores
  | panic => exact consistent.abandon running

/-- Every interleaving step keeps the invariant. -/
theorem Node.Consistent.step {n' : Node} (consistent : n.Consistent) {action : NodeAction}
    (stepped : n.step action = some n') : n'.Consistent := by
  rcases Node.step_cases stepped with
    ⟨_, -, -, rfl⟩ | ⟨_, _, -, -, -, rfl⟩ | ⟨_, _, -, -, healthy, free, rfl⟩ |
      ⟨_, _, _, -, running, rfl⟩ | ⟨_, _, _, -, running, rfl⟩
  · exact consistent.with_thread _ _ fun _ _ => ThreadState.noConfusion
  · exact consistent.with_thread _ _ fun _ _ => ThreadState.noConfusion
  · exact consistent.lock free healthy
  · exact consistent.advance running
  · exact consistent.abandon running

end Steps

/-- Right after the startup code both files hold their stores and no thread runs. -/
theorem Node.consistent_start (inbound outbound : PaymentInfoStorage) (recent : List PaymentHash) :
    (Node.start inbound outbound recent).Consistent where
  persisted _ _ _ := rfl
  holds _ _ _ running := by cases running
  poisonedFree _ poisoned := by cases poisoned

/-- Every reachable node satisfies the invariant of the mutexes. -/
theorem Node.Reachable.consistent {n : Node} (reachable : n.Reachable) : n.Consistent := by
  induction reachable with
  | start inbound outbound recent => exact Node.consistent_start inbound outbound recent
  | step _ _ stepped inductionHypothesis => exact inductionHypothesis.step stepped
  | restart recent _ _ => exact Node.consistent_start _ _ recent

/-- A payment hash of 32 equal bytes. -/
def sampleHash (byte : UInt8) : PaymentHash := List.replicate 32 byte

/-- An invoice for 5000 msat without a YUV pixel. -/
def sampleInvoice : Bolt11Invoice := ⟨sampleHash 1, sampleHash 2, some 5000, none⟩

/-- A preimage for `sampleInvoice`'s hash. -/
def samplePreimage : PaymentPreimage := sampleHash 3

/-- A step of a critical section on one store leaves every other store, its file and its
poison as they were. -/
theorem Node.advance_elsewhere (n : Node) (thread : Thread) {op : Operation}
    {rest : CriticalSection} {store : StoreId} (apart : store ≠ op.store) :
    (n.advance thread op rest).stores store = n.stores store ∧
      (n.advance thread op rest).files store = n.files store ∧
      (n.advance thread op rest).poisoned store = n.poisoned store := by
  cases rest <;> simp only [Node.advance, Node.abandon, update_noteq apart, and_self]

/-- A poisoned store stays poisoned, and no step changes it or its file. -/
theorem Node.Consistent.poisoned_step {n n' : Node} (consistent : n.Consistent) {store : StoreId}
    (poisoned : n.poisoned store = true) {action : NodeAction} (stepped : n.step action = some n') :
    n'.poisoned store = true ∧ n'.stores store = n.stores store ∧ n'.files store = n.files store := by
  have unheld := consistent.poisonedFree store poisoned
  have apart : ∀ {thread op rest}, n.threads thread = .locked op rest → store ≠ op.store :=
    fun running same => by
      rw [same, (consistent.holds _ _ _ running).1] at unheld
      cases unheld
  rcases Node.step_cases stepped with
    ⟨_, -, -, rfl⟩ | ⟨_, _, -, -, -, rfl⟩ | ⟨_, _, -, -, -, -, rfl⟩ |
      ⟨thread, _, _, -, running, rfl⟩ | ⟨_, _, _, -, running, rfl⟩
  · exact ⟨poisoned, rfl, rfl⟩
  · exact ⟨poisoned, rfl, rfl⟩
  · exact ⟨poisoned, rfl, rfl⟩
  · obtain ⟨sameStore, sameFile, samePoison⟩ := Node.advance_elsewhere n thread (apart running)
    exact ⟨samePoison ▸ poisoned, sameStore, sameFile⟩
  · exact ⟨by simp only [Node.abandon, update_noteq (apart running), poisoned], rfl, rfl⟩

/-- After a panic inside a critical section (an `unwrap` of `None` or of a failed write) the
store's mutex is poisoned for good: every later `lock().unwrap()` of it panics, so the store
and its file never change again, and a change the failed write did not persist is never read.

Proof: a poisoned mutex has no holder (`poisonedFree`), so every running section locks the
other store, and a lock attempt on the poisoned one only panics the thread
(`Node.Consistent.poisoned_step`); induction on the steps. -/
theorem poisoned_store_frozen {n n' : Node} (reachable : n.Reachable) (store : StoreId)
    (poisoned : n.poisoned store = true) (actions : List NodeAction)
    (ran : n.run actions = some n') :
    n'.poisoned store = true ∧ n'.stores store = n.stores store ∧ n'.files store = n.files store := by
  induction actions generalizing n with
  | nil =>
    cases ran
    exact ⟨poisoned, rfl, rfl⟩
  | cons action more inductionHypothesis =>
    simp only [Node.run, Option.bind_eq_some] at ran
    obtain ⟨middle, stepped, rest⟩ := ran
    obtain ⟨stillPoisoned, sameStore, sameFile⟩ := reachable.consistent.poisoned_step poisoned stepped
    obtain ⟨finalPoisoned, finalStore, finalFile⟩ :=
      inductionHypothesis (.step action reachable stepped) stillPoisoned rest
    exact ⟨finalPoisoned, finalStore.trans sameStore, finalFile.trans sameFile⟩

/-- The CLI pays an invoice that carries no amount, with an amount given on the command line. -/
def amountlessSend (invoice : Bolt11Invoice) (amount : Nat) : List NodeAction :=
  [.begin (.sendpayment invoice (some amount) true true), .lock .cli, .advance .cli, .advance .cli,
    .advance .cli]

/-- An invoice without an amount. -/
def amountlessInvoice : Bolt11Invoice := ⟨sampleHash 5, sampleHash 6, none, none⟩

/-- The event handler's `PaymentSent` for the amountless payment. -/
def settleAmountless : List NodeAction :=
  [.begin (.paymentSent samplePreimage (sampleHash 5)), .lock .eventHandler]

/-- After the amountless payment poisoned `outbound_payments`, the event handler's attempt to
record its `PaymentSent` panics in `lock()` and changes nothing. -/
theorem poisoned_outbound_after_amountless_send :
    ∃ n n', (Node.start ⟨∅⟩ ⟨∅⟩ []).run (amountlessSend amountlessInvoice 1000) = some n ∧
      n.run settleAmountless = some n' ∧ n'.threads .eventHandler = .panicked ∧
      (n'.poisoned .outbound = true ∧ n'.stores .outbound = n.stores .outbound ∧
        n'.files .outbound = n.files .outbound) := by
  obtain ⟨n, ran⟩ : ∃ n, (Node.start ⟨∅⟩ ⟨∅⟩ []).run (amountlessSend amountlessInvoice 1000) =
      some n := ⟨_, rfl⟩
  obtain ⟨n', ran'⟩ : ∃ n', n.run settleAmountless = some n' := by cases ran; exact ⟨_, rfl⟩
  refine ⟨n, n', ran, ran', by cases ran; cases ran'; rfl, poisoned_store_frozen
    (Node.reachable_run (amountlessSend amountlessInvoice 1000) (.start _ _ _) ran) .outbound
    (by cases ran; rfl) settleAmountless ran'⟩

end YuvLdkSample
