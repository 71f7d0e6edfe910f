import YuvLdkSample.PaymentThreads

/-!
# Which operations change an outbound payment record

Each operation on `outbound_payments` changes only the record under the hash it names, so
the record of a hash moves only through a `sendpayment` or `keysend` for that hash (which
insert a fresh `Pending` record before the send call) and the `PaymentSent` and
`PaymentFailed` events for it. A restart reads the record back from the file, and the
startup reconciliation changes only `Pending` records. A `Succeeded` record is nonetheless not
final: a second `sendpayment` of the same invoice replaces it.
-/

namespace YuvLdkSample

open Function (update update_same update_noteq)

/-- No thread is running an operation that names the hash on `outbound_payments`. -/
def Node.Quiet (n : Node) (hash : PaymentHash) : Prop :=
  ∀ thread op, (n.threads thread).operation = some op → op.outboundHash ≠ some hash

section Frame

variable {n : Node} {thread : Thread} {op : Operation} {rest : CriticalSection}
  {hash : PaymentHash}

/-- A step of a critical section leaves the other threads where they are. -/
theorem Node.advance_threads_of_ne {other : Thread} (apart : other ≠ thread) :
    (n.advance thread op rest).threads other = n.threads other := by
  cases rest <;> exact update_noteq apart _ _

/-- After a step of its critical section a thread runs the same operation or none. -/
theorem Node.advance_operation (n : Node) (thread : Thread) (op : Operation)
    (rest : CriticalSection) :
    ((n.advance thread op rest).threads thread).operation = none ∨
      ((n.advance thread op rest).threads thread).operation = some op := by
  cases rest <;>
    simp only [Node.advance, Node.abandon, update_same, ThreadState.operation, or_true, true_or]

/-- A step of a section that keeps the record when it runs on `outbound_payments` keeps the
outbound record. -/
theorem Node.advance_keeps (keeps : op.store = .outbound → Keeps hash rest) :
    ((n.advance thread op rest).stores .outbound).lookup hash =
      (n.stores .outbound).lookup hash := by
  cases rest with
  | update change next =>
    simp only [Node.advance]
    by_cases here : op.store = .outbound
    · rw [here, update_same]
      exact (keeps here).1 _
    · rw [update_noteq (Ne.symm here)]
  | _ => rfl

/-- A thread moving to a state that runs no operation, or one that does not name the hash,
keeps the node quiet. -/
theorem Node.Quiet.update {n' : Node} (quiet : n.Quiet hash)
    (others : ∀ other, other ≠ thread → n'.threads other = n.threads other)
    (acting : ∀ op', (n'.threads thread).operation = some op' → op'.outboundHash ≠ some hash) :
    n'.Quiet hash := fun other op' current => by
  by_cases same : other = thread
  · subst same
    exact acting op' current
  · rw [others other same] at current
    exact quiet other op' current

/-- Moving one thread to a state that runs no operation naming the hash keeps the node quiet. -/
theorem Node.Quiet.set (quiet : n.Quiet hash) {state : ThreadState}
    (acting : ∀ op', state.operation = some op' → op'.outboundHash ≠ some hash) :
    Node.Quiet { n with threads := Function.update n.threads thread state } hash :=
  quiet.update (fun _ apart => update_noteq apart _ _) fun op' current =>
    acting op' (by rwa [← update_same thread state n.threads])

/-- An interleaving step that begins no operation naming the hash keeps the outbound record
of the hash and keeps the node quiet. -/
theorem Node.Consistent.keeps_record {n' : Node} (consistent : n.Consistent)
    (quiet : n.Quiet hash) {action : NodeAction}
    (unnamed : ∀ op, action = .begin op → op.outboundHash ≠ some hash)
    (stepped : n.step action = some n') :
    (n'.stores .outbound).lookup hash = (n.stores .outbound).lookup hash ∧ n'.Quiet hash := by
  rcases Node.step_cases stepped with
    ⟨op, rfl, -, rfl⟩ | ⟨thread, op, rfl, locking, -, rfl⟩ | ⟨thread, op, rfl, locking, -, -, rfl⟩ |
      ⟨thread, op, rest, rfl, running, rfl⟩ | ⟨thread, op, _, rfl, -, rfl⟩
  · exact ⟨rfl, quiet.set fun _ current => by cases current; exact unnamed op rfl⟩
  · exact ⟨rfl, quiet.set fun _ current => by cases current⟩
  · exact ⟨rfl, quiet.set fun _ current => by
      cases current
      exact quiet thread op (by rw [locking]; rfl)⟩
  · have named := quiet thread op (by rw [running]; rfl)
    refine ⟨Node.advance_keeps fun locksOutbound => ?_,
      quiet.update (fun _ apart => Node.advance_threads_of_ne apart) fun op' current => ?_⟩
    · exact (op.keeps hash locksOutbound named).reaches (consistent.holds _ _ _ running).2.2
    · rcases Node.advance_operation n thread op rest with stopped | same
      · rw [stopped] at current
        cases current
      · rw [same] at current
        cases current
        exact named
  · exact ⟨rfl, quiet.set fun _ current => by cases current⟩

end Frame

/-- The interleavings that begin no operation naming the hash keep its outbound record. -/
theorem outbound_record_kept {n n' : Node} (hash : PaymentHash) (actions : List NodeAction)
    (reachable : n.Reachable) (quiet : n.Quiet hash)
    (unnamed : ∀ op, NodeAction.begin op ∈ actions → op.outboundHash ≠ some hash)
    (ran : n.run actions = some n') :
    (n'.stores .outbound).lookup hash = (n.stores .outbound).lookup hash := by
  induction actions generalizing n with
  | nil =>
    cases ran
    rfl
  | cons action more inductionHypothesis =>
    simp only [Node.run, Option.bind_eq_some] at ran
    obtain ⟨middle, stepped, rest⟩ := ran
    obtain ⟨kept, quiet'⟩ := reachable.consistent.keeps_record quiet
      (fun op same => unnamed op (same ▸ List.mem_cons_self _ _)) stepped
    rw [inductionHypothesis (.step action reachable stepped) quiet'
      (fun op mem => unnamed op (List.mem_cons_of_mem _ mem)) rest, kept]

/-- The outbound record of a hash changes only through an operation that names the hash, and
through the startup reconciliation, which changes only `Pending` records. From any reachable
node where no thread is running an operation naming the hash, every interleaving that begins
none keeps the record, whatever the other operations and their answers. A restart, at any
point, starts a quiet node whose record is the file's, with a `Pending` one turned `Failed` when
the channel manager does not list the hash, and every other one kept.

Proof: by induction on the steps (`outbound_record_kept`). Each operation on
`outbound_payments` changes only the record under the hash it names (`Confined`), so a section
of an operation naming another hash keeps the record (`Operation.keeps`), and so does what
remains of it after some steps (`Keeps.reaches`, with the invariant's `Reaches`). Operations on
`inbound_payments` do not change the outbound store. The reconciliation visits each record once
(`reconcile_lookup`). -/
theorem outbound_record_frame (hash : PaymentHash) :
    (∀ (n n' : Node) (actions : List NodeAction), n.Reachable → n.Quiet hash →
      (∀ op, NodeAction.begin op ∈ actions → op.outboundHash ≠ some hash) →
      n.run actions = some n' →
      (n'.stores .outbound).lookup hash = (n.stores .outbound).lookup hash) ∧
    ∀ (n : Node) (recent : List PaymentHash), n.Reachable →
      (n.restart recent).Reachable ∧ (n.restart recent).Quiet hash ∧
      ((n.restart recent).stores .outbound).lookup hash =
        ((n.files .outbound).lookup hash).map fun info =>
          if info.status = .pending ∧ hash ∉ recent then { info with status := .failed } else info := by
  refine ⟨fun _ _ actions reachable quiet unnamed ran =>
    outbound_record_kept hash actions reachable quiet unnamed ran, fun n recent reachable => ?_⟩
  refine ⟨.restart recent reachable, fun thread _ running => ?_, ?_⟩
  · simp only [Node.restart_threads, ThreadState.operation] at running
    cases running
  · rw [Node.restart_stores_outbound, reconcile_lookup]

/-- The CLI pays `sampleInvoice`, then the event handler records its `PaymentSent`. -/
def payAndSettle : List NodeAction :=
  [.begin (.sendpayment sampleInvoice none true true), .lock .cli, .advance .cli, .advance .cli,
    .advance .cli, .begin (.paymentSent samplePreimage (sampleHash 1)), .lock .eventHandler,
    .advance .eventHandler, .advance .eventHandler, .advance .eventHandler, .advance .eventHandler]

/-- A `keysend` to another hash and a `getinvoice` for the paid hash. -/
def unrelatedTraffic : List NodeAction :=
  [.begin (.keysend (sampleHash 4) 700 false), .lock .cli, .advance .cli, .advance .cli,
    .advance .cli, .advance .cli, .advance .cli, .advance .cli,
    .begin (.getinvoice (some sampleInvoice) 5000 none), .lock .cli, .advance .cli]

/-- A settled payment survives a failed keysend to another hash, a new invoice for the same
hash, and a restart whose channel manager lists no recent payment. -/
theorem settled_record_kept_by_unrelated_traffic :
    ∃ n n', (Node.start ⟨∅⟩ ⟨∅⟩ []).run payAndSettle = some n ∧ n.run unrelatedTraffic = some n' ∧
      (n'.stores .outbound).lookup (sampleHash 1) = (n.stores .outbound).lookup (sampleHash 1) ∧
      ((n'.restart []).stores .outbound).lookup (sampleHash 1) =
        some ⟨some samplePreimage, some (sampleHash 2), .succeeded, some 5000, none⟩ := by
  obtain ⟨n, ran⟩ : ∃ n, (Node.start ⟨∅⟩ ⟨∅⟩ []).run payAndSettle = some n := ⟨_, rfl⟩
  obtain ⟨n', ran'⟩ : ∃ n', n.run unrelatedTraffic = some n' := by cases ran; exact ⟨_, rfl⟩
  have reachable := Node.reachable_run payAndSettle (.start _ _ _) ran
  have quiet : n.Quiet (sampleHash 1) := by
    cases ran
    intro thread op current
    cases thread <;> cases current
  have unnamed : ∀ op, NodeAction.begin op ∈ unrelatedTraffic →
      op.outboundHash ≠ some (sampleHash 1) := by
    intro op mem
    simp only [unrelatedTraffic, List.mem_cons, NodeAction.begin.injEq, reduceCtorEq,
      List.mem_nil_iff, or_false, false_or] at mem
    rcases mem with rfl | rfl <;> decide
  refine ⟨n, n', ran, ran', (outbound_record_frame (sampleHash 1)).1 n n' unrelatedTraffic
    reachable quiet unnamed ran', ?_⟩
  rw [((outbound_record_frame (sampleHash 1)).2 n' [] (Node.reachable_run unrelatedTraffic
    reachable ran')).2.2]
  cases ran
  cases ran'
  decide

/-- The CLI pays `sampleInvoice` again and inserts its record. -/
def payAgain : List NodeAction :=
  [.begin (.sendpayment sampleInvoice none true true), .lock .cli, .advance .cli]

/-- A completed outbound payment record is not final: after the invoice is paid and its
`PaymentSent` recorded, a second `sendpayment` of the same invoice replaces the `Succeeded`
record and its preimage by a `Pending` one without preimage, before the send call. -/
theorem sendpayment_replaces_succeeded_record :
    ∃ n n' : Node, n.Reachable ∧
      (n.stores .outbound).lookup (sampleHash 1) =
        some ⟨some samplePreimage, some (sampleHash 2), .succeeded, some 5000, none⟩ ∧
      n.run payAgain = some n' ∧
      (n'.stores .outbound).lookup (sampleHash 1) =
        some ⟨none, some (sampleHash 2), .pending, some 5000, none⟩ := by
  obtain ⟨n, ran⟩ : ∃ n, (Node.start ⟨∅⟩ ⟨∅⟩ []).run payAndSettle = some n := ⟨_, rfl⟩
  obtain ⟨n', ran'⟩ : ∃ n', n.run payAgain = some n' := by cases ran; exact ⟨_, rfl⟩
  refine ⟨n, n', Node.reachable_run payAndSettle (.start _ _ _) ran, ?_, ran', ?_⟩ <;> cases ran
  · decide
  · cases ran'
    decide

end YuvLdkSample
