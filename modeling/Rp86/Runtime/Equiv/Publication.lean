import Rp86.Host.Equiv.Memory
import Rp86.Runtime.Equiv.FlatMemory
import Rp86.Runtime.Equiv.RunningMemory
import Rp86.Runtime.Equiv.TickStep

/-!
# Publication of a mailbox request

The Host hands a request to a running workload by writing the data area, then the header, then the
owner word of the mailbox page, in memory requests of at most 40 bytes.

`mailbox_publication`: whatever service steps without a memory write come in between, and wherever
the delivery stops, every record is accepted, the page stays in the hands of the Host until the last
record, and a processor that reads itself as the owner finds the whole request in place.
-/

namespace Rp86

open Lib

/-! ### What the processor reads -/

/-- The byte that a memory read of the processor returns. -/
def Firmware.processorRead8 (fw : Firmware) (address : UInt32) : Option UInt8 :=
  memoryRead8 fw.executor.processorMemory fw.backing.storage fw.executor.resetHandoff address

/-- The word that a memory read of the processor returns. -/
def Firmware.processorRead16 (fw : Firmware) (address : UInt32) : Option UInt16 :=
  memoryRead16 fw.executor.processorMemory fw.backing.storage fw.executor.resetHandoff address

/-- The memory map of the executor: that of the last start, or none before the first. -/
def Firmware.MemoryMapped (fw : Firmware) : Prop :=
  fw.executor.processorMemory = ⟨0, 0, 0, 0⟩ ∨ fw.executor.processorMemory = internalSramMemory

theorem SameGeometry.processorMemory {b b' : Backing} (h : SameGeometry b b') :
    b'.processorMemory = b.processorMemory := by
  rw [Backing.processorMemory, Backing.processorMemory, h.processorBase, h.size]

section

variable {env : Env} {fw fw' : Firmware}

theorem StartEffect.processorMemory {calculator : Bool} {status : HostStatus}
    (h : StartEffect env fw calculator status fw') :
    fw'.executor.processorMemory = fw.executor.processorMemory ∨
      fw'.executor.processorMemory = fw.backing.processorMemory := by
  cases h with
  | calculator m hvalid hframe | calculatorFailed m hframe => exact Or.inl rfl
  | general x backing m hspec | generalFailed x backing m hspec => exact hspec.processorMemory_cases

theorem ServiceEffect.processorMemory (h : ServiceEffect env fw fw') :
    fw'.executor.processorMemory = fw.executor.processorMemory := by
  cases h with
  | skipped hfw hx => rw [hfw]
  | continued hx hm hsame => exact hsame.processorMemory
  | completed hx hm hidle => exact hidle.processorMemory
  | ended hx state hstate hm hhalted hparked hreason => exact hhalted.processorMemory

/-- Only a start sets the memory map, and to the backing. -/
theorem RecordStep.processorMemory {request : Message} {event : HostEvent}
    (hstep : RecordStep env fw request event fw') (hagrees : Agrees fw) :
    fw'.executor.processorMemory = fw.executor.processorMemory ∨
      fw'.executor.processorMemory = fw.backing.processorMemory := by
  cases hstep.effect hagrees with
  | started operation fw₁ hfrom =>
    have h := (startWorkload_effect env (calculatorWorkloadValid fw.manager fw.backing) fw₁
      hfrom.active).processorMemory
    cases hfrom <;> exact h
  | unchanged | begun | received | rejected | staged | halted | stopped | memory | timeout
    | quiet => exact Or.inl rfl

theorem HandlerStep.memoryMapped {event : HostEvent} (hstep : HandlerStep env fw event fw')
    (hagrees : Agrees fw) (hgeometry : fw.backing.IsInternalSram)
    (h : fw.MemoryMapped) : fw'.MemoryMapped := by
  cases hstep with
  | record hstep =>
    rcases hstep.processorMemory hagrees with heq | heq
    · exact h.imp heq.trans heq.trans
    · exact Or.inr (heq.trans hgeometry.processorMemory)
  | service =>
    have heq := (workloadExecutorService_effect env fw).processorMemory
    exact h.imp heq.trans heq.trans

end

theorem firmwareRun_memoryMapped (env : Env) (machine : Machine) (actions : List FirmwareAction) :
    (firmwareRun env machine actions).MemoryMapped := by
  refine run_invariant_of_reached ?_ (fun actions action h => ?_) actions
  · exact Or.inl rfl
  · exact (firmwareStep_step env _ action).memoryMapped (firmwareRun_agrees env machine actions)
      (firmwareRun_sameGeometry env machine actions) h

section

variable {fw : Firmware} {address : UInt32}

theorem processorRead8_of_mapped (hmap : fw.executor.processorMemory = internalSramMemory)
    (haddress : address.toNat < 0x40000) :
    fw.processorRead8 address = some (fw.backing.storage address.toNat) := by
  rw [Firmware.processorRead8, hmap, memoryRead8_eq]
  exact if_pos haddress

theorem processorRead16_of_mapped (hmap : fw.executor.processorMemory = internalSramMemory)
    (haddress : address.toNat + 1 < 0x40000) :
    fw.processorRead16 address
      = some ((fw.backing.storage address.toNat).toUInt16 |||
          (fw.backing.storage (address.toNat + 1)).toUInt16 <<< 8) := by
  have hnext : (address + 1).toNat = address.toNat + 1 := by
    have hone : (1 : UInt32).toNat = 1 := rfl
    rw [UInt32.toNat_add, hone]
    omega
  have hlo := @processorRead8_of_mapped fw address hmap (by omega)
  have hhi := @processorRead8_of_mapped fw (address + 1) hmap (by omega)
  rw [Firmware.processorRead8] at hlo hhi
  rw [Firmware.processorRead16, memoryRead16, hlo, hhi, hnext]
  rfl

/-- A processor that reads a word has been started over Internal SRAM. -/
theorem Firmware.MemoryMapped.of_read16 (h : fw.MemoryMapped) {value : UInt16}
    (hread : fw.processorRead16 address = some value) :
    fw.executor.processorMemory = internalSramMemory := by
  refine h.resolve_left fun hnone => ?_
  rw [Firmware.processorRead16, hnone] at hread
  cases hread

end

/-! ### Steps of the delivery -/

/-- A service step completes a memory write of the processor. -/
def Firmware.writesMemory (env : Env) (fw : Firmware) : Bool :=
  fw.completesCycle env && (serviceCycle env fw).2.executor.busStats.lastType == .memWrite

/-- The firmware `fw'` has received the records `delivered` since `fw`, in order, with service steps
in between that write no memory and leave the workload running. -/
inductive Delivery (env : Env) (fw : Firmware) : List Record → Firmware → Prop
  | start : Delivery env fw [] fw
  | service {delivered : List Record} {fw' : Firmware} (h : Delivery env fw delivered fw')
      (hread : fw'.writesMemory env = false)
      (hrunning : (firmwareStep env fw' .service).manager.state = .running) :
      Delivery env fw delivered (firmwareStep env fw' .service)
  | record {delivered : List Record} {fw' : Firmware} (h : Delivery env fw delivered fw')
      (record : Record) :
      Delivery env fw (delivered ++ [record]) (firmwareStep env fw' (.record record))

theorem exists_delivery (env : Env) (fw : Firmware) (records : List Record) :
    ∃ fw', Delivery env fw records fw' := by
  induction records using List.reverseRecOn with
  | nil => exact ⟨fw, .start⟩
  | append_singleton records record ih =>
    obtain ⟨fw', h⟩ := ih
    exact ⟨_, h.record record⟩

/-- A service step changes the backing only by a memory write of the processor. -/
theorem workloadExecutorService_backing {env : Env} {fw : Firmware}
    (h : fw.writesMemory env = false) : (workloadExecutorService env fw).backing = fw.backing := by
  cases workloadExecutorService_cycle env fw with
  | skipped hx hcycle heq => rw [heq]
  | expired hx hexpired hcycle m heq hstep => exact hstep.backing
  | cycle completed fw₁ hx hdeadline hbus hcycle heq hstep =>
    have hcompleted := (executorBusCycle_outcome hbus).decide_completed
    rw [Firmware.writesMemory, Firmware.completesCycle, hcycle, hcompleted] at h
    rw [hstep.backing]
    rcases (executorBusCycle_effect hbus).ram_cases with hsame | ⟨hdone, htype⟩
    · obtain ⟨rfl, rfl⟩ := Prod.mk.inj hbus
      exact congrArg (fun storage => { fw.backing with storage := storage }) hsame
    · rw [hdone, show fw₁.executor.busStats.lastType = .memWrite from htype] at h
      cases h

/-- A write record, served while the workload runs and the Host owns the page. -/
theorem firmwareStep_write {env : Env} {fw : Firmware} {sequence : UInt32} {w : ByteWrite}
    (hst : fw.manager.state = .running) (hloop : fw.halted = false)
    (hgeometry : fw.backing.IsInternalSram) (howned : sharedMailboxHostOwned fw.backing = true)
    (hpage : 0x3F000 ≤ w.1) (hend : w.1 + w.2.length ≤ 0x40000)
    (hlength : w.2.length ≤ memoryDataBytes) :
    (∃ reply, firmwareReply env fw (.record (memoryWriteRequest sequence w).toRecord)
        = some reply ∧ reply.status = HostStatus.ok.code) ∧
      firmwareStep env fw (.record (memoryWriteRequest sequence w).toRecord) = { fw with
        memoryService := dispatchWindow .running fw.backing
        backing := { fw.backing with storage := writeBytes fw.backing.storage w.1 w.2 } } := by
  have hstep : firmwareStep env fw (.record (memoryWriteRequest sequence w).toRecord)
      = firmwareAct env fw (.record (memoryWriteRequest sequence w).toRecord) := by
    rw [firmwareStep, hloop]
    rfl
  have hvalid : payloadLengthValid (memoryWriteRequest sequence w) = true := by
    rw [payloadLengthValid, memoryWriteRequest,
      Message.request_length (length_memoryWritePayload hlength)]
    exact decide_eq_true (length_memoryWritePayload hlength)
  have htake := (@takeNonControlRecord_memory env (memoryWriteRequest sequence w) fw rfl).1 rfl
    hvalid
  have hdispatch := @dispatch_running_write sequence w fw.backing hgeometry howned hpage hend
    hlength
  rw [← hst] at hdispatch
  have hhandle : handleMemoryRecord (memoryWriteRequest sequence w) fw
      = (memoryReply (memoryWriteRequest sequence w) .ok [], { fw with
          memoryService := dispatchWindow .running fw.backing
          backing := { fw.backing with storage := writeBytes fw.backing.storage w.1 w.2 } }) := by
    rw [handleMemoryRecord, hdispatch, hst]
  refine ⟨⟨memoryReply (memoryWriteRequest sequence w) .ok [], ?_, rfl⟩, ?_⟩
  · rw [firmwareReply, Message.ofRecord_toRecord, htake, hhandle]
  · rw [hstep, firmwareAct, Message.ofRecord_toRecord, htake, hhandle]

/-! ### Delivery of writes -/

/-- A record carries a write of the Host. -/
def Record.Writes (record : Record) (w : ByteWrite) : Prop :=
  record.Carries fun sequence => memoryWriteRequest sequence w

/-- A write of at most 40 bytes to the page. -/
def InPage (w : ByteWrite) : Prop :=
  0x3F000 ≤ w.1 ∧ w.1 + w.2.length ≤ 0x40000 ∧ w.2.length ≤ memoryDataBytes

def Backing.afterWrites (backing : Backing) (ws : List ByteWrite) (k : ℕ) : Backing :=
  { backing with storage := applyWrites backing.storage (ws.take k) }

section

variable {env : Env} {fw fw' : Firmware} {records : List Record} {ws : List ByteWrite}

/-- The record that comes after some prefix carries the write that does. -/
theorem writes_of_prefix (hrecords : List.Forall₂ Record.Writes records ws)
    {delivered : List Record} {record : Record} (h : delivered ++ [record] <+: records) :
    ∃ w, ws[delivered.length]? = some w ∧ record.Writes w := by
  obtain ⟨rest, rfl⟩ := h
  rw [List.append_assoc] at hrecords
  induction delivered generalizing ws with
  | nil =>
    cases hrecords with
    | cons hw _ => exact ⟨_, rfl, hw⟩
  | cons first delivered ih =>
    cases hrecords with
    | cons _ htail =>
      obtain ⟨w, hget, hw⟩ := ih htail
      exact ⟨w, hget, hw⟩

theorem afterWrites_succ (backing : Backing) {k : ℕ} {w : ByteWrite} (h : ws[k]? = some w) :
    backing.afterWrites ws (k + 1) = { backing with
      storage := writeBytes (backing.afterWrites ws k).storage w.1 w.2 } := by
  rw [Backing.afterWrites, List.take_add_one, h, applyWrites_append]
  rfl

/-- How far a delivery has come: the firmware as it was, with the writes of the delivered records
in the backing. -/
structure Delivered (fw : Firmware) (ws : List ByteWrite) (k : ℕ) (fw' : Firmware) : Prop where
  running : fw'.manager.state = .running
  halted : fw'.halted = false
  processorMemory : fw'.executor.processorMemory = fw.executor.processorMemory
  backing : fw'.backing = fw.backing.afterWrites ws k

/-- The next record of a delivery is accepted and makes its write. -/
theorem Delivered.write {k : ℕ} {w : ByteWrite} {record : Record}
    (hgeometry : fw.backing.IsInternalSram)
    (howned : sharedMailboxHostOwned (fw.backing.afterWrites ws k) = true)
    (h : Delivered fw ws k fw') (hw : ws[k]? = some w) (hpage : InPage w)
    (hrecord : record.Writes w) :
    (∃ reply, firmwareReply env fw' (.record record) = some reply ∧
      reply.status = HostStatus.ok.code) ∧
    Delivered fw ws (k + 1) (firmwareStep env fw' (.record record)) := by
  obtain ⟨sequence, rfl⟩ := hrecord
  have hgeometry' : fw'.backing.IsInternalSram := by
    rw [h.backing]
    exact ⟨hgeometry.processorBase, hgeometry.size, hgeometry.available⟩
  obtain ⟨hreply, hstep⟩ := @firmwareStep_write env fw' sequence w h.running h.halted hgeometry'
    (by rw [h.backing]; exact howned) hpage.1 hpage.2.1 hpage.2.2
  refine ⟨hreply, ?_⟩
  rw [hstep]
  refine ⟨h.running, h.halted, h.processorMemory, ?_⟩
  rw [afterWrites_succ fw.backing hw, h.backing]
  rfl

/-- A service step without a memory write changes nothing that matters to a delivery. -/
theorem Delivered.service {k : ℕ} (h : Delivered fw ws k fw') (hread : fw'.writesMemory env = false)
    (hrunning : (firmwareStep env fw' .service).manager.state = .running) :
    Delivered fw ws k (firmwareStep env fw' .service) := by
  have hstep : firmwareStep env fw' .service = workloadExecutorService env fw' := by
    rw [firmwareStep, h.halted]
    rfl
  refine ⟨hrunning, ?_, ?_, ?_⟩
  · rw [hstep, (workloadExecutorService_frame env fw').halted]
    exact h.halted
  · rw [hstep, (workloadExecutorService_effect env fw').processorMemory]
    exact h.processorMemory
  · rw [hstep, workloadExecutorService_backing hread]
    exact h.backing

/-- **Every delivery of a prefix has made the writes of the prefix.** -/
theorem Delivery.delivered (hrecords : List.Forall₂ Record.Writes records ws)
    (hpage : ∀ w ∈ ws, InPage w) (hst : fw.manager.state = .running) (hloop : fw.halted = false)
    (hgeometry : fw.backing.IsInternalSram)
    (howned : ∀ k < ws.length, sharedMailboxHostOwned (fw.backing.afterWrites ws k) = true)
    {delivered : List Record} (h : Delivery env fw delivered fw')
    (hdelivered : delivered <+: records) : Delivered fw ws delivered.length fw' := by
  induction h with
  | start => exact ⟨hst, hloop, rfl, rfl⟩
  | service h hread hrunning ih => exact (ih hdelivered).service hread hrunning
  | @record delivered fw' h record ih =>
    have hfront : delivered <+: records := (List.prefix_append _ _).trans hdelivered
    obtain ⟨w, hw, hrecord⟩ := writes_of_prefix hrecords hdelivered
    have hk : delivered.length < ws.length := (List.getElem?_eq_some_iff.mp hw).1
    rw [List.length_append]
    exact ((ih hfront).write hgeometry (howned _ hk) hw (hpage w (List.mem_of_getElem? hw))
      hrecord).2

end

/-! ### The writes of a request -/

open Host (requestHeader publicationWrites mailboxDataSize)

/-- Handing a packed request over replaces its owner word. -/
theorem writeBytes_requestHeader (m : ByteMap) (a : ℕ) (owner owner' : UInt16)
    (generation : UInt32) (length : UInt16) :
    writeBytes (writeBytes m a (requestHeader owner generation length).toBytes) (a + 8)
        (leBytes 2 owner'.toNat)
      = writeBytes m a (requestHeader owner' generation length).toBytes := by
  have h := fun zs => writeBytes_writeBytes_inside m a
    (leBytes 4 sharedMailboxMagic.toNat ++ leBytes 2 sharedMailboxVersion.toNat ++
      leBytes 2 (UInt16.ofNat sharedMailboxDataOffset).toNat) zs
    (show (leBytes 2 owner'.toNat).length = (leBytes 2 owner.toNat).length by simp)
  simp only [SharedMailboxHeader.toBytes, requestHeader, List.append_assoc] at h ⊢
  exact h _

section

variable {backing : Backing} {data : List UInt8} {chunks : List ByteWrite} {generation : UInt32}
  {length : UInt16}

theorem mailboxHeader_write (backing : Backing) (m : ByteMap) (header : SharedMailboxHeader) :
    { backing with storage := writeBytes m 0x3F000 header.toBytes }.mailboxHeader = header := by
  have hlen : sharedMailboxDataOffset = header.toBytes.length := header.length_toBytes.symm
  rw [Backing.mailboxHeader, hlen, readBytes_writeBytes_self, SharedMailboxHeader.ofBytes_toBytes]

theorem publication_inPage (hchunks : Chunked memoryDataBytes 0x3F020 data chunks)
    (hlength : data.length ≤ mailboxDataSize) {w : ByteWrite}
    (hw : w ∈ chunks ++ publicationWrites generation length) : InPage w := by
  have h4064 : mailboxDataSize = 4064 := rfl
  have h40 : memoryDataBytes = 40 := rfl
  rcases List.mem_append.mp hw with hw | hw
  · obtain ⟨-, hle, hlow, hhigh⟩ := hchunks.mem hw
    exact ⟨by omega, by omega, hle⟩
  · rcases List.mem_pair.mp hw with rfl | rfl
    · have hheader := (requestHeader sharedMailboxOwnerHost generation length).length_toBytes
      refine ⟨Nat.le_refl _, ?_, ?_⟩ <;> simp only <;> omega
    · exact ⟨by simp only; omega, by decide, by decide⟩

/-- The Host owns the page after every write of a request but the last. -/
theorem publication_owned (hgeometry : backing.IsInternalSram)
    (howned : sharedMailboxHostOwned backing = true)
    (hchunks : Chunked memoryDataBytes 0x3F020 data chunks) {k : ℕ}
    (hk : k < (chunks ++ publicationWrites generation length).length) :
    sharedMailboxHostOwned (backing.afterWrites (chunks ++ publicationWrites generation length) k)
      = true := by
  have hgeometry' : SameGeometry internalSramBackingInit
      (backing.afterWrites (chunks ++ publicationWrites generation length) k) :=
    ⟨hgeometry.processorBase, hgeometry.size, hgeometry.available⟩
  rw [sharedMailboxHostOwned_iff hgeometry']
  by_cases hdata : k ≤ chunks.length
  · -- only bytes of the data area have been written
    obtain ⟨front, -, hfront⟩ := hchunks.take k
    have hheader : (backing.afterWrites (chunks ++ publicationWrites generation length)
        k).mailboxHeader = backing.mailboxHeader := by
      rw [Backing.afterWrites, List.take_append_of_le_length hdata, hfront.applyWrites]
      simp only [Backing.mailboxHeader]
      rw [readBytes_writeBytes_of_disjoint (Or.inl (by decide))]
    rw [hheader]
    exact (sharedMailboxHostOwned_iff hgeometry).mp howned
  · -- the header has been written, the owner word has not
    have hlast : k = chunks.length + 1 := by
      simp only [List.length_append, publicationWrites, List.length_cons, List.length_nil] at hk
      omega
    have hheader : (backing.afterWrites (chunks ++ publicationWrites generation length)
        k).mailboxHeader = requestHeader sharedMailboxOwnerHost generation length := by
      rw [Backing.afterWrites, hlast, List.take_length_add_append, applyWrites_append,
        hchunks.applyWrites]
      exact mailboxHeader_write _ _ _
    rw [hheader]
    exact ⟨rfl, rfl, rfl, rfl⟩

theorem publication_storage (hchunks : Chunked memoryDataBytes 0x3F020 data chunks) :
    (backing.afterWrites (chunks ++ publicationWrites generation length)
        (chunks ++ publicationWrites generation length).length).storage
      = writeBytes (writeBytes backing.storage 0x3F020 data) 0x3F000
          (requestHeader sharedMailboxOwnerProcessor generation length).toBytes := by
  rw [Backing.afterWrites, List.take_length, applyWrites_append, hchunks.applyWrites]
  exact writeBytes_requestHeader _ _ _ _ _ _

end

/-! ### Publication -/

/-- A processor finds a request of the Host in the mailbox: the header with itself as the owner, the
generation and the length of the request, and the data. -/
structure Firmware.Published (fw : Firmware) (data : List UInt8) (generation : UInt32) : Prop where
  header : ∀ i < 32, fw.processorRead8 (0x3F000 + UInt32.ofNat i)
    = some ((requestHeader sharedMailboxOwnerProcessor generation
        (UInt16.ofNat data.length)).toBytes.getD i 0)
  data : ∀ i < data.length, fw.processorRead8 (0x3F020 + UInt32.ofNat i) = some (data.getD i 0)

/-- What the processor reads after the whole request has been delivered. -/
theorem published_of_storage {fw : Firmware} {m : ByteMap} {data : List UInt8}
    {generation : UInt32} (hmap : fw.executor.processorMemory = internalSramMemory)
    (hlength : data.length ≤ mailboxDataSize)
    (hstorage : fw.backing.storage = writeBytes (writeBytes m 0x3F020 data) 0x3F000
      (requestHeader sharedMailboxOwnerProcessor generation
        (UInt16.ofNat data.length)).toBytes) :
    fw.Published data generation := by
  have h4064 : mailboxDataSize = 4064 := rfl
  have hheader := (requestHeader sharedMailboxOwnerProcessor generation
    (UInt16.ofNat data.length)).length_toBytes
  have hbase : (0x3F000 : UInt32).toNat = 0x3F000 := rfl
  have hdata : (0x3F020 : UInt32).toNat = 0x3F020 := rfl
  constructor
  · intro i hi
    have haddress : (0x3F000 + UInt32.ofNat i).toNat = 0x3F000 + i := by
      rw [UInt32.toNat_add, hbase, UInt32.toNat_ofNat']
      omega
    rw [processorRead8_of_mapped hmap (by omega), haddress, hstorage,
      writeBytes_of_mem (by omega) (by omega), Nat.add_sub_cancel_left]
  · intro i hi
    have haddress : (0x3F020 + UInt32.ofNat i).toNat = 0x3F020 + i := by
      rw [UInt32.toNat_add, hdata, UInt32.toNat_ofNat']
      omega
    rw [processorRead8_of_mapped hmap (by omega), haddress, hstorage,
      writeBytes_of_not_mem (by omega), writeBytes_of_mem (by omega) (by omega),
      Nat.add_sub_cancel_left]

theorem processorRead16_owner {fw : Firmware}
    (hmap : fw.executor.processorMemory = internalSramMemory) :
    fw.processorRead16 0x3F008 = some fw.backing.mailboxHeader.owner := by
  have hfield : fw.backing.mailboxHeader.owner
      = le16 (readBytes fw.backing.storage 0x3F000 sharedMailboxDataOffset) 8 := rfl
  have haddress : (0x3F008 : UInt32).toNat = 0x3F000 + 8 := rfl
  rw [processorRead16_of_mapped hmap (by decide), haddress, hfield, le16_readBytes _ (by decide)]

/-- **Publication of a mailbox request is all or nothing.**  While a workload runs and the Host owns
the mailbox, let the Host send the records of `mailbox_commit_records` for any request of 1 to 4064
bytes, any generation and any first sequence.  However service steps without a memory write fall
between the records, and after whichever record the delivery stops: the next record is accepted; the
Host owns the page as long as a record is missing; when none is, a processor that was started over
Internal SRAM reads itself as the owner and finds the data and the header of the request; and when
the processor reads itself as the owner, nothing is missing and it finds the request. -/
theorem mailbox_publication (env : Env) (machine : Machine) (actions : List FirmwareAction)
    (hst : (firmwareRun env machine actions).manager.state = .running)
    (hloop : (firmwareRun env machine actions).halted = false)
    (howned : sharedMailboxHostOwned (firmwareRun env machine actions).backing = true)
    (data : List UInt8) (hdata : 1 ≤ data.length ∧ data.length ≤ 4064)
    (generation : ℤ) (hgeneration : 0 ≤ generation ∧ generation < 2 ^ 32)
    (firstSequence : ℤ) (hsequence : 0 ≤ firstSequence ∧ firstSequence < 2 ^ 32) :
    ∃ messages records, Host.mailboxCommitRecords data generation firstSequence = .ok messages ∧
      messages.map Host.Message.encode = records.map (fun record => .ok record.bytes) ∧
      ∀ delivered fw', Delivery env (firmwareRun env machine actions) delivered fw' →
        delivered <+: records →
        fw'.halted = false ∧
        (∀ record, delivered ++ [record] <+: records →
          ∃ reply, firmwareReply env fw' (.record record) = some reply ∧
            reply.status = HostStatus.ok.code) ∧
        (delivered ≠ records → sharedMailboxHostOwned fw'.backing = true) ∧
        (delivered = records →
          (firmwareRun env machine actions).executor.processorMemory = internalSramMemory →
          fw'.processorRead16 0x3F008 = some sharedMailboxOwnerProcessor ∧
            fw'.Published data (UInt32.ofNat generation.toNat)) ∧
        (fw'.processorRead16 0x3F008 = some sharedMailboxOwnerProcessor →
          delivered = records ∧ fw'.Published data (UInt32.ofNat generation.toNat)) := by
  have hgeometry := firmwareRun_sameGeometry env machine actions
  have hmapped := firmwareRun_memoryMapped env machine actions
  set fw := firmwareRun env machine actions
  -- the records of the Host are the writes of the data, the header and the owner word
  obtain ⟨messages, chunks, hmessages, hchunks, hwrites⟩ := Host.mailboxCommitRecords_spec
    (List.length_pos_iff.mp hdata.1) hdata.2 hgeneration hsequence
  obtain ⟨records, hencoded, hrecords⟩ := Host.exists_records hwrites
  set ws := chunks ++ publicationWrites (UInt32.ofNat generation.toNat)
    (UInt16.ofNat data.length) with hws
  refine ⟨messages, records, hmessages, hencoded, fun delivered fw' h hdelivered => ?_⟩
  have hpage : ∀ w ∈ ws, InPage w := fun w => publication_inPage hchunks hdata.2
  have hown : ∀ k < ws.length, sharedMailboxHostOwned (fw.backing.afterWrites ws k) = true :=
    fun k => publication_owned hgeometry howned hchunks
  -- what was delivered is a prefix of the writes, so the page is as they leave it
  have hd := h.delivered hrecords hpage hst hloop hgeometry hown hdelivered
  have hproper : delivered ≠ records → sharedMailboxHostOwned fw'.backing = true := by
    intro hne
    rw [hd.backing]
    refine hown _ (Nat.lt_of_le_of_ne ?_ fun hlen => hne ?_)
    · rw [← hrecords.length_eq]
      exact hdelivered.length_le
    · exact hdelivered.eq_of_length (hlen.trans hrecords.length_eq.symm)
  have hgeometry' : SameGeometry internalSramBackingInit fw'.backing := by
    rw [hd.backing]
    exact ⟨hgeometry.processorBase, hgeometry.size, hgeometry.available⟩
  -- with every record delivered, the page is the whole request in the hands of the processor
  have hcomplete : delivered = records → fw'.executor.processorMemory = internalSramMemory →
      fw'.processorRead16 0x3F008 = some sharedMailboxOwnerProcessor ∧
        fw'.Published data (UInt32.ofNat generation.toNat) := by
    intro hall hmap
    have hstorage := @publication_storage fw.backing _ _ (UInt32.ofNat generation.toNat)
      (UInt16.ofNat data.length) hchunks
    rw [← hws, ← hrecords.length_eq, ← hall, ← hd.backing] at hstorage
    have hheader := mailboxHeader_write fw'.backing (writeBytes fw.backing.storage 0x3F020 data)
      (requestHeader sharedMailboxOwnerProcessor (UInt32.ofNat generation.toNat)
        (UInt16.ofNat data.length))
    rw [← hstorage] at hheader
    refine ⟨(processorRead16_owner hmap).trans ?_, published_of_storage hmap hdata.2 hstorage⟩
    exact congrArg (fun header => some header.owner) hheader
  refine ⟨hd.halted, fun record hnext => ?_, hproper,
    fun hall hmap => hcomplete hall (hd.processorMemory.trans hmap), fun hread => ?_⟩
  · obtain ⟨w, hw, hrecord⟩ := writes_of_prefix hrecords hnext
    exact (hd.write hgeometry (hown _ (List.getElem?_eq_some_iff.mp hw).1) hw
      (hpage w (List.mem_of_getElem? hw)) hrecord).1
  -- before the last write the owner word says that the Host owns the page
  · have hmapped' : fw'.MemoryMapped :=
      hmapped.imp hd.processorMemory.trans hd.processorMemory.trans
    have hmap := hmapped'.of_read16 hread
    have hall : delivered = records := by
      by_contra hne
      rw [processorRead16_owner hmap,
        ((sharedMailboxHostOwned_iff hgeometry').mp (hproper hne)).2.2.2] at hread
      cases hread
    exact ⟨hall, (hcomplete hall hmap).2⟩

theorem mailbox_publication_hostOwnedState :
    hostOwnedState.manager.state = .running ∧
      sharedMailboxHostOwned hostOwnedState.backing = true ∧
      ∃ messages records, Host.mailboxCommitRecords [0x48, 0x49] 7 0xFFFFFFFF = .ok messages ∧
        messages.map Host.Message.encode = records.map (fun record => .ok record.bytes) ∧
        (∀ delivered fw', Delivery haltEnv hostOwnedState delivered fw' → delivered <+: records →
          delivered ≠ records → sharedMailboxHostOwned fw'.backing = true) ∧
        ∃ fw', Delivery haltEnv hostOwnedState records fw' ∧
          fw'.processorRead16 0x3F008 = some sharedMailboxOwnerProcessor ∧
          fw'.Published [0x48, 0x49] 7 := by
  have hst : hostOwnedState.manager.state = .running := by decide +kernel
  have howned : sharedMailboxHostOwned hostOwnedState.backing = true := by decide +kernel
  obtain ⟨messages, records, hmessages, hencoded, h⟩ := mailbox_publication haltEnv coldMachine
    haltStart hst (by decide +kernel) howned [0x48, 0x49] (by decide) 7 (by decide) 0xFFFFFFFF
    (by decide)
  obtain ⟨fw', hdelivery⟩ := exists_delivery haltEnv hostOwnedState records
  exact ⟨hst, howned, messages, records, hmessages, hencoded,
    fun delivered fw' hd hdelivered => (h delivered fw' hd hdelivered).2.2.1,
    fw', hdelivery, (h records fw' hdelivery List.prefix_rfl).2.2.2.1 rfl (by rfl)⟩

end Rp86
