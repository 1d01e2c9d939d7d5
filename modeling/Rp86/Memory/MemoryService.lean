import Rp86.HostProtocol.Message
import Rp86.Memory.SharedMailbox
import Rp86.Workload.Protocol

/-!
# Memory service

`memory/memory_service.c`: the Host's byte access to the backing, behind a write window, and the
policy of `runtime/host_service_dispatch.c` that sets the window from the lifecycle state and the
owner of the mailbox before every request.
-/

namespace Rp86

open Lib

def memoryReadOperation : UInt8 := 1
def memoryWriteOperation : UInt8 := 2
def memoryDataBytes : ℕ := 40
def memoryPayloadHeaderSize : ℕ := 12

/-- `rp86_memory_service_t`; the backing it points to is passed beside it. -/
structure MemoryService where
  writeBase : UInt32
  writeSize : UInt32
  deriving DecidableEq, Repr

def writeRangeAllowed (service : MemoryService) (address : UInt32) (length : ℕ) : Bool :=
  if address < service.writeBase then false
  else
    let offset := address - service.writeBase
    offset ≤ service.writeSize && length ≤ (service.writeSize - offset).toNat

def memoryServiceInit (backing : Backing) : MemoryService where
  writeBase := backing.processorBase
  writeSize := backing.size

def Message.memoryOperation (m : Message) : UInt8 := m.payload.getD 0 0
def Message.memoryAddress (m : Message) : UInt32 := m.word 4
def Message.memoryLength (m : Message) : UInt32 := m.word 8
def Message.memoryData (m : Message) : List UInt8 :=
  (m.payload.drop memoryPayloadHeaderSize).take m.memoryLength.toNat

/-- A memory result that echoes the request's header before `data`. -/
def memoryReply (request : Message) (status : HostStatus) (data : List UInt8) : Message :=
  Message.reply typeMemoryResult request status
    (UInt16.ofNat (memoryPayloadHeaderSize + data.length))
    (request.payload.take memoryPayloadHeaderSize ++ data)

def memoryServiceHandle (service : MemoryService) (backing : Backing) (request : Message) :
    Message × Backing :=
  if request.version ≠ hostProtocolVersion ∨ request.type ≠ typeMemoryRequest ∨
      request.status ≠ HostStatus.ok.code ∨ request.length.toNat < memoryPayloadHeaderSize then
    (Message.reply typeMemoryResult request .badLength 0 [], backing)
  else if !backing.available then (memoryReply request .serviceUnavailable [], backing)
  else if request.memoryLength.toNat > memoryDataBytes ∨
      !memoryBackingRangeValid backing request.memoryAddress request.memoryLength.toNat then
    (memoryReply request .badLength [], backing)
  else if request.memoryOperation = memoryReadOperation ∧
      request.length.toNat = memoryPayloadHeaderSize then
    match memoryBackingRead backing request.memoryAddress request.memoryLength.toNat with
    | none => (memoryReply request .ioError [], backing)
    | some data => (memoryReply request .ok data, backing)
  else if request.memoryOperation = memoryWriteOperation ∧
      request.length.toNat = memoryPayloadHeaderSize + request.memoryLength.toNat then
    if !writeRangeAllowed service request.memoryAddress request.memoryLength.toNat then
      (memoryReply request .badState [], backing)
    else match memoryBackingWrite backing request.memoryAddress request.memoryData with
      | none => (memoryReply request .ioError [], backing)
      | some backing => (memoryReply request .ok [], memoryBackingPublish backing)
  else (memoryReply request .badLength [], backing)

/-- The write window that `rp86_host_service_dispatch_memory` sets. -/
def dispatchWindow (state : WorkloadState) (backing : Backing) : MemoryService :=
  if state = .running ∧ sharedMailboxHostOwned backing then
    { writeBase := sharedMailboxBase, writeSize := sharedMailboxSize }
  else if state = .running then { writeBase := sharedMailboxBase, writeSize := 0 }
  else { writeBase := backing.processorBase, writeSize := backing.size }

/-- `rp86_host_service_dispatch_memory`: the reply it sends, and the backing after it. -/
def hostServiceDispatchMemory (state : WorkloadState) (backing : Backing) (request : Message) :
    Message × MemoryService × Backing :=
  let service := dispatchWindow state backing
  let (reply, backing) := memoryServiceHandle service backing request
  (reply, service, backing)

end Rp86
