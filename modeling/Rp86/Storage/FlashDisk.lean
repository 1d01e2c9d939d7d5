import Rp86.Lib.ByteMap
import Rp86.Lib.Run

/-!
# Flash disk

`storage/flash_disk.c` with `storage/flash_layout.h`: the sector device of the `flash:` volume, the
last 12 MiB of the 16 MiB chip, behind a write-back cache of one 4 KiB erase block.

What an erase and program request does to its block is the environment's: it reports success or
not, and leaves any bytes (`ProgramOutcome`).  The state records the requests that have been issued.
-/

namespace Rp86

open Lib

/-- `RP86_FLASH_VOLUME_OFFSET`, which is `RP86_FIRMWARE_RESERVED_BYTES`. -/
def flashVolumeOffset : UInt32 := 4 * 1024 * 1024
def flashVolumeBytes : UInt32 := 12 * 1024 * 1024
def flashSectorBytes : UInt32 := 512
def flashEraseBytes : UInt32 := 4096
def flashVolumeSectors : UInt32 := flashVolumeBytes / flashSectorBytes
def flashEraseSectors : UInt32 := flashEraseBytes / flashSectorBytes
def flashDrive : UInt8 := 0

inductive DResult where
  | ok
  | error
  | writeProtected
  | notReady
  | parameterError
  deriving DecidableEq, Repr

def staNoInit : UInt8 := 1

/-- One call of `program_erase_block` through `flash_safe_execute`: whether it reports `PICO_OK`,
and the bytes of the block afterwards. -/
structure ProgramOutcome where
  ok : Bool
  content : ByteMap

/-- The outcome of each request, in the order in which they are issued. -/
abbrev FlashEnv := ℕ → ProgramOutcome

/-- The chip and the static variables of the driver. -/
structure FlashDisk where
  chip : ByteMap
  cache : ByteMap
  cacheBlock : UInt32
  cacheValid : Bool
  cacheDirty : Bool
  diskInitialized : Bool
  diskHealthy : Bool
  -- the chip offsets of the erase and program requests so far
  issued : List UInt32

def flashDiskReset (chip : ByteMap) : FlashDisk where
  chip := chip
  cache := fun _ => 0
  cacheBlock := 0
  cacheValid := false
  cacheDirty := false
  diskInitialized := false
  diskHealthy := true
  issued := []

/-- `flash_xip`, as an offset in the chip. -/
def flashXip (relativeOffset : UInt32) : ℕ := (flashVolumeOffset + relativeOffset).toNat

def lbaRangeValid (sector count : UInt32) : Bool :=
  count ≠ 0 && sector < flashVolumeSectors && count ≤ flashVolumeSectors - sector

def FlashDisk.cacheBytes (d : FlashDisk) : List UInt8 := readBytes d.cache 0 4096

/-- `program_erase_block` through `flash_safe_execute`. -/
def programEraseBlock (env : FlashEnv) (flashOffset : UInt32) (d : FlashDisk) : Bool × FlashDisk :=
  let outcome := env d.issued.length
  (outcome.ok, { d with
    chip := writeBytes d.chip flashOffset.toNat (readBytes outcome.content 0 4096)
    issued := d.issued ++ [flashOffset] })

def flashDiskFlush (env : FlashEnv) (d : FlashDisk) : Bool × FlashDisk :=
  if !d.cacheDirty then (true, d)
  else
    let relativeOffset := d.cacheBlock * flashEraseBytes
    if readBytes d.chip (flashXip relativeOffset) 4096 = d.cacheBytes then
      (true, { d with cacheDirty := false })
    else
      let (ok, d) := programEraseBlock env (flashVolumeOffset + relativeOffset) d
      if !ok ∨ readBytes d.chip (flashXip relativeOffset) 4096 ≠ d.cacheBytes then
        (false, { d with diskHealthy := false })
      else (true, { d with cacheDirty := false })

def selectCacheBlock (env : FlashEnv) (block : UInt32) (d : FlashDisk) : Bool × FlashDisk :=
  if d.cacheValid ∧ d.cacheBlock = block then (true, d)
  else match flashDiskFlush env d with
    | (false, d) => (false, d)
    | (true, d) => (true, { d with
        cache := writeBytes d.cache 0
          (readBytes d.chip (flashXip (block * flashEraseBytes)) 4096)
        cacheBlock := block
        cacheValid := true })

def diskInitialize (pdrv : UInt8) (d : FlashDisk) : UInt8 × FlashDisk :=
  if pdrv ≠ flashDrive then (staNoInit, d) else (0, { d with diskInitialized := true })

def diskStatus (pdrv : UInt8) (d : FlashDisk) : UInt8 :=
  if pdrv ≠ flashDrive ∨ !d.diskInitialized then staNoInit
  else if d.diskHealthy then 0 else staNoInit

/-- The body of the loop of `disk_read`: one sector. -/
def diskReadSector (d : FlashDisk) (sector : UInt32) : List UInt8 :=
  let byteOffset := sector * flashSectorBytes
  let block := byteOffset / flashEraseBytes
  let within := byteOffset % flashEraseBytes
  if d.cacheValid ∧ d.cacheBlock = block then
    readBytes d.cache within.toNat 512
  else readBytes d.chip (flashXip byteOffset) 512

/-- `disk_read`: the result, and the bytes put in the buffer. -/
def diskRead (pdrv : UInt8) (buffer : Bool) (sector count : UInt32) (d : FlashDisk) :
    DResult × List UInt8 :=
  if pdrv ≠ flashDrive ∨ !buffer ∨ !d.diskInitialized ∨ !lbaRangeValid sector count then
    (.parameterError, [])
  else (.ok, (List.range count.toNat).flatMap fun i => diskReadSector d (sector + UInt32.ofNat i))

/-- The loop of `disk_write`, with the number of sectors left and the index of the next. -/
def diskWriteLoop (env : FlashEnv) (buffer : ByteMap) (sector : UInt32) :
    ℕ → UInt32 → FlashDisk → DResult × FlashDisk
  | 0, _, d => (.ok, d)
  | left + 1, i, d =>
    let byteOffset := (sector + i) * flashSectorBytes
    let block := byteOffset / flashEraseBytes
    let within := byteOffset % flashEraseBytes
    match selectCacheBlock env block d with
    | (false, d) => (.error, d)
    | (true, d) => diskWriteLoop env buffer sector left (i + 1) { d with
        cache := writeBytes d.cache within.toNat
          (readBytes buffer (i * flashSectorBytes).toNat 512)
        cacheDirty := true }

def diskWrite (env : FlashEnv) (pdrv : UInt8) (buffer : Option ByteMap) (sector count : UInt32)
    (d : FlashDisk) : DResult × FlashDisk :=
  match buffer with
  | none => (.parameterError, d)
  | some buffer =>
    if pdrv ≠ flashDrive ∨ !d.diskInitialized ∨ !lbaRangeValid sector count then
      (.parameterError, d)
    else diskWriteLoop env buffer sector count.toNat 0 d

/-- The commands of `disk_ioctl`. -/
inductive DiskCommand where
  | ctrlSync
  | getSectorCount
  | getSectorSize
  | getBlockSize
  | ctrlTrim
  | other
  deriving DecidableEq, Repr

/-- A `GET` command of `disk_ioctl`: the result, and the value put in the buffer. -/
def diskIoctlGet (buffer : Bool) (value : UInt32) : DResult × Option UInt32 :=
  if !buffer then (.parameterError, none) else (.ok, some value)

/-- `disk_ioctl`: the result and the value put in the buffer, and the disk. -/
def diskIoctl (env : FlashEnv) (pdrv : UInt8) (command : DiskCommand) (buffer : Bool)
    (d : FlashDisk) : (DResult × Option UInt32) × FlashDisk :=
  if pdrv ≠ flashDrive ∨ !d.diskInitialized then ((.notReady, none), d)
  else match command with
    | .ctrlSync => ((if (flashDiskFlush env d).1 then .ok else .error, none),
        (flashDiskFlush env d).2)
    | .getSectorCount => (diskIoctlGet buffer flashVolumeSectors, d)
    | .getSectorSize => (diskIoctlGet buffer flashSectorBytes, d)
    | .getBlockSize => (diskIoctlGet buffer flashEraseSectors, d)
    | .ctrlTrim => ((.ok, none), d)
    | .other => ((.parameterError, none), d)

/-! ### Calls -/

inductive DiskOp where
  | init (pdrv : UInt8)
  | status (pdrv : UInt8)
  | read (pdrv : UInt8) (buffer : Bool) (sector count : UInt32)
  | write (pdrv : UInt8) (buffer : Option ByteMap) (sector count : UInt32)
  | ioctl (pdrv : UInt8) (command : DiskCommand) (buffer : Bool)
  | flush

inductive DiskReply where
  | status (value : UInt8)
  | read (result : DResult) (data : List UInt8)
  | write (result : DResult)
  | ioctl (result : DResult) (value : Option UInt32)
  | flush (flushed : Bool)
  deriving DecidableEq, Repr

def diskCall (env : FlashEnv) (d : FlashDisk) : DiskOp → DiskReply × FlashDisk
  | .init pdrv => (.status (diskInitialize pdrv d).1, (diskInitialize pdrv d).2)
  | .status pdrv => (.status (diskStatus pdrv d), d)
  | .read pdrv buffer sector count =>
    (.read (diskRead pdrv buffer sector count d).1 (diskRead pdrv buffer sector count d).2, d)
  | .write pdrv buffer sector count =>
    (.write (diskWrite env pdrv buffer sector count d).1,
      (diskWrite env pdrv buffer sector count d).2)
  | .ioctl pdrv command buffer =>
    (.ioctl (diskIoctl env pdrv command buffer d).1.1 (diskIoctl env pdrv command buffer d).1.2,
      (diskIoctl env pdrv command buffer d).2)
  | .flush => (.flush (flashDiskFlush env d).1, (flashDiskFlush env d).2)

def diskRun (env : FlashEnv) (d : FlashDisk) (ops : List DiskOp) : FlashDisk :=
  run (fun d op => (diskCall env d op).2) d ops

end Rp86
