import RoboticsRuntime.Contracts.Mcap.Observations
import RoboticsRuntime.Python.Zlib
import RoboticsRuntime.Theory.Streams

/-!
# The checksums of attachments and of the summary

`_mcap_crc.py`, over a stream of bytes. Each loop has some fuel, and diverges without any.
-/

namespace RoboticsRuntime.Contracts.Mcap
open Theory Python Reader

/-- `MAGIC_SIZE`. -/
def magicSize : ℕ := 8

/-- `Opcode.FOOTER`. -/
def footerOpcode : ℕ := 0x02

/-- `Opcode.ATTACHMENT`. -/
def attachmentOpcode : ℕ := 0x09

/-- A program over the bytes of a recording. -/
abbrev BytesReader (α : Type) : Type := Reader UInt8 ContractError α

/-- `_read_integer`. -/
def readInteger (size stop : ℕ) : BytesReader ℕ := do
  let position ← tell
  ensure (position + size ≤ stop) (invalid "truncated MCAP checksum fields")
  let raw ← read size
  ensure (raw.length = size) (invalid "truncated MCAP checksum fields")
  return littleEndian raw

/-- `_skip`. -/
def skip (size stop : ℕ) : BytesReader Unit := do
  let position ← tell
  ensure (position + size ≤ stop) (invalid "MCAP checksum field exceeds its record")
  seek (position + size)

/-- The loop of `_check_crc` over the blocks of a range. -/
def crcBlocks (blockSize : ℕ) (label : String) : ℕ → ℕ → UInt32 → BytesReader UInt32
  | _, 0, actual => return actual
  | 0, _ + 1, _ => diverge
  | fuel + 1, remaining + 1, actual => do
    let block ← read (min (remaining + 1) blockSize)
    ensure (block ≠ []) (invalid s!"truncated MCAP {label} checksum range")
    crcBlocks blockSize label fuel (remaining + 1 - block.length) (crc32 block actual)

/-- `_check_crc`, with blocks of some size. -/
def checkCrc (blockSize fuel start stop : ℕ) (label : String) : BytesReader Unit := do
  seek stop
  let expected ← readInteger 4 (stop + 4)
  if expected = 0 then return ()
  else do
    seek start
    let actual ← crcBlocks blockSize label fuel (stop - start) 0
    ensure (actual.toNat = expected) (invalid s!"MCAP {label} CRC mismatch")

/-- A string or the data of an attachment, after its length. -/
def skipPrefixed (lengthSize stop : ℕ) : BytesReader Unit := do
  let length ← readInteger lengthSize stop
  skip length stop

/-- `_attachment_crc`. -/
def attachmentCrc (blockSize fuel start stop : ℕ) : BytesReader Unit := do
  seek start
  skip 16 stop
  skipPrefixed 4 stop
  skipPrefixed 4 stop
  skipPrefixed 8 stop
  let crcOffset ← tell
  ensure (crcOffset + 4 ≤ stop) (invalid "truncated MCAP attachment CRC")
  checkCrc blockSize fuel start crcOffset "attachment"

/-- `_footer_crc`. -/
def footerCrc (blockSize fuel start stop : ℕ) : BytesReader Unit := do
  ensure (stop - start = 20) (invalid "invalid MCAP footer length")
  seek start
  let summaryStart ← readInteger 8 stop
  ensure (summaryStart = 0 ∨ magicSize ≤ summaryStart ∧ summaryStart ≤ start - 9)
    (invalid "invalid MCAP summary checksum range")
  checkCrc blockSize fuel (if summaryStart = 0 then start - 9 else summaryStart) (stop - 4) "summary"

/-- The check of one record, from its first byte on. -/
def recordCrc (blockSize fuel limit opcode start stop : ℕ) : BytesReader Unit :=
  if opcode = attachmentOpcode then attachmentCrc blockSize fuel start stop
  else if opcode = footerOpcode then do
    ensure (stop = limit) (invalid "MCAP footer must be the last record")
    footerCrc blockSize fuel start stop
  else return ()

/-- The loop of `verify_extra_crcs`. The blocks of a range have a fuel of their own. -/
def verifyRecords (blockSize blocks limit : ℕ) : ℕ → ℕ → BytesReader Unit
  | 0, position => if position < limit then diverge else return ()
  | fuel + 1, position =>
    if position < limit then do
      seek position
      let opcode ← readInteger 1 limit
      let length ← readInteger 8 limit
      let start ← tell
      ensure (start + length ≤ limit) (invalid "MCAP record extends past the trailing magic")
      recordCrc blockSize blocks limit opcode start (start + length)
      verifyRecords blockSize blocks limit fuel (start + length)
    else return ()

/-- `verify_extra_crcs`, with blocks of some size and some fuel for each loop. -/
def verifyExtraCrcs (blockSize fuel : ℕ) : BytesReader Unit := do
  let size ← seekEnd
  verifyRecords blockSize fuel (size - magicSize) fuel magicSize
  seek 0

/-- The size of the blocks that `_check_crc` reads. -/
def crcBlockSize : ℕ := 64 * 1024

end RoboticsRuntime.Contracts.Mcap
