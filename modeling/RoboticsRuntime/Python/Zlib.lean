import Mathlib.Data.List.Basic

/-!
# Checksums and integers of bytes

`zlib.crc32` and `int.from_bytes`.
-/

namespace RoboticsRuntime.Python

/-- `int.from_bytes(raw, "little")`. -/
def littleEndian : List UInt8 → ℕ
  | [] => 0
  | byte :: bytes => byte.toNat + 256 * littleEndian bytes

/-- The division of the checksum by one bit, in the reflected polynomial. -/
def crcBit (crc : UInt32) : UInt32 :=
  if crc &&& 1 = 1 then (crc >>> 1) ^^^ 0xedb88320 else crc >>> 1

def crcByte (crc : UInt32) (byte : UInt8) : UInt32 :=
  (List.range 8).foldl (fun crc _ => crcBit crc) (crc ^^^ byte.toUInt32)

/-- `zlib.crc32(data, value)`. -/
def crc32 (data : List UInt8) (value : UInt32) : UInt32 :=
  data.foldl crcByte (value ^^^ 0xffffffff) ^^^ 0xffffffff

theorem crc32_nil (value : UInt32) : crc32 [] value = value := by
  rw [crc32, List.foldl_nil, UInt32.xor_assoc, UInt32.xor_self, UInt32.xor_zero]

/-- The checksum can be carried on from block to block. -/
theorem crc32_append (data data' : List UInt8) (value : UInt32) :
    crc32 (data ++ data') value = crc32 data' (crc32 data value) := by
  rw [crc32, crc32, crc32, List.foldl_append, UInt32.xor_assoc, UInt32.xor_self, UInt32.xor_zero]

example : crc32 ("123456789".toList.map fun c => c.toNat.toUInt8) 0 = 0xcbf43926 := by
  decide +kernel

end RoboticsRuntime.Python
