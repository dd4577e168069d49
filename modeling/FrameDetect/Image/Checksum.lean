/-!
# Checksums

The cyclic checksum of a chunk, and the sums that follow compressed data.
-/

namespace FrameDetect.Image

/-- The remainder of a byte and `n` steps of the division by the checksum's polynomial. -/
def remainder (c : UInt32) : Nat → UInt32
  | 0 => c
  | n + 1 => remainder (if c &&& 1 = 1 then (c >>> 1) ^^^ 0xEDB88320 else c >>> 1) n

/-- The remainders of all bytes. -/
def remainders : Array UInt32 := Array.ofFn fun i : Fin 256 => remainder (UInt32.ofNat i) 8

/-- The checksum of a chunk. -/
def cyclicChecksum (bytes : ByteArray) : UInt32 :=
  bytes.foldl
    (fun c b => (remainders[((c ^^^ b.toUInt32) &&& 0xFF).toNat]?.getD 0) ^^^ (c >>> 8))
    0xFFFFFFFF ^^^ 0xFFFFFFFF

/-- The checksum of stored data: the sum of the bytes and the sum of these sums. -/
def sumChecksum (bytes : ByteArray) : UInt32 :=
  let (a, b) := bytes.foldl
    (fun (a, b) byte =>
      let a := (a + byte.toUInt32) % 65521
      (a, (b + a) % 65521))
    ((1, 0) : UInt32 × UInt32)
  (b <<< 16) ||| a

end FrameDetect.Image
