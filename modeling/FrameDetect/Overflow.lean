/-!
# Overflows

Counts and sizes are words of 64 bits.  A sum or a product that no word can hold breaks the program off, and so
does memory for more bytes than one block may have.
-/

namespace FrameDetect

/-- What breaks the program off. -/
inductive Overflow where
  | sum
  | product
  /-- One block of memory for too many bytes. -/
  | capacity
  /-- A picture whose bytes no word can count. -/
  | picture
deriving Repr, DecidableEq

def Overflow.message : Overflow → String
  | .sum => "attempt to add with overflow"
  | .product => "attempt to multiply with overflow"
  | .capacity => "capacity overflow"
  | .picture => "Buffer length in `ImageBuffer::new` overflows usize"

/-- The sum of two words, if a word can hold it. -/
def addChecked (a b : UInt64) : Except Overflow UInt64 :=
  if a.toNat + b.toNat < UInt64.size then .ok (a + b) else .error .sum

/-- The product of two words, if a word can hold it. -/
def mulChecked (a b : UInt64) : Except Overflow UInt64 :=
  if a.toNat * b.toNat < UInt64.size then .ok (a * b) else .error .product

/-- The most bytes that one block of memory may have.  Where there is less memory than that, the program ends
outside of what is described here. -/
def greatestBlock : Nat := UInt64.size / 2 - 1

/-- A block of zeros. -/
def zeros (length : UInt64) : Except Overflow ByteArray :=
  if length.toNat ≤ greatestBlock then .ok ⟨Array.replicate length.toNat 0⟩ else .error .capacity

end FrameDetect
