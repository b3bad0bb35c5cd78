/-!
Big-endian words: how bytes lie in 32-bit registers and in the multi-byte fields of card registers.
-/
namespace SdBridge

/-- A word from its four bytes, the first in the top bits. -/
def wordOfBytes (a b c d : UInt8) : UInt32 :=
  (a.toUInt32 <<< 24) ||| (b.toUInt32 <<< 16) ||| (c.toUInt32 <<< 8) ||| d.toUInt32

def bytesOfWord (w : UInt32) : List UInt8 :=
  [(w >>> 24).toUInt8, (w >>> 16).toUInt8, (w >>> 8).toUInt8, w.toUInt8]

/-- The word whose leading bytes are given; missing bytes are zero. -/
def packedWord (bytes : List UInt8) : UInt32 :=
  wordOfBytes (bytes.getD 0 0) (bytes.getD 1 0) (bytes.getD 2 0) (bytes.getD 3 0)

end SdBridge
