/-!
Cyclic redundancy checks of the SD bus: CRC16 closes data blocks, CRC7 closes command frames and
the identification registers. Both start from zero and take the most significant bit first.
-/
namespace SdBridge.Crc

/-- The generator of CRC16 below its leading term: x^16 + x^12 + x^5 + 1. -/
def polynomial16 : UInt16 := 0x1021

def initial16 : UInt16 := 0

/-- Multiply a remainder by x and reduce it. -/
def shift16 (polynomial remainder : UInt16) : UInt16 :=
  if remainder &&& 0x8000 != 0 then (remainder <<< 1) ^^^ polynomial else remainder <<< 1

def feed16 (polynomial remainder : UInt16) (byte : UInt8) : UInt16 :=
  Nat.repeat (shift16 polynomial) 8 (remainder ^^^ (byte.toUInt16 <<< 8))

def update16 (polynomial remainder : UInt16) (bytes : List UInt8) : UInt16 :=
  bytes.foldl (feed16 polynomial) remainder

def crc16 (bytes : List UInt8) : UInt16 := update16 polynomial16 initial16 bytes

def bytes16 (remainder : UInt16) : List UInt8 := [(remainder >>> 8).toUInt8, remainder.toUInt8]

/-- The generator of CRC7 below its leading term: x^7 + x^3 + 1. -/
def polynomial7 : UInt8 := 0x09

def shift7 (remainder : UInt8) (bit : UInt8) : UInt8 :=
  let carried := (remainder <<< 1) &&& 0x7f
  if (bit ^^^ (remainder >>> 6)) &&& 1 != 0 then carried ^^^ polynomial7 else carried

def feed7 (remainder byte : UInt8) : UInt8 :=
  ([7, 6, 5, 4, 3, 2, 1, 0] : List UInt8).foldl
    (fun r position => shift7 r (byte >>> position)) remainder

def crc7 (bytes : List UInt8) : UInt8 := bytes.foldl feed7 0

/-- The byte that carries a CRC7 on the wire: the remainder, then the end bit. -/
def sealing7 (bytes : List UInt8) : UInt8 := (crc7 bytes <<< 1) ||| 1

@[simp] theorem update16_nil (p r : UInt16) : update16 p r [] = r := rfl

/-- A block may be taken in pieces. -/
theorem update16_append (p r : UInt16) (a b : List UInt8) :
    update16 p r (a ++ b) = update16 p (update16 p r a) b := by
  simp [update16]

end SdBridge.Crc
