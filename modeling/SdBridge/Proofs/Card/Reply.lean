import SdBridge.Card.Commands
import SdBridge.Proofs.Register.Word

/-!
Responses by what they say. One is written to the start of a buffer; behind it the buffer keeps what
an earlier response left there.
-/
namespace SdBridge

theorem toList_overlay {n : Nat} {bytes : Array UInt8} (fits : bytes.size ≤ n)
    (buffer : Vector UInt8 n) :
    (overlay bytes buffer).toList = bytes.toList ++ buffer.toList.drop bytes.size := by
  apply List.ext_getElem
  · simp only [Vector.length_toList, List.length_append, Array.length_toList, List.length_drop]
    omega
  · intro i inside _
    by_cases written : i < bytes.size
    · simp [overlay, written]
    · have behind : bytes.toList.length ≤ i := by simpa using written
      have place : bytes.size + (i - bytes.size) = i := by omega
      rw [List.getElem_append_right behind]
      simp [overlay, written, place]

namespace Card

inductive Reply where
  | silent
  | short (word : UInt32)
  | long (register : Vector UInt8 16)
  deriving DecidableEq

namespace Reply

def length : Reply → Nat
  | .silent => 0
  | .short _ => shortResponse
  | .long _ => longResponse

def bytes : Reply → Array UInt8
  | .silent => #[]
  | .short word =>
    #[(word >>> 24).toUInt8, (word >>> 16).toUInt8, (word >>> 8).toUInt8, word.toUInt8]
  | .long register => register.toArray

/-- Put a response at the start of a buffer. -/
def writeTo (reply : Reply) (buffer : Response) : Response := overlay reply.bytes buffer

/-- The response of an announced length that a buffer starts with. -/
def ofBuffer (length : Nat) (buffer : Response) : Reply :=
  if length = longResponse then .long buffer
  else if length = shortResponse then
    .short (wordOfBytes buffer[0] buffer[1] buffer[2] buffer[3])
  else .silent

theorem size_bytes (reply : Reply) : reply.bytes.size = reply.length := by
  cases reply with
  | silent | short => rfl
  | long register => exact register.size_toArray

theorem length_le (reply : Reply) : reply.length ≤ 16 := by
  cases reply <;> simp [length, shortResponse, longResponse]

theorem length_mem (reply : Reply) : reply.length ∈ [0, shortResponse, longResponse] := by
  cases reply <;> simp [length]

theorem toList_writeTo (reply : Reply) (buffer : Response) :
    (reply.writeTo buffer).toList = reply.bytes.toList ++ buffer.toList.drop reply.length := by
  rw [writeTo, toList_overlay, size_bytes]
  exact reply.size_bytes ▸ reply.length_le

/-- The bytes that a response announces are its own. -/
theorem take_writeTo (reply : Reply) (buffer : Response) :
    (reply.writeTo buffer).toList.take reply.length = reply.bytes.toList := by
  rw [toList_writeTo, List.take_left' (by simpa using reply.size_bytes)]

/-- Behind them nothing changes. -/
theorem drop_writeTo (reply : Reply) (buffer : Response) :
    (reply.writeTo buffer).toList.drop reply.length = buffer.toList.drop reply.length := by
  rw [toList_writeTo, List.drop_left' (by simpa using reply.size_bytes)]

/-- A long response fills the buffer. -/
theorem writeTo_long (register : Vector UInt8 16) (buffer : Response) :
    (long register).writeTo buffer = register := by
  apply Vector.toList_inj.1
  have none : buffer.toList.drop (long register).length = [] := by
    simp [length, longResponse]
  rw [toList_writeTo, none, List.append_nil]
  rfl

@[simp] theorem writeTo_silent (buffer : Response) : silent.writeTo buffer = buffer := by
  apply Vector.toList_inj.1
  rw [toList_writeTo]
  rfl

theorem ofBuffer_writeTo (reply : Reply) (buffer : Response) :
    ofBuffer reply.length (reply.writeTo buffer) = reply := by
  cases reply with
  | silent => rfl
  | short word =>
    have read : ofBuffer (short word).length ((short word).writeTo buffer) =
        .short (wordOfBytes (word >>> 24).toUInt8 (word >>> 16).toUInt8 (word >>> 8).toUInt8
          word.toUInt8) := by
      simp [ofBuffer, length, shortResponse, longResponse, writeTo, overlay, bytes]
    rw [read, wordOfBytes_bytes]
  | long register => exact congrArg long (writeTo_long register buffer)

end Reply
end Card
end SdBridge
