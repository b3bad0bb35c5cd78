import SdBridge.IoError

/-! The limits of mapping files into memory. -/
namespace SdBridge.Mapping

def pageSize : Nat := 4096

def paged (bytes : Nat) : Nat := (bytes + pageSize - 1) / pageSize * pageSize

def largestOffset : Nat := 0x7fffffffffffffff

/-- The most memory that is promised to one mapping that does not share its pages. -/
def largestPromise : Nat := 0x10000000000

/-- Why the system refuses to map a part of a file, if it does; `limit` is the most bytes that it
can map now. -/
def refusal? (limit offset size : Nat) : Option IoError :=
  if size = 0 then some .emptyMapping
  else if largestOffset < offset then some .mappingOffset
  else if limit < size then some .outOfMemory
  else if largestOffset < offset + paged size then some .valueTooLarge
  else none

end SdBridge.Mapping
