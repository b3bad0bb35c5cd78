import SdBridge.Crc

/-!
The contents of the card's identification and configuration registers. The identification
registers have sixteen bytes, the last of which carries the CRC7 of the others.
-/
namespace SdBridge.Card

def ocrPoweredUp : UInt32 := 0x80000000

/-- The operating conditions: the card is addressed by sectors. -/
def ocrHighCapacity : UInt32 := 0x40000000

def ocrVoltageWindow : UInt32 := 0x00ff8000

structure Identity where
  manufacturer : UInt8 := 0x1d
  oem : Vector UInt8 2 := #v[0x53, 0x50]
  product : Vector UInt8 5 := #v[0x50, 0x52, 0x4f, 0x58, 0x59]
  revision : UInt8 := 0x10
  serial : UInt32 := 1
  year : UInt16 := 2024
  month : UInt8 := 1
  deriving DecidableEq

def sealed (bytes : Vector UInt8 15) : Vector UInt8 16 := bytes.push (Crc.sealing7 bytes.toList)

def yearField (year : UInt16) : UInt16 := (min (year.toNat - 2000) 255).toUInt16

def dateField (identity : Identity) : UInt16 :=
  ((yearField identity.year <<< 4) ||| (identity.month &&& 0xf).toUInt16) &&& 0x0fff

def cid (identity : Identity) : Vector UInt8 16 :=
  let oem := identity.oem
  let product := identity.product
  let serial := identity.serial
  let date := dateField identity
  sealed #v[identity.manufacturer, oem[0], oem[1],
    product[0], product[1], product[2], product[3], product[4], identity.revision,
    (serial >>> 24).toUInt8, (serial >>> 16).toUInt8, (serial >>> 8).toUInt8, serial.toUInt8,
    (date >>> 8).toUInt8, date.toUInt8]

/-- The capacity field: one less than the number of whole 1024-sector units, as far as 22 bits
reach. -/
def capacityField (sectors : UInt64) : UInt32 := (min (sectors.toNat / 1024 - 1) 0x3fffff).toUInt32

/-- The bytes around the capacity tell timing (1 ms, 25 MHz), command classes, block lengths of 512
bytes, erase units, write speed and a temporary write protection. -/
def csd (sectors : UInt64) : Vector UInt8 16 :=
  let capacity := capacityField sectors
  sealed #v[0x40, 0x0e, 0x00, 0x32, 0x5b, 0x59, 0x00,
    (capacity >>> 16).toUInt8 &&& 0x3f, (capacity >>> 8).toUInt8, capacity.toUInt8,
    0x7f, 0x80, 0x0a, 0x40, 0x10]

def scr : Vector UInt8 8 := #v[0x02, 0x05, 0, 0, 0, 0, 0, 0]

def sdStatus (wideBus : Bool) : Vector UInt8 64 :=
  (Vector.replicate 64 0).set 0 (if wideBus then 0x80 else 0)

end SdBridge.Card
