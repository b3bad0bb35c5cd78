/-! The commands that the card knows, by their six-bit indices. -/
namespace SdBridge.Card

inductive Command where
  | goIdleState
  | allSendCid
  | sendRelativeAddress
  | selectCard
  | sendInterfaceCondition
  | sendCsd
  | sendCid
  | stopTransmission
  | sendStatus
  | setBlockLength
  | readSingleBlock
  | readMultipleBlock
  | writeBlock
  | writeMultipleBlock
  | appCommand
  deriving DecidableEq

def Command.ofIndex? (index : UInt8) : Option Command :=
  match index.toNat with
  | 0 => some .goIdleState
  | 2 => some .allSendCid
  | 3 => some .sendRelativeAddress
  | 7 => some .selectCard
  | 8 => some .sendInterfaceCondition
  | 9 => some .sendCsd
  | 10 => some .sendCid
  | 12 => some .stopTransmission
  | 13 => some .sendStatus
  | 16 => some .setBlockLength
  | 17 => some .readSingleBlock
  | 18 => some .readMultipleBlock
  | 24 => some .writeBlock
  | 25 => some .writeMultipleBlock
  | 55 => some .appCommand
  | _ => none

inductive AppCommand where
  | setBusWidth
  | sdStatus
  | sendOperatingCondition
  | sendScr
  deriving DecidableEq

/-- The application command of an index. Other indices keep their plain meaning after a prefix. -/
def AppCommand.ofIndex? (index : UInt8) : Option AppCommand :=
  match index.toNat with
  | 6 => some .setBusWidth
  | 13 => some .sdStatus
  | 41 => some .sendOperatingCondition
  | 51 => some .sendScr
  | _ => none

end SdBridge.Card
