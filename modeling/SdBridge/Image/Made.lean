import SdBridge.Image.Store

/-!
An image whose sectors are made on demand. It can have any number of them, and cannot be written.
-/
namespace SdBridge.Image

structure Made where
  sectors : UInt64
  contents : UInt64 → Sector
  broken : List UInt64 := []

instance : Store Made where
  sectorCount m := m.sectors
  read lba buffer m :=
    if m.sectors ≤ lba ∨ lba ∈ m.broken then
      ⟨.error (.error (.outOfRange lba m.sectors)), buffer, m⟩
    else ⟨.ok (), m.contents lba, m⟩
  write _ _ m := (.error (.error .readOnly), m)

end SdBridge.Image
