import SdBridge.Card.Registers
import SdBridge.Proofs.Crc.Seven
import SdBridge.Proofs.Register.Word

/-!
What a card identification register tells of the identity that it was made from. Its fields have
bytes of their own, except that the date is twelve bits: eight that count years from 2000 on, and
four for the month. A year that they cannot count is brought to the nearest one that they can.
-/
namespace SdBridge.Card

namespace Identity

/-- The fields of a card identification register by its layout: the date is in the lower twelve of
the sixteen bits before the last byte. -/
def ofRegister (register : Vector UInt8 16) : Identity :=
  let byte := register.get
  let date := 2 ^ 8 * (byte 13).toNat + (byte 14).toNat
  { manufacturer := byte 0
    oem := #v[byte 1, byte 2]
    product := #v[byte 3, byte 4, byte 5, byte 6, byte 7]
    revision := byte 8
    serial := wordOfBytes (byte 9) (byte 10) (byte 11) (byte 12)
    year := (2000 + date / 2 ^ 4 % 2 ^ 8).toUInt16
    month := (date % 2 ^ 4).toUInt8 }

structure Dated (identity : Identity) : Prop where
  notBefore : 2000 ≤ identity.year
  notAfter : identity.year ≤ 2255
  month : identity.month < 16

def nearestYear (year : UInt16) : UInt16 :=
  if year < 2000 then 2000 else if 2255 < year then 2255 else year

def told (identity : Identity) : Identity :=
  { identity with year := nearestYear identity.year, month := identity.month % 16 }

variable {identity : Identity}

theorem toNat_nearestYear (year : UInt16) :
    (nearestYear year).toNat = 2000 + min (year.toNat - 2000) 255 := by
  simp only [nearestYear, UInt16.lt_iff_toNat_lt, UInt16.reduceToNat]
  split
  · simp only [UInt16.reduceToNat]
    omega
  · split
    · simp only [UInt16.reduceToNat]
      omega
    · omega

theorem told_of_dated (dated : identity.Dated) : identity.told = identity := by
  have early := UInt16.le_iff_toNat_le.1 dated.notBefore
  have late := UInt16.le_iff_toNat_le.1 dated.notAfter
  have month := UInt8.lt_iff_toNat_lt.1 dated.month
  simp only [UInt16.reduceToNat, UInt8.reduceToNat] at early late month
  have sameYear : nearestYear identity.year = identity.year := by
    apply UInt16.toNat_inj.1
    rw [toNat_nearestYear]
    omega
  have sameMonth : identity.month % 16 = identity.month := by
    apply UInt8.toNat_inj.1
    rw [UInt8.toNat_mod]
    exact Nat.mod_eq_of_lt month
  rw [told, sameYear, sameMonth]

end Identity

variable (identity : Identity)

theorem toNat_yearField (year : UInt16) : (yearField year).toNat = min (year.toNat - 2000) 255 := by
  have short : min (year.toNat - 2000) 255 < 2 ^ 16 := by omega
  exact UInt16.toNat_ofNat_of_lt short

/-- Neither field of the date reaches into the other. -/
theorem toNat_dateField : (dateField identity).toNat =
    2 ^ 4 * min (identity.year.toNat - 2000) 255 + identity.month.toNat % 2 ^ 4 := by
  have shift : (4 : UInt16).toNat % 16 = 4 := by decide
  have masks : (0x0fff : UInt16).toNat = 2 ^ 12 - 1 ∧ (0xf : UInt8).toNat = 2 ^ 4 - 1 := by decide
  have month : identity.month.toNat % 2 ^ 4 < 2 ^ 4 := Nat.mod_lt _ (by decide)
  simp only [dateField, UInt16.toNat_and, UInt16.toNat_or, UInt16.toNat_shiftLeft,
    UInt8.toNat_toUInt16, UInt8.toNat_and, toNat_yearField, shift, masks,
    Nat.and_two_pow_sub_one_eq_mod]
  rw [Nat.shiftLeft_eq, Nat.mod_eq_of_lt (a := _ * 2 ^ 4) (by omega), Nat.mul_comm _ (2 ^ 4),
    ← Nat.two_pow_add_eq_or_of_lt month]
  omega

/-- The date is in the two bytes before the last, the upper one first. -/
theorem toNat_date_cid : ((cid identity).get 13).toNat < 2 ^ 4 ∧
    2 ^ 8 * ((cid identity).get 13).toNat + ((cid identity).get 14).toNat =
      (dateField identity).toNat := by
  obtain ⟨date, same⟩ : ∃ date, date = dateField identity := ⟨_, rfl⟩
  have upper : (cid identity).get 13 = (date >>> 8).toUInt8 := by rw [same]; rfl
  have lower : (cid identity).get 14 = date.toUInt8 := by rw [same]; rfl
  have shift : (8 : UInt16).toNat % 16 = 8 := by decide
  have field := toNat_dateField identity
  rw [← same] at field ⊢
  rw [upper, lower, UInt16.toNat_toUInt8, UInt16.toNat_shiftRight, shift,
    Nat.shiftRight_eq_div_pow, UInt16.toNat_toUInt8]
  omega

/-- The register tells the identity, with a date that it has room for. -/
theorem ofRegister_cid : Identity.ofRegister (cid identity) = identity.told := by
  have oem : #v[(cid identity).get 1, (cid identity).get 2] = identity.oem := by
    ext i inside
    match i, inside with
    | 0, _ | 1, _ => rfl
  have product : #v[(cid identity).get 3, (cid identity).get 4, (cid identity).get 5,
      (cid identity).get 6, (cid identity).get 7] = identity.product := by
    ext i inside
    match i, inside with
    | 0, _ | 1, _ | 2, _ | 3, _ | 4, _ => rfl
  have serial : wordOfBytes ((cid identity).get 9) ((cid identity).get 10)
      ((cid identity).get 11) ((cid identity).get 12) = identity.serial :=
    wordOfBytes_bytes identity.serial
  have year : (2000 + (dateField identity).toNat / 2 ^ 4 % 2 ^ 8).toUInt16 =
      Identity.nearestYear identity.year := by
    apply UInt16.toNat_inj.1
    rw [Identity.toNat_nearestYear, Nat.toUInt16, UInt16.toNat_ofNat', toNat_dateField]
    omega
  have month : ((dateField identity).toNat % 2 ^ 4).toUInt8 = identity.month % 16 := by
    have sixteen : (16 : UInt8).toNat = 16 := rfl
    apply UInt8.toNat_inj.1
    rw [UInt8.toNat_mod, sixteen, Nat.toUInt8, UInt8.toNat_ofNat', toNat_dateField]
    omega
  rw [Identity.ofRegister, (toNat_date_cid identity).2, oem, product, serial, year, month]
  rfl

/-- Of the year the register has nothing but what is in the date. -/
theorem exists_cid_eq : ∃ register : UInt16 → Vector UInt8 16, ∀ year,
    cid { identity with year } = register (dateField { identity with year }) :=
  ⟨fun date => sealed #v[identity.manufacturer, identity.oem[0], identity.oem[1],
    identity.product[0], identity.product[1], identity.product[2], identity.product[3],
    identity.product[4], identity.revision, (identity.serial >>> 24).toUInt8,
    (identity.serial >>> 16).toUInt8, (identity.serial >>> 8).toUInt8, identity.serial.toUInt8,
    (date >>> 8).toUInt8, date.toUInt8], fun _ => rfl⟩

/-- The register does not tell a year from the nearest one that it has room for. -/
theorem cid_nearestYear :
    cid { identity with year := Identity.nearestYear identity.year } = cid identity := by
  obtain ⟨register, whole⟩ := exists_cid_eq identity
  have date : dateField { identity with year := Identity.nearestYear identity.year } =
      dateField identity := by
    apply UInt16.toNat_inj.1
    simp only [toNat_dateField, Identity.toNat_nearestYear]
    omega
  -- No rewriting here: it would compare the two dates by unfolding them.
  calc cid { identity with year := Identity.nearestYear identity.year }
    _ = register (dateField { identity with year := Identity.nearestYear identity.year }) := whole _
    _ = register (dateField identity) := congrArg register date
    _ = cid identity := (whole identity.year).symm

theorem toNat_sealing7 (bytes : List UInt8) :
    (Crc.sealing7 bytes).toNat = 2 * (Crc.crc7 bytes).toNat + 1 := by
  have small : (Crc.crc7 bytes).toNat < 128 := UInt8.lt_iff_toNat_lt.1 (Crc.crc7_lt bytes)
  have shift : (1 : UInt8).toNat % 8 = 1 := by decide
  rw [Crc.sealing7, UInt8.toNat_or, UInt8.toNat_shiftLeft, shift, Nat.shiftLeft_eq,
    Nat.mod_eq_of_lt (by omega), Nat.mul_comm, ← Nat.two_pow_add_eq_or_of_lt (by decide)]
  rfl

/-- The last byte of a register closes the others. -/
theorem toNat_last_sealed (bytes : Vector UInt8 15) : (sealed bytes)[15].toNat =
    2 * (Crc.crc7 ((sealed bytes).toList.take 15)).toNat + 1 := by
  have whole : (sealed bytes).toList = bytes.toList ++ [Crc.sealing7 bytes.toList] :=
    Array.toList_push
  have others : (sealed bytes).toList.take 15 = bytes.toList := by
    rw [whole]
    exact List.take_left' bytes.length_toList
  have last : (sealed bytes)[15] = Crc.sealing7 bytes.toList := by
    simp [sealed]
  rw [others, last, toNat_sealing7]

/-- The card identification register tells every field of an identity, and of a date as much as
there is room for. -/
theorem identity_told :
    (∀ identity : Identity,
      Identity.ofRegister (cid identity) =
          { identity with
            year := Identity.nearestYear identity.year
            month := identity.month % 16 } ∧
        (cid identity)[13].toNat < 2 ^ 4 ∧
        (cid identity)[15].toNat = 2 * (Crc.crc7 ((cid identity).toList.take 15)).toNat + 1 ∧
        cid { identity with year := Identity.nearestYear identity.year } = cid identity) ∧
      (∀ identity : Identity, identity.Dated → Identity.ofRegister (cid identity) = identity) ∧
      ∀ a b : Identity, a.Dated → b.Dated → cid a = cid b → a = b := by
  refine ⟨fun identity => ?_, fun identity dated => ?_, fun a b datedA datedB same => ?_⟩
  · exact ⟨ofRegister_cid identity, (toNat_date_cid identity).1, toNat_last_sealed _,
      cid_nearestYear identity⟩
  · rw [ofRegister_cid, Identity.told_of_dated dated]
  · rw [← Identity.told_of_dated datedA, ← Identity.told_of_dated datedB, ← ofRegister_cid,
      ← ofRegister_cid, same]

/-- The last month of the last year that fit, in a register of all ones, and a year too late for it.
-/
theorem identity_told_last :
    let last : Identity :=
      ⟨255, #v[255, 255], #v[255, 255, 255, 255, 255], 255, 0xffffffff, 2255, 15⟩
    last.Dated ∧ Identity.ofRegister (cid last) = last ∧
      (cid last)[13] = 0x0f ∧ (cid last)[14] = 0xff ∧
      Identity.ofRegister (cid { last with year := 2256 }) = last := by
  intro last
  have dated : last.Dated := ⟨by decide, by decide, by decide⟩
  obtain ⟨told, kept, -⟩ := identity_told
  exact ⟨dated, kept last dated, by decide, by decide, (told { last with year := 2256 }).1⟩

end SdBridge.Card
