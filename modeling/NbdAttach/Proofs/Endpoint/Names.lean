import NbdAttach.Endpoint.Identity
import NbdAttach.Proofs.Text.Hex

/-!
# The names of endpoints

The name of an endpoint says which device it belongs to: `DeviceIdentity.name_law` takes it apart
into its two fields and reads them back, so devices that differ have names that differ, however wide
their numbers are on the hosts that wrote them.

The fields can be told apart because no digit of a hexadecimal numeral is an underscore
(`underscore_notMem_hex`); everything else about a field is a property of numerals.
-/

namespace NbdAttach

open Text

/-- The digits of one field of a name, for a number that is `bytes` wide on its host. -/
structure NameField (bytes : Nat) (number : UInt64) (digits : List Char) : Prop where
  nonempty : digits ≠ []
  lowerHex : ∀ c ∈ digits, ('0' ≤ c ∧ c ≤ '9') ∨ ('a' ≤ c ∧ c ≤ 'f')
  /-- No digit is lost: the field is read back as the whole number. -/
  reads : readHex digits = some number.toNat
  /-- A number that fits in its bytes has two digits for each of them. -/
  full : 0 < bytes → number.toNat < 256 ^ bytes → digits.length = 2 * bytes
  /-- A number that does not fit is written in full, with more digits than its bytes have and
  without zeros in front. Without bytes that goes for every number, zero being its own digit. -/
  unpadded : bytes = 0 ∨ 256 ^ bytes ≤ number.toNat →
    2 * bytes < digits.length ∧ (digits.head? = some '0' → digits = ['0'])

theorem pow_digits (bytes : Nat) : 16 ^ (2 * bytes) = 256 ^ bytes := by
  rw [pow_mul]
  rfl

/-- A numeral that is padded to two digits for each byte is such a field. -/
theorem nameField_hex (bytes : Nat) (number : UInt64) :
    NameField bytes number (hex (2 * bytes) number.toNat) where
  nonempty := hex_ne_nil _ _
  lowerHex := isLowerHex_of_mem_hex _ _
  reads := readHex_hex _ _
  full := by
    intro hbytes hnumber
    rw [← pow_digits] at hnumber
    exact length_hex (Nat.mul_pos (by decide) hbytes) hnumber
  unpadded := by
    intro hwide
    have hlength : 2 * bytes < (hexDigits number.toNat).length := by
      -- without bytes one digit is too many already
      rcases hwide with rfl | hnumber
      · exact List.length_pos_of_ne_nil (hexDigits_ne_nil _)
      · rw [← pow_digits] at hnumber
        exact lt_length_hexDigits hnumber
    rw [hex_of_lt_length hlength]
    exact ⟨hlength, hexDigits_of_head?⟩

/-- No digit of a numeral is an underscore. -/
theorem underscore_notMem_hex (width n : Nat) : '_' ∉ hex width n := by
  intro hmem
  have hlower : IsLowerHex '_' := isLowerHex_of_mem_hex width n '_' hmem
  exact absurd hlower (by decide)

namespace DeviceIdentity

theorem toList_name (id : DeviceIdentity) : id.name.toList = id.nameChars := by
  rw [name, String.toList_ofList]

/-- An underscore stands between the fields and nowhere else. -/
theorem splitOn_nameChars (id : DeviceIdentity) :
    splitOn '_' id.nameChars =
      [hex (2 * id.deviceBytes) id.device.toNat, hex (2 * id.inodeBytes) id.inode.toNat] := by
  rw [nameChars, splitOn_append (underscore_notMem_hex _ _),
    splitOn_of_notMem (underscore_notMem_hex _ _)]

/-- The device and its number on the file system are what the two fields are read back as. -/
theorem eq_of_name_eq {id id' : DeviceIdentity} (hname : id.name = id'.name) :
    id.device = id'.device ∧ id.inode = id'.inode := by
  have hchars : id.nameChars = id'.nameChars := by
    rw [← toList_name, ← toList_name, hname]
  have hfields := congrArg (splitOn '_') hchars
  rw [splitOn_nameChars, splitOn_nameChars] at hfields
  obtain ⟨hdevice, hrest⟩ := List.cons.inj hfields
  obtain ⟨hinode, -⟩ := List.cons.inj hrest
  have hreadDevice := congrArg readHex hdevice
  have hreadInode := congrArg readHex hinode
  rw [readHex_hex, readHex_hex] at hreadDevice hreadInode
  exact ⟨UInt64.toNat_inj.mp (Option.some.inj hreadDevice),
    UInt64.toNat_inj.mp (Option.some.inj hreadInode)⟩

/-- **The name of an endpoint determines its device.** It consists of two fields with the only
underscore between them, one for the device and one for the number of its node, and no identity with
another device or another number has the same name, whatever the widths are. -/
theorem name_law (id : DeviceIdentity) :
    ∃ device inode, splitOn '_' id.name.toList = [device, inode] ∧
      id.name = String.ofList (device ++ '_' :: inode) ∧
      NameField id.deviceBytes id.device device ∧ NameField id.inodeBytes id.inode inode ∧
      ∀ other : DeviceIdentity, other.name = id.name →
        other.device = id.device ∧ other.inode = id.inode := by
  refine ⟨hex (2 * id.deviceBytes) id.device.toNat, hex (2 * id.inodeBytes) id.inode.toNat, ?_, rfl,
    nameField_hex _ _, nameField_hex _ _, fun other => eq_of_name_eq⟩
  rw [toList_name]
  exact splitOn_nameChars id

-- A number that is too large for its bytes is written in full.
example : ({ device := 0x803, inode := 7, inodeBytes := 4 } : DeviceIdentity).name =
    "0000000000000803_00000007" := by cbv
example : ({ device := 0x803, inode := 0x12345, deviceBytes := 4, inodeBytes := 2 } :
    DeviceIdentity).name = "00000803_12345" := by cbv

end DeviceIdentity

end NbdAttach
