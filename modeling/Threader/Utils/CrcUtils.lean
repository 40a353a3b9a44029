import Threader.Base.Digest
import Mathlib.Data.List.Nodup

/-! The table-driven checksums of `CrcUtils`, and what the one of 16 bits is able to tell apart. -/

namespace Threader

set_option maxRecDepth 4000 in
/-- `crc8_table`. -/
def crc8Table : Vector UInt8 256 :=
  #v[
    0x00, 0x5E, 0xBC, 0xE2, 0x61, 0x3F, 0xDD, 0x83,
    0xC2, 0x9C, 0x7E, 0x20, 0xA3, 0xFD, 0x1F, 0x41,
    0x9D, 0xC3, 0x21, 0x7F, 0xFC, 0xA2, 0x40, 0x1E,
    0x5F, 0x01, 0xE3, 0xBD, 0x3E, 0x60, 0x82, 0xDC,
    0x23, 0x7D, 0x9F, 0xC1, 0x42, 0x1C, 0xFE, 0xA0,
    0xE1, 0xBF, 0x5D, 0x03, 0x80, 0xDE, 0x3C, 0x62,
    0xBE, 0xE0, 0x02, 0x5C, 0xDF, 0x81, 0x63, 0x3D,
    0x7C, 0x22, 0xC0, 0x9E, 0x1D, 0x43, 0xA1, 0xFF,
    0x46, 0x18, 0xFA, 0xA4, 0x27, 0x79, 0x9B, 0xC5,
    0x84, 0xDA, 0x38, 0x66, 0xE5, 0xBB, 0x59, 0x07,
    0xDB, 0x85, 0x67, 0x39, 0xBA, 0xE4, 0x06, 0x58,
    0x19, 0x47, 0xA5, 0xFB, 0x78, 0x26, 0xC4, 0x9A,
    0x65, 0x3B, 0xD9, 0x87, 0x04, 0x5A, 0xB8, 0xE6,
    0xA7, 0xF9, 0x1B, 0x45, 0xC6, 0x98, 0x7A, 0x24,
    0xF8, 0xA6, 0x44, 0x1A, 0x99, 0xC7, 0x25, 0x7B,
    0x3A, 0x64, 0x86, 0xD8, 0x5B, 0x05, 0xE7, 0xB9,
    0x8C, 0xD2, 0x30, 0x6E, 0xED, 0xB3, 0x51, 0x0F,
    0x4E, 0x10, 0xF2, 0xAC, 0x2F, 0x71, 0x93, 0xCD,
    0x11, 0x4F, 0xAD, 0xF3, 0x70, 0x2E, 0xCC, 0x92,
    0xD3, 0x8D, 0x6F, 0x31, 0xB2, 0xEC, 0x0E, 0x50,
    0xAF, 0xF1, 0x13, 0x4D, 0xCE, 0x90, 0x72, 0x2C,
    0x6D, 0x33, 0xD1, 0x8F, 0x0C, 0x52, 0xB0, 0xEE,
    0x32, 0x6C, 0x8E, 0xD0, 0x53, 0x0D, 0xEF, 0xB1,
    0xF0, 0xAE, 0x4C, 0x12, 0x91, 0xCF, 0x2D, 0x73,
    0xCA, 0x94, 0x76, 0x28, 0xAB, 0xF5, 0x17, 0x49,
    0x08, 0x56, 0xB4, 0xEA, 0x69, 0x37, 0xD5, 0x8B,
    0x57, 0x09, 0xEB, 0xB5, 0x36, 0x68, 0x8A, 0xD4,
    0x95, 0xCB, 0x29, 0x77, 0xF4, 0xAA, 0x48, 0x16,
    0xE9, 0xB7, 0x55, 0x0B, 0x88, 0xD6, 0x34, 0x6A,
    0x2B, 0x75, 0x97, 0xC9, 0x4A, 0x14, 0xF6, 0xA8,
    0x74, 0x2A, 0xC8, 0x96, 0x15, 0x4B, 0xA9, 0xF7,
    0xB6, 0xE8, 0x0A, 0x54, 0xD7, 0x89, 0x6B, 0x35
  ]

set_option maxRecDepth 4000 in
/-- One entry for every value of the byte that leaves the register. -/
def crc16Table : Vector UInt16 256 :=
  #v[
    0x0000, 0x1021, 0x2042, 0x3063, 0x4084, 0x50A5, 0x60C6, 0x70E7,
    0x8108, 0x9129, 0xA14A, 0xB16B, 0xC18C, 0xD1AD, 0xE1CE, 0xF1EF,
    0x1231, 0x0210, 0x3273, 0x2252, 0x52B5, 0x4294, 0x72F7, 0x62D6,
    0x9339, 0x8318, 0xB37B, 0xA35A, 0xD3BD, 0xC39C, 0xF3FF, 0xE3DE,
    0x2462, 0x3443, 0x0420, 0x1401, 0x64E6, 0x74C7, 0x44A4, 0x5485,
    0xA56A, 0xB54B, 0x8528, 0x9509, 0xE5EE, 0xF5CF, 0xC5AC, 0xD58D,
    0x3653, 0x2672, 0x1611, 0x0630, 0x76D7, 0x66F6, 0x5695, 0x46B4,
    0xB75B, 0xA77A, 0x9719, 0x8738, 0xF7DF, 0xE7FE, 0xD79D, 0xC7BC,
    0x48C4, 0x58E5, 0x6886, 0x78A7, 0x0840, 0x1861, 0x2802, 0x3823,
    0xC9CC, 0xD9ED, 0xE98E, 0xF9AF, 0x8948, 0x9969, 0xA90A, 0xB92B,
    0x5AF5, 0x4AD4, 0x7AB7, 0x6A96, 0x1A71, 0x0A50, 0x3A33, 0x2A12,
    0xDBFD, 0xCBDC, 0xFBBF, 0xEB9E, 0x9B79, 0x8B58, 0xBB3B, 0xAB1A,
    0x6CA6, 0x7C87, 0x4CE4, 0x5CC5, 0x2C22, 0x3C03, 0x0C60, 0x1C41,
    0xEDAE, 0xFD8F, 0xCDEC, 0xDDCD, 0xAD2A, 0xBD0B, 0x8D68, 0x9D49,
    0x7E97, 0x6EB6, 0x5ED5, 0x4EF4, 0x3E13, 0x2E32, 0x1E51, 0x0E70,
    0xFF9F, 0xEFBE, 0xDFDD, 0xCFFC, 0xBF1B, 0xAF3A, 0x9F59, 0x8F78,
    0x9188, 0x81A9, 0xB1CA, 0xA1EB, 0xD10C, 0xC12D, 0xF14E, 0xE16F,
    0x1080, 0x00A1, 0x30C2, 0x20E3, 0x5004, 0x4025, 0x7046, 0x6067,
    0x83B9, 0x9398, 0xA3FB, 0xB3DA, 0xC33D, 0xD31C, 0xE37F, 0xF35E,
    0x02B1, 0x1290, 0x22F3, 0x32D2, 0x4235, 0x5214, 0x6277, 0x7256,
    0xB5EA, 0xA5CB, 0x95A8, 0x8589, 0xF56E, 0xE54F, 0xD52C, 0xC50D,
    0x34E2, 0x24C3, 0x14A0, 0x0481, 0x7466, 0x6447, 0x5424, 0x4405,
    0xA7DB, 0xB7FA, 0x8799, 0x97B8, 0xE75F, 0xF77E, 0xC71D, 0xD73C,
    0x26D3, 0x36F2, 0x0691, 0x16B0, 0x6657, 0x7676, 0x4615, 0x5634,
    0xD94C, 0xC96D, 0xF90E, 0xE92F, 0x99C8, 0x89E9, 0xB98A, 0xA9AB,
    0x5844, 0x4865, 0x7806, 0x6827, 0x18C0, 0x08E1, 0x3882, 0x28A3,
    0xCB7D, 0xDB5C, 0xEB3F, 0xFB1E, 0x8BF9, 0x9BD8, 0xABBB, 0xBB9A,
    0x4A75, 0x5A54, 0x6A37, 0x7A16, 0x0AF1, 0x1AD0, 0x2AB3, 0x3A92,
    0xFD2E, 0xED0F, 0xDD6C, 0xCD4D, 0xBDAA, 0xAD8B, 0x9DE8, 0x8DC9,
    0x7C26, 0x6C07, 0x5C64, 0x4C45, 0x3CA2, 0x2C83, 0x1CE0, 0x0CC1,
    0xEF1F, 0xFF3E, 0xCF5D, 0xDF7C, 0xAF9B, 0xBFBA, 0x8FD9, 0x9FF8,
    0x6E17, 0x7E36, 0x4E55, 0x5E74, 0x2E93, 0x3EB2, 0x0ED1, 0x1EF0]

set_option maxRecDepth 4000 in
/-- `crc32_table`. -/
def crc32Table : Vector UInt32 256 :=
  #v[
    0x00000000, 0x77073096, 0xEE0E612C, 0x990951BA, 0x076DC419, 0x706AF48F, 0xE963A535, 0x9E6495A3,
    0x0EDB8832, 0x79DCB8A4, 0xE0D5E91E, 0x97D2D988, 0x09B64C2B, 0x7EB17CBD, 0xE7B82D07, 0x90BF1D91,
    0x1DB71064, 0x6AB020F2, 0xF3B97148, 0x84BE41DE, 0x1ADAD47D, 0x6DDDE4EB, 0xF4D4B551, 0x83D385C7,
    0x136C9856, 0x646BA8C0, 0xFD62F97A, 0x8A65C9EC, 0x14015C4F, 0x63066CD9, 0xFA0F3D63, 0x8D080DF5,
    0x3B6E20C8, 0x4C69105E, 0xD56041E4, 0xA2677172, 0x3C03E4D1, 0x4B04D447, 0xD20D85FD, 0xA50AB56B,
    0x35B5A8FA, 0x42B2986C, 0xDBBBC9D6, 0xACBCF940, 0x32D86CE3, 0x45DF5C75, 0xDCD60DCF, 0xABD13D59,
    0x26D930AC, 0x51DE003A, 0xC8D75180, 0xBFD06116, 0x21B4F4B5, 0x56B3C423, 0xCFBA9599, 0xB8BDA50F,
    0x2802B89E, 0x5F058808, 0xC60CD9B2, 0xB10BE924, 0x2F6F7C87, 0x58684C11, 0xC1611DAB, 0xB6662D3D,
    0x76DC4190, 0x01DB7106, 0x98D220BC, 0xEFD5102A, 0x71B18589, 0x06B6B51F, 0x9FBFE4A5, 0xE8B8D433,
    0x7807C9A2, 0x0F00F934, 0x9609A88E, 0xE10E9818, 0x7F6A0DBB, 0x086D3D2D, 0x91646C97, 0xE6635C01,
    0x6B6B51F4, 0x1C6C6162, 0x856530D8, 0xF262004E, 0x6C0695ED, 0x1B01A57B, 0x8208F4C1, 0xF50FC457,
    0x65B0D9C6, 0x12B7E950, 0x8BBEB8EA, 0xFCB9887C, 0x62DD1DDF, 0x15DA2D49, 0x8CD37CF3, 0xFBD44C65,
    0x4DB26158, 0x3AB551CE, 0xA3BC0074, 0xD4BB30E2, 0x4ADFA541, 0x3DD895D7, 0xA4D1C46D, 0xD3D6F4FB,
    0x4369E96A, 0x346ED9FC, 0xAD678846, 0xDA60B8D0, 0x44042D73, 0x33031DE5, 0xAA0A4C5F, 0xDD0D7CC9,
    0x5005713C, 0x270241AA, 0xBE0B1010, 0xC90C2086, 0x5768B525, 0x206F85B3, 0xB966D409, 0xCE61E49F,
    0x5EDEF90E, 0x29D9C998, 0xB0D09822, 0xC7D7A8B4, 0x59B33D17, 0x2EB40D81, 0xB7BD5C3B, 0xC0BA6CAD,
    0xEDB88320, 0x9ABFB3B6, 0x03B6E20C, 0x74B1D29A, 0xEAD54739, 0x9DD277AF, 0x04DB2615, 0x73DC1683,
    0xE3630B12, 0x94643B84, 0x0D6D6A3E, 0x7A6A5AA8, 0xE40ECF0B, 0x9309FF9D, 0x0A00AE27, 0x7D079EB1,
    0xF00F9344, 0x8708A3D2, 0x1E01F268, 0x6906C2FE, 0xF762575D, 0x806567CB, 0x196C3671, 0x6E6B06E7,
    0xFED41B76, 0x89D32BE0, 0x10DA7A5A, 0x67DD4ACC, 0xF9B9DF6F, 0x8EBEEFF9, 0x17B7BE43, 0x60B08ED5,
    0xD6D6A3E8, 0xA1D1937E, 0x38D8C2C4, 0x4FDFF252, 0xD1BB67F1, 0xA6BC5767, 0x3FB506DD, 0x48B2364B,
    0xD80D2BDA, 0xAF0A1B4C, 0x36034AF6, 0x41047A60, 0xDF60EFC3, 0xA867DF55, 0x316E8EEF, 0x4669BE79,
    0xCB61B38C, 0xBC66831A, 0x256FD2A0, 0x5268E236, 0xCC0C7795, 0xBB0B4703, 0x220216B9, 0x5505262F,
    0xC5BA3BBE, 0xB2BD0B28, 0x2BB45A92, 0x5CB36A04, 0xC2D7FFA7, 0xB5D0CF31, 0x2CD99E8B, 0x5BDEAE1D,
    0x9B64C2B0, 0xEC63F226, 0x756AA39C, 0x026D930A, 0x9C0906A9, 0xEB0E363F, 0x72076785, 0x05005713,
    0x95BF4A82, 0xE2B87A14, 0x7BB12BAE, 0x0CB61B38, 0x92D28E9B, 0xE5D5BE0D, 0x7CDCEFB7, 0x0BDBDF21,
    0x86D3D2D4, 0xF1D4E242, 0x68DDB3F8, 0x1FDA836E, 0x81BE16CD, 0xF6B9265B, 0x6FB077E1, 0x18B74777,
    0x88085AE6, 0xFF0F6A70, 0x66063BCA, 0x11010B5C, 0x8F659EFF, 0xF862AE69, 0x616BFFD3, 0x166CCF45,
    0xA00AE278, 0xD70DD2EE, 0x4E048354, 0x3903B3C2, 0xA7672661, 0xD06016F7, 0x4969474D, 0x3E6E77DB,
    0xAED16A4A, 0xD9D65ADC, 0x40DF0B66, 0x37D83BF0, 0xA9BCAE53, 0xDEBB9EC5, 0x47B2CF7F, 0x30B5FFE9,
    0xBDBDF21C, 0xCABAC28A, 0x53B39330, 0x24B4A3A6, 0xBAD03605, 0xCDD70693, 0x54DE5729, 0x23D967BF,
    0xB3667A2E, 0xC4614AB8, 0x5D681B02, 0x2A6F2B94, 0xB40BBE37, 0xC30C8EA1, 0x5A05DF1B, 0x2D02EF8D
  ]

namespace CrcUtils

/-- One turn of the checksum loop: the register moves up a byte and absorbs the next one. -/
def crc16Step (crc : UInt16) (byte : UInt8) : UInt16 :=
  (crc <<< 8) ^^^ crc16Table.get ((crc >>> 8).toUInt8 ^^^ byte).toFin

/-- `Crc16(uint8_t *data, uint16_t length)`: the checksum of the first `length` bytes. -/
def crc16 (data : List UInt8) (length : UInt16) : UInt16 :=
  -- The length parameter is 16 bits wide, so callers passing a longer one have it narrowed first.
  (data.take length.toNat).foldl crc16Step 0xFFFF

/-- `Crc16(uint16_t start, const unsigned char *data, const int count)`, which goes on from a start. -/
def crc16From (start : UInt16) (data : List UInt8) (count : Int) : UInt16 :=
  if count > 0 then (data.take count.toNat).foldl crc16Step start else start

/-- One turn of the loop of `Crc8`. -/
def crc8Step (crc : UInt8) (byte : UInt8) : UInt8 := crc8Table.get (crc ^^^ byte).toFin

/-- `Crc8(const unsigned char *pcBlock, unsigned char len)`: the checksum of the first `len` bytes. -/
def crc8 (pcBlock : List UInt8) (len : UInt8) : UInt8 := (pcBlock.take len.toNat).foldl crc8Step 0

/-- One turn of the loop of `Crc32`: the register moves down a byte. -/
def crc32Step (crc : UInt32) (byte : UInt8) : UInt32 :=
  (crc >>> 8) ^^^ crc32Table.get ((crc ^^^ byte.toUInt32) &&& 0xFF).toUInt8.toFin

/-- `Crc32(uint8_t *data, uint32_t length)`: the checksum of the first `length` bytes. -/
def crc32 (data : List UInt8) (length : UInt32) : UInt32 :=
  (data.take length.toNat).foldl crc32Step 0xFFFFFFFF ^^^ 0xFFFFFFFF

/-- The table index an entry stands at, computed from the low byte of the entry. -/
def crc16Index (low : UInt8) : UInt8 :=
  -- The polynomial is sparse enough for two shifts to undo it.
  let folded := low ^^^ (low <<< 5)
  folded ^^^ (folded >>> 4)

/-- What the entries of a table are, listed one behind the other, each of them is at its index. -/
theorem get_of_toList {α β : Type} {size : Nat} {table : Vector α size} {view : α → β}
    {expected : Nat → β} (entries : table.toList.map view = (List.range size).map expected)
    (index : Fin size) : view (table.get index) = expected index := by
  have entry := congrArg (fun list => list[index.val]?) entries
  have found : table.get index = table[index.val] := rfl
  simpa [found] using entry

set_option maxRecDepth 4000 in
/-- No two entries of the table share their low byte. -/
theorem crc16Index_table :
    ∀ index : Fin 256, crc16Index (crc16Table.get index).toUInt8 = UInt8.ofFin index := by
  have entries : crc16Table.toList.map (fun entry => crc16Index entry.toUInt8) =
      (List.range 256).map UInt8.ofNat := by decide
  intro index
  rw [get_of_toList entries index]
  exact UInt8.ofNat_toNat (x := UInt8.ofFin index)

/-- The low byte of the register after one turn is the low byte of the entry that was used. -/
theorem crc16Step_low (crc : UInt16) (byte : UInt8) :
    crc16Index (crc16Step crc byte).toUInt8 = (crc >>> 8).toUInt8 ^^^ byte := by
  -- Moving the register up a byte clears its low byte, so only the entry contributes to it.
  have cleared : (crc <<< 8).toUInt8 = 0 := by
    apply UInt8.toNat_inj.mp
    simp only [UInt16.toNat_toUInt8, UInt16.toNat_shiftLeft, UInt8.toNat_zero, Nat.shiftLeft_eq]
    simp only [UInt16.toNat_ofNat, Nat.reducePow, Nat.reduceMod]
    omega
  rw [crc16Step, UInt16.toUInt8_xor, cleared, UInt8.zero_xor, crc16Index_table, UInt8.ofFin_toFin]

/-- A register is determined by its high byte and by what moving up leaves of it. -/
theorem register_ext {left right : UInt16} (high : (left >>> 8).toUInt8 = (right >>> 8).toUInt8)
    (low : left <<< 8 = right <<< 8) : left = right := by
  -- Dividing by 256 gives the high byte, and multiplying by 256 keeps exactly the low one.
  have high := congrArg UInt8.toNat high
  have low := congrArg UInt16.toNat low
  simp only [UInt16.toNat_toUInt8, UInt16.toNat_shiftRight, UInt16.toNat_shiftLeft,
    Nat.shiftLeft_eq, Nat.shiftRight_eq_div_pow, UInt16.toNat_ofNat, Nat.reducePow,
    Nat.reduceMod] at high low
  have leftBound := left.toNat_lt
  have rightBound := right.toNat_lt
  apply UInt16.toNat_inj.mp
  omega

/-- One turn of the loop can be undone in the register and in the byte. -/
theorem crc16Step_reversible : Digest.Reversible crc16Step where
  state byte left right same := by
    -- Equal results used the same entry, so the registers agree above and below.
    have index := crc16Step_low left byte
    rw [show crc16Step left byte = crc16Step right byte from same, crc16Step_low] at index
    have high : (left >>> 8).toUInt8 = (right >>> 8).toUInt8 := (UInt8.xor_left_inj byte).mp index.symm
    refine register_ext high ?_
    simp only [crc16Step, high] at same
    exact (UInt16.xor_left_inj _).mp same
  symbol crc left right same := by
    -- From one register, the entry that was used tells the byte.
    have index := crc16Step_low crc left
    rw [same, crc16Step_low] at index
    exact (UInt8.xor_right_inj _).mp index.symm

/-- Changing one byte inside the checked length always changes the checksum. -/
theorem crc16_set_ne {data : List UInt8} {length : UInt16} {position : Nat} {byte : UInt8}
    (inside : position < data.length) (checked : position < length.toNat)
    (changed : byte ≠ data[position]) :
    crc16 (data.set position byte) length ≠ crc16 data length := by
  -- The changed byte survives the cut to the checked length.
  have within : position < (data.take length.toNat).length := by
    simp only [List.length_take]
    omega
  simp only [crc16, List.take_set]
  exact crc16Step_reversible.foldl_set_ne _ within (by simpa using changed)

/-- A byte beyond the checked length has no influence on the checksum. -/
theorem crc16_set_beyond {data : List UInt8} {length : UInt16} {position : Nat} {byte : UInt8}
    (beyond : length.toNat ≤ position) :
    crc16 (data.set position byte) length = crc16 data length := by
  -- The cut to the checked length removes the changed byte.
  simp only [crc16, List.take_set_of_le beyond]

/-- Bytes that follow the checked length have no influence on the checksum. -/
theorem crc16_append {data : List UInt8} {length : UInt16} (more : List UInt8)
    (covered : length.toNat ≤ data.length) : crc16 (data ++ more) length = crc16 data length := by
  -- The cut to the checked length removes what was appended.
  simp only [crc16, List.take_append_of_le_length covered]

end CrcUtils

end Threader
