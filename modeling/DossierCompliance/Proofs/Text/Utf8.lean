import DossierCompliance.Text.Utf8
import Mathlib.Tactic.Common

/-!
Texts and their bytes. An array of bytes is told by its list and a text by its
bytes, and a text that is written in UTF-8 is read as itself, with no damaged place.
-/

namespace DossierCompliance.Text.Utf8

/-! ### Bytes of texts -/

theorem toList_loop (b : ByteArray) (i : Nat) (taken : List UInt8) :
    ByteArray.toList.loop b i taken = taken.reverse ++ b.data.toList.drop i := by
  fun_induction ByteArray.toList.loop b i taken with
  | case1 i taken hi ih =>
    have hsize : i < b.data.toList.length := hi
    have hget : b.get! i = b.data.toList[i] := by
      have hdata : b.get! i = b.data[i]! := rfl
      rw [hdata, getElem!_pos b.data i hi, Array.getElem_toList]
    rw [ih, List.drop_eq_getElem_cons hsize, hget]
    simp
  | case2 i taken hi =>
    have hsize : b.data.toList.length ≤ i := by simpa using hi
    simp [List.drop_eq_nil_of_le hsize]

theorem toList_eq (b : ByteArray) : b.toList = b.data.toList := by
  simp [ByteArray.toList, toList_loop]

theorem bytes_eq_of_toList {a b : ByteArray} (h : a.toList = b.toList) : a = b := by
  rw [toList_eq, toList_eq] at h
  exact ByteArray.ext (Array.toList_inj.mp h)

/-- The bytes of a text are those of its characters. -/
theorem toUTF8_toList (s : String) :
    s.toUTF8.toList = s.toList.flatMap String.utf8EncodeChar := by
  have hbytes : s.toUTF8 = s.toList.utf8Encode := String.utf8Encode_toList.symm
  rw [hbytes, toList_eq, List.utf8Encode, List.data_toByteArray]

/-- Texts of the same bytes are the same. -/
theorem toUTF8_toList_inj {s t : String} (h : s.toUTF8.toList = t.toUTF8.toList) : s = t :=
  String.toByteArray_inj.mp (bytes_eq_of_toList h)

/-! ### Reading them back -/

variable {a bits low high : Nat} (rest : List UInt8)

theorem begin_one (ha : a ≤ 0x7F) : begin a = ([some (Char.ofNat a)], none) :=
  if_pos (by omega)

theorem begin_two (hlow : 2 ≤ a) (hhigh : a < 32) :
    begin (a + 192) = ([], some ⟨1, 0x80, 0xBF, a⟩) := by
  rw [begin, if_neg (by omega), if_neg (by omega), if_pos (by omega), Nat.add_sub_cancel]

theorem begin_three (ha : a < 16) :
    begin (a + 224) =
      ([], some ⟨2, if a = 0 then 0xA0 else 0x80, if a = 13 then 0x9F else 0xBF, a⟩) := by
  rw [begin, if_neg (by omega), if_neg (by omega), if_neg (by omega), if_pos (by omega),
    Nat.add_sub_cancel]
  simp

theorem begin_four (ha : a < 5) :
    begin (a + 240) =
      ([], some ⟨3, if a = 0 then 0x90 else 0x80, if a = 4 then 0x8F else 0xBF, a⟩) := by
  rw [begin, if_neg (by omega), if_neg (by omega), if_neg (by omega), if_neg (by omega),
    if_pos (by omega), Nat.add_sub_cancel]
  simp

theorem readFrom_cons {state next : State} {ended : List (Option Char)} (ha : a < UInt8.size)
    (h : step state a = (ended, next)) :
    readFrom state (UInt8.ofNat a :: rest) = ended ++ readFrom next rest := by
  rw [readFrom, UInt8.toNat_ofNat_of_lt' ha, h]

theorem readFrom_first {next : State} {ended : List (Option Char)} (ha : a < 256)
    (h : begin a = (ended, next)) :
    readFrom none (UInt8.ofNat a :: rest) = ended ++ readFrom next rest :=
  readFrom_cons rest ha h

theorem add_lt_size (ha : a < 64) : a + 128 < UInt8.size :=
  Nat.add_lt_add_right (by omega : a < 128) 128

/-- A byte in the range of a character that lacks more than this one. -/
theorem readFrom_next {owed : Nat} (howed : 1 < owed) (ha : a < 64) (hlow : low ≤ a + 128)
    (hhigh : a + 128 ≤ high) :
    readFrom (some ⟨owed, low, high, bits⟩) (UInt8.ofNat (a + 128) :: rest) =
      readFrom (some ⟨owed - 1, 0x80, 0xBF, bits * 64 + a⟩) rest := by
  have hstep : step (some ⟨owed, low, high, bits⟩) (a + 128) =
      ([], some ⟨owed - 1, 0x80, 0xBF, bits * 64 + a⟩) := by
    simp [step, hlow, hhigh, Nat.not_le.mpr howed]
  exact readFrom_cons rest (add_lt_size ha) hstep

/-- The last byte of a character. -/
theorem readFrom_last (ha : a < 64) (hlow : low ≤ a + 128) (hhigh : a + 128 ≤ high) :
    readFrom (some ⟨1, low, high, bits⟩) (UInt8.ofNat (a + 128) :: rest) =
      some (Char.ofNat (bits * 64 + a)) :: readFrom none rest := by
  have hstep : step (some ⟨1, low, high, bits⟩) (a + 128) =
      ([some (Char.ofNat (bits * 64 + a))], none) := by
    simp [step, hlow, hhigh]
  exact readFrom_cons rest (add_lt_size ha) hstep

theorem readFrom_encodeChar (c : Char) :
    readFrom none (String.utf8EncodeChar c ++ rest) = some c :: readFrom none rest := by
  have hvalid : c.toNat < 0xD800 ∨ 0xDFFF < c.toNat ∧ c.toNat < 0x110000 := c.valid
  have hchar : Char.ofNat c.toNat = c := Char.ofNat_toNat c
  have hval : c.val.toNat = c.toNat := rfl
  rw [String.utf8EncodeChar, hval]
  generalize c.toNat = v at hvalid hchar ⊢
  -- one case for each number of bytes
  split_ifs with hone htwo hthree <;> simp only [List.cons_append, List.nil_append]
  · rw [readFrom_first _ (by omega) (begin_one hone), hchar, List.singleton_append]
  · have hbits : v / 64 % 32 * 64 + v % 64 = v := by omega
    rw [readFrom_first _ (by omega) (begin_two (by omega) (by omega)), List.nil_append,
      readFrom_last _ (by omega) (by omega) (by omega), hbits, hchar]
  · have hbits : (v / 4096 % 16 * 64 + v / 64 % 64) * 64 + v % 64 = v := by omega
    rw [readFrom_first _ (by omega) (begin_three (by omega)), List.nil_append,
      readFrom_next _ (by omega) (by omega) (by split_ifs <;> omega) (by split_ifs <;> omega),
      readFrom_last _ (by omega) (by omega) (by omega), hbits, hchar]
  · have hbits : ((v / 262144 % 8 * 64 + v / 4096 % 64) * 64 + v / 64 % 64) * 64 + v % 64 = v := by
      omega
    rw [readFrom_first _ (by omega) (begin_four (by omega)), List.nil_append,
      readFrom_next _ (by omega) (by omega) (by split_ifs <;> omega) (by split_ifs <;> omega),
      readFrom_next _ (by omega) (by omega) (by omega) (by omega),
      readFrom_last _ (by omega) (by omega) (by omega), hbits, hchar]

/-- A text is read as itself. -/
theorem read_encode (s : String) : read (encode s) = s.toList.map some := by
  rw [read, encode, toUTF8_toList]
  induction s.toList with
  | nil => rfl
  | cons c cs ih => rw [List.flatMap_cons, readFrom_encodeChar, ih, List.map_cons]

theorem decode?_encode (s : String) : decode? (encode s) = some s := by
  have hwhole : (s.toList.map some).mapM id = some s.toList := by
    rw [List.mapM_map]
    exact (List.mapM_pure (m := Option) (f := id)).trans (congrArg some (List.map_id _))
  rw [decode?, read_encode, hwhole, Option.map_some, String.ofList_toList]

end DossierCompliance.Text.Utf8
