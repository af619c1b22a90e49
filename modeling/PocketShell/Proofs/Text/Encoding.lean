import PocketShell.Stream.Input

/-!
# Bytes of a text

A text in UTF-8 can be read back from its bytes.  The bytes below 128 in it are
its characters below 128, and no other character is encoded with one of them.
So the line feeds of a stream of bytes are the line feeds of the text that it
encodes, and a text ends with such a mark if its bytes do.
-/

namespace PocketShell

namespace Text

def bytes (text : String) : List UInt8 :=
  text.toUTF8.data.toList

@[simp]
theorem bytes_empty : bytes "" = [] :=
  rfl

@[simp]
theorem bytes_append (text later : String) : bytes (text ++ later) = bytes text ++ bytes later := by
  simp [bytes]

theorem bytes_eq_flatMap (text : String) :
    bytes text = text.toList.flatMap String.utf8EncodeChar := by
  have encoded : (String.ofList text.toList).toByteArray = text.toList.utf8Encode :=
    String.toByteArray_ofList
  rw [String.ofList_toList] at encoded
  rw [bytes, String.toUTF8_eq_toByteArray, encoded, List.utf8Encode, List.toList_data_toByteArray]

theorem length_bytes (text : String) : (bytes text).length = text.utf8ByteSize :=
  String.size_toByteArray

theorem fromUTF8?_bytes (text : String) :
    String.fromUTF8? (bytes text).toByteArray = some text := by
  have sameBytes : (bytes text).toByteArray = text.toByteArray := by
    apply ByteArray.ext
    simp [bytes]
  rw [sameBytes, String.fromUTF8?, dif_pos text.isValidUTF8]
  rfl

theorem mem_utf8EncodeChar_iff {byte : UInt8} (ascii : byte.toNat < 128) {char : Char} :
    byte ∈ String.utf8EncodeChar char ↔ char.toNat = byte.toNat := by
  have toNat_eq (value : Nat) : byte = UInt8.ofNat value ↔ byte.toNat = value % 256 := by
    rw [← UInt8.toNat_inj, UInt8.toNat_ofNat']
  change _ ↔ char.val.toNat = byte.toNat
  simp only [String.utf8EncodeChar]
  -- Beyond one byte, every byte of a character is at least 128.
  split
  · rw [List.mem_singleton, toNat_eq]
    omega
  · split
    · simp only [List.mem_cons, List.not_mem_nil, toNat_eq, or_false]
      omega
    · split <;>
      · simp only [List.mem_cons, List.not_mem_nil, toNat_eq, or_false]
        omega

theorem mem_bytes_iff {byte : UInt8} (ascii : byte.toNat < 128) {text : String} :
    byte ∈ bytes text ↔ ∃ char ∈ text.toList, char.toNat = byte.toNat := by
  simp only [bytes_eq_flatMap, List.mem_flatMap, mem_utf8EncodeChar_iff ascii]

theorem lineFeed_mem_bytes_iff {text : String} : 10 ∈ bytes text ↔ '\n' ∈ text.toList := by
  rw [mem_bytes_iff (by decide)]
  constructor
  · rintro ⟨char, mem, code⟩
    obtain rfl : char = '\n' := Char.toNat_inj.mp code
    exact mem
  · exact fun mem => ⟨'\n', mem, rfl⟩

section Mark

variable {mark : Char} {byte : UInt8} (ascii : byte.toNat < 128) (same : mark.toNat = byte.toNat)
include ascii same

theorem utf8EncodeChar_eq_singleton : String.utf8EncodeChar mark = [byte] := by
  have small : mark.val.toNat ≤ 127 := by
    change mark.toNat ≤ 127
    omega
  rw [String.utf8EncodeChar_eq_singleton (Char.utf8Size_eq_one_iff.mpr small)]
  congr 1
  apply UInt8.toNat_inj.mp
  rw [UInt32.toNat_toUInt8, ← same]
  change mark.toNat % 256 = mark.toNat
  omega

theorem bytes_append_mark (text : String) :
    bytes (text ++ String.singleton mark) = bytes text ++ [byte] := by
  rw [bytes_append, bytes_eq_flatMap (String.singleton mark), String.toList_singleton,
    List.flatMap_singleton, utf8EncodeChar_eq_singleton ascii same]

/-- A text whose bytes end with a mark of one byte ends with that mark. -/
theorem exists_of_bytes_eq_concat {text : String} {front : List UInt8}
    (encoded : bytes text = front ++ [byte]) :
    ∃ before, text = before ++ String.singleton mark ∧ bytes before = front := by
  rcases List.eq_nil_or_concat text.toList with empty | ⟨chars, last, charsEq⟩
  · simp [bytes_eq_flatMap, empty] at encoded
  · have textEq : text = String.ofList chars ++ String.singleton last := by
      apply String.toList_injective
      simpa using charsEq
    have lastBytes : (String.utf8EncodeChar last).getLast? = some byte := by
      have ends : (bytes text).getLast? = some byte := by rw [encoded, List.getLast?_concat]
      rw [bytes_eq_flatMap, charsEq, List.concat_eq_append, List.flatMap_append,
        List.flatMap_singleton, List.getLast?_append] at ends
      rwa [List.getLast?_eq_some_getLast String.utf8EncodeChar_ne_nil] at ends ⊢
    have lastEq : last = mark := by
      have code := (mem_utf8EncodeChar_iff ascii).mp (List.mem_of_getLast? lastBytes)
      exact Char.toNat_inj.mp (code.trans same.symm)
    rw [lastEq] at textEq
    refine ⟨String.ofList chars, textEq, ?_⟩
    rw [textEq, bytes_append_mark ascii same] at encoded
    exact (List.append_singleton_inj.mp encoded).1

end Mark

end Text

end PocketShell
