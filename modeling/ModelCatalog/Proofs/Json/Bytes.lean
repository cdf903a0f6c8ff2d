import ModelCatalog.Json.Bytes

namespace ModelCatalog.Json

theorem characters_encoded {bytes : ByteArray} {i : Nat} (chars : List Char)
    (encoded : bytes.extract i bytes.size = chars.utf8Encode) : characters bytes i = chars.map some := by
  induction chars generalizing i with
  | nil =>
    have size := congrArg ByteArray.size encoded
    simp at size
    rw [characters,if_neg (by omega)]
    rfl
  | cons c rest ih =>
    have decoded : bytes.utf8DecodeChar? i = some c := by
      rw [ByteArray.utf8DecodeChar?_eq_utf8DecodeChar?_extract,encoded,List.utf8DecodeChar?_utf8Encode_cons]
    have fits := ByteArray.le_size_of_utf8DecodeChar?_eq_some decoded
    have positive := c.utf8Size_pos
    have tail : bytes.extract (i + c.utf8Size) bytes.size = rest.utf8Encode := by
      have parts : (bytes.extract i bytes.size).extract c.utf8Size (bytes.size - i) = rest.utf8Encode := by
        rw [encoded,List.utf8Encode_cons,List.utf8Encode_singleton]
        refine ByteArray.extract_append_eq_right (by simp) ?_
        have size := congrArg ByteArray.size encoded
        rw [List.utf8Encode_cons,List.utf8Encode_singleton] at size
        simpa using size
      rw [← parts,ByteArray.extract_extract]
      congr 1
      omega
    rw [characters,if_pos (by omega),decoded]
    simp [ih tail]

theorem characters_toUTF8 (text : String) : characters text.toUTF8 0 = text.toList.map some := by
  refine characters_encoded text.toList ?_
  rw [String.utf8Encode_toList]
  exact ByteArray.extract_zero_size

@[simp] theorem Node.readBytes_toUTF8 (text : String) : Node.readBytes text.toUTF8 = Node.read text := by
  have same (place : Scan.Place) (c : Char) : Scan.stepByte place (some c) = Scan.step place c := by cases place <;> rfl
  rw [readBytes,characters_toUTF8,Scan.collect,List.foldl_map]
  simp only [same]
  rfl

end ModelCatalog.Json
