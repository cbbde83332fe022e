/-!
# UTF-8

The bytes of a text, and the text of bytes where there is one. Main statement: `ofUtf8?_eq_some_iff`,
bytes have a text exactly when they are the bytes of that text; so overlong forms, surrogates and
truncated sequences have none.
-/

namespace DataSource.Text

def utf8 (text : List Char) : List UInt8 := text.flatMap String.utf8EncodeChar

def ofUtf8? (bytes : List UInt8) : Option (List Char) :=
  (String.fromUTF8? ⟨bytes.toArray⟩).map String.toList

theorem toByteArray_utf8 (text : List Char) :
    (String.ofList text).toByteArray = ⟨(utf8 text).toArray⟩ := by
  rw [String.toByteArray_ofList]
  ext1
  simp [List.utf8Encode, utf8]

theorem ofUtf8?_eq_some_iff {bytes : List UInt8} {text : List Char} :
    ofUtf8? bytes = some text ↔ bytes = utf8 text := by
  have hmk (s : String) : (⟨bytes.toArray⟩ : ByteArray) = s.toByteArray ↔ bytes = utf8 s.toList := by
    have := toByteArray_utf8 s.toList
    rw [String.ofList_toList] at this
    rw [this]
    simp
  unfold ofUtf8? String.fromUTF8?
  constructor
  · intro h
    split at h
    · rename_i hv
      simp only [Option.map_some, Option.some.injEq] at h
      rw [← h]
      exact (hmk _).1 rfl
    · simp at h
  · intro h
    have hb := (hmk (String.ofList text)).2 (by simpa using h)
    have hv : (⟨bytes.toArray⟩ : ByteArray).IsValidUTF8 := hb ▸ (String.ofList text).isValidUTF8
    rw [dif_pos hv]
    have : String.fromUTF8 ⟨bytes.toArray⟩ hv = String.ofList text :=
      String.toByteArray_inj.1 hb
    simp [this]

theorem ofUtf8?_utf8 (text : List Char) : ofUtf8? (utf8 text) = some text :=
  ofUtf8?_eq_some_iff.2 rfl

@[simp]
theorem utf8_append (a b : List Char) : utf8 (a ++ b) = utf8 a ++ utf8 b := List.flatMap_append

end DataSource.Text
