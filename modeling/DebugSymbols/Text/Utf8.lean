/-!
# Texts as octets

A text is written to a file as the UTF-8 octets of its characters, one after
the other.  Reading accepts exactly what writing produces, so a text has one
written form.
-/

namespace DebugSymbols.Text

def encode (text : String) : List UInt8 :=
  text.toList.flatMap String.utf8EncodeChar

def decode? (octets : List UInt8) : Option String :=
  String.fromUTF8? octets.toByteArray

theorem encode_append (first second : String) :
    encode (first ++ second) = encode first ++ encode second := by
  simp [encode]

theorem toByteArray_encode (text : String) : (encode text).toByteArray = text.toByteArray := by
  rw [encode, ← List.utf8Encode, String.utf8Encode_toList]

theorem encode_injective {first second : String} (same : encode first = encode second) :
    first = second := by
  have octets := congrArg List.toByteArray same
  rw [toByteArray_encode, toByteArray_encode] at octets
  exact String.toByteArray_inj.1 octets

theorem decode?_encode (text : String) : decode? (encode text) = some text := by
  rw [decode?, toByteArray_encode, String.fromUTF8?, dif_pos text.isValidUTF8]
  rfl

theorem encode_of_decode? {octets : List UInt8} {text : String}
    (read : decode? octets = some text) : encode text = octets := by
  unfold decode? String.fromUTF8? at read
  split at read
  · next valid =>
      cases read
      have arrays : (encode (String.fromUTF8 octets.toByteArray valid)).toByteArray =
          octets.toByteArray :=
        toByteArray_encode _
      simpa [List.data_toByteArray] using
        congrArg (fun array : ByteArray => array.data.toList) arrays
  · cases read

end DebugSymbols.Text
