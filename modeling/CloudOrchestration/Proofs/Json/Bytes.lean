import CloudOrchestration.Proofs.Json.Text
import CloudOrchestration.Wire
/-!
# Bytes are read back

Bytes are read as a value exactly if they are the UTF-8 of a text that denotes
it, alone or after one byte-order mark (`Wire.json_decode_eq_ok_iff`): no value
starts like the mark, so none is dropped from its text. Hence the wire format
reads what it has written.
-/

namespace CloudOrchestration

/-- The bytes of an array are the elements of its data. -/
theorem toList_bytes (bytes : ByteArray) : bytes.toList = bytes.data.toList := by
  have hloop : ∀ i r, ByteArray.toList.loop bytes i r = r.reverse ++ bytes.data.toList.drop i := by
    intro i r
    fun_induction ByteArray.toList.loop bytes i r with
    | case1 i r hlt ih =>
      have hlt' : i < bytes.data.toList.length := hlt
      rw [ih, List.drop_eq_getElem_cons hlt']
      simp [ByteArray.get!, hlt]
    | case2 i r hge =>
      have hge' : bytes.data.toList.length ≤ i := Nat.not_lt.1 hge
      rw [List.drop_eq_nil_of_le hge', List.append_nil]
  rw [ByteArray.toList, hloop]
  rfl

namespace Json

/-- The bytes of the byte-order mark. -/
def mark : ByteArray := byteOrderMark.toByteArray

theorem dropMark_mark (bytes : ByteArray) : dropMark (mark ++ bytes) = bytes := by
  have hfront : (mark ++ bytes).extract 0 3 = mark := ByteArray.extract_append_eq_left rfl
  have hrest : (mark ++ bytes).extract 3 (mark ++ bytes).size = bytes :=
    ByteArray.extract_append_eq_right rfl ByteArray.size_append
  have hmark : mark.toList = byteOrderMark := toList_bytes mark
  rw [dropMark, hfront, hrest, if_pos hmark]

/-- What is dropped is a mark, if anything. -/
theorem dropMark_eq (bytes : ByteArray) :
    dropMark bytes = bytes ∨ bytes = mark ++ dropMark bytes := by
  unfold dropMark
  split
  next hmark =>
    rw [toList_bytes] at hmark
    have hfront : bytes.extract 0 3 = mark := ByteArray.ext (Array.toList_inj.1 hmark)
    have hsize : 3 ≤ bytes.size := by
      have hlength := congrArg List.length hmark
      simp [byteOrderMark] at hlength
      omega
    right
    rw [← hfront, ByteArray.extract_append_extract, Nat.max_eq_right hsize]
    exact ByteArray.extract_zero_size.symm
  next => exact .inl rfl

/-- A text whose bytes start with the mark starts with its character. -/
theorem exists_toList_eq_cons {text : String} {bytes : ByteArray}
    (h : text.toUTF8 = mark ++ bytes) : ∃ cs, text.toList = '\uFEFF' :: cs := by
  have hencoded : mark = (String.utf8EncodeChar '\uFEFF').toByteArray := rfl
  have hmark : text.toUTF8.utf8DecodeChar? 0 = some '\uFEFF' := by
    rw [h, hencoded, ByteArray.utf8DecodeChar?_utf8EncodeChar_append]
  rw [← String.ofList_toList (s := text)] at hmark
  cases htext : text.toList with
  | nil =>
    rw [htext] at hmark
    cases hmark
  | cons c cs =>
    rw [htext, String.toUTF8_eq_toByteArray, String.toByteArray_ofList,
      List.utf8DecodeChar?_utf8Encode_cons] at hmark
    cases hmark
    exact ⟨cs, rfl⟩

/-- No value starts with the character of the mark. -/
theorem parseWithin_mark (depth : Nat) (cs : List Char) :
    parseWithin depth ('\uFEFF' :: cs) = none := by
  have hblank : isBlank '\uFEFF' = false := by decide
  have hdigit : Char.isDigit '\uFEFF' = false := by decide
  cases depth <;>
    simp [parseWithin, readValue, hblank, readScalar, Numeral.read, Numeral.readWhole,
      Numeral.readDigits, hdigit]

theorem fromUTF8?_eq_some_iff {bytes : ByteArray} {text : String} :
    String.fromUTF8? bytes = some text ↔ bytes = text.toUTF8 := by
  constructor
  · intro h
    unfold String.fromUTF8? at h
    split at h
    next =>
      cases h
      rfl
    next => cases h
  · rintro rfl
    exact dif_pos text.isValidUTF8

/-- **No text that denotes a value starts with a mark.** -/
theorem Denotes.ne_mark_append {text : String} {depth : Nat} {v : Json}
    (h : Denotes depth text.toList v) (bytes : ByteArray) : text.toUTF8 ≠ mark ++ bytes := by
  intro hmark
  obtain ⟨cs, htext⟩ := exists_toList_eq_cons hmark
  have hread := parseWithin_eq_some_iff.2 h
  rw [htext, parseWithin_mark] at hread
  cases hread

/-- **Bytes are read as a value exactly if they are the UTF-8 of a text that denotes
it**, alone or after one mark. -/
theorem ofBytes?_eq_some_iff {bytes : ByteArray} {v : Json} :
    ofBytes? bytes = some v ↔
      ∃ text : String, (bytes = text.toUTF8 ∨ bytes = mark ++ text.toUTF8) ∧
        Denotes maxDepth text.toList v := by
  constructor
  · intro h
    -- whether a mark was dropped or not, the rest is the text
    obtain ⟨text, htext, hread⟩ := Option.bind_eq_some_iff.1 h
    rw [fromUTF8?_eq_some_iff] at htext
    refine ⟨text, ?_, parseWithin_eq_some_iff.1 hread⟩
    rw [← htext]
    exact (dropMark_eq bytes).imp_left Eq.symm
  · rintro ⟨text, hbytes, hdenotes⟩
    have hdrop : dropMark bytes = text.toUTF8 := by
      rcases hbytes with rfl | rfl
      · exact (dropMark_eq text.toUTF8).resolve_right (hdenotes.ne_mark_append _)
      · exact dropMark_mark _
    rw [ofBytes?, hdrop, fromUTF8?_eq_some_iff.2 rfl]
    exact parseWithin_eq_some_iff.2 hdenotes

/-- **The bytes of a value are read as it.** -/
theorem ofBytes?_toBytes {v : Json} (hv : Writable maxDepth v) : ofBytes? v.toBytes = some v := by
  refine ofBytes?_eq_some_iff.2 ⟨v.render, .inl rfl, ?_⟩
  rw [render, String.toList_ofList]
  exact hv.denotes

end Json

namespace Wire

variable {α : Type} [Document α]

/-- **The wire format decodes exactly the UTF-8 of texts that denote a value**, alone
or after one mark. -/
theorem json_decode_eq_ok_iff {bytes : ByteArray} {v : Json} :
    json.decode bytes = .ok v ↔
      ∃ text : String, (bytes = text.toUTF8 ∨ bytes = Json.mark ++ text.toUTF8) ∧
        Json.Denotes Json.maxDepth text.toList v := by
  rw [← Json.ofBytes?_eq_some_iff]
  cases h : Json.ofBytes? bytes <;> simp [json, h]

/-- The wire format reads the document that a value denotes. -/
theorem json_read_of_decode {v : Json} {a : α} (hwritable : Json.Writable Json.maxDepth v)
    (hdecode : Document.decode v = some a) : json.read v.toBytes = .ok a := by
  have hvalue : json.decode v.toBytes = .ok v := by
    simp [json, Json.ofBytes?_toBytes hwritable]
  simp [read, hvalue, hdecode, Except.bind, bind]

/-- **The wire format reads what it has written.** -/
theorem json_read_toBytes {a : α}
    (hwritable : Json.Writable Json.maxDepth (Document.encode a))
    (hdecode : Document.decode (Document.encode a) = some a) :
    json.read (Document.encode a).toBytes = .ok a := json_read_of_decode hwritable hdecode

/-- Bytes that are read as a document hold a value that is. -/
theorem exists_decode_of_read {w : Wire} {bytes : ByteArray} {a : α} (h : w.read bytes = .ok a) :
    ∃ v, w.decode bytes = .ok v ∧ Document.decode v = some a := by
  unfold read at h
  cases hv : w.decode bytes with
  | error fault =>
    rw [hv] at h
    cases h
  | ok v =>
    simp only [hv, bind, Except.bind] at h
    split at h
    next a' ha =>
      cases h
      exact ⟨v, rfl, ha⟩
    next => cases h

end Wire

end CloudOrchestration
