import CloudOrchestration.Proofs.Json.Bytes
/-!
# Round trips of the wire format

What is written is read again, within blanks and after one byte-order mark, but
not after two. What is read is written in a form of its own, whatever the order
and the number of the members in the text: that form is read as the same value
and written as it is.
-/

namespace CloudOrchestration

namespace Wire

/-- A text is read after one mark and within blanks as it is without them. -/
theorem json_decode_padded {text before after : String} {v : Json}
    (h : Json.Denotes Json.maxDepth text.toList v) (hbefore : Json.Blank before.toList)
    (hafter : Json.Blank after.toList) :
    json.decode (before.toUTF8 ++ text.toUTF8 ++ after.toUTF8) = .ok v ∧
      json.decode (Json.mark ++ (before.toUTF8 ++ text.toUTF8 ++ after.toUTF8)) = .ok v := by
  have hbytes : before.toUTF8 ++ text.toUTF8 ++ after.toUTF8 =
      (before ++ text ++ after).toUTF8 := by
    simp only [String.toUTF8_eq_toByteArray, String.toByteArray_append]
  have hdenotes : Json.Denotes Json.maxDepth (before ++ text ++ after).toList v := by
    rw [String.toList_append, String.toList_append]
    exact .padded hbefore h hafter
  rw [hbytes]
  exact ⟨json_decode_eq_ok_iff.2 ⟨_, .inl rfl, hdenotes⟩,
    json_decode_eq_ok_iff.2 ⟨_, .inr rfl, hdenotes⟩⟩

theorem json_decode_toBytes {v : Json} (hv : Json.Writable Json.maxDepth v) :
    json.decode v.toBytes = .ok v := by
  simp [json, Json.ofBytes?_toBytes hv]

/-- **Nothing is read after two marks.** -/
theorem json_decode_two_marks (bytes : ByteArray) :
    json.decode (Json.mark ++ (Json.mark ++ bytes)) = .error .json := by
  cases hread : Json.ofBytes? (Json.mark ++ (Json.mark ++ bytes)) with
  | none => simp [json, hread]
  | some v =>
    obtain ⟨text, hbytes, hdenotes⟩ := Json.ofBytes?_eq_some_iff.1 hread
    -- one of the marks is left for the text
    rcases hbytes with hbytes | hbytes
    · exact absurd hbytes.symm (hdenotes.ne_mark_append _)
    · exact absurd ((ByteArray.append_right_inj _).1 hbytes).symm (hdenotes.ne_mark_append _)

/-- **The wire format makes the round trip.** Every value without fractions, whose
integers are words and which nests no deeper than is read, is decoded from what
it is encoded as; also between blanks and after one mark, but nothing is decoded
after two. Every value without fractions that is decoded from bytes is such a
value, with the members of its objects in order and of each key the one that the
bytes give last; what it is encoded as is decoded as it and encoded as before. -/
theorem json_round_trip :
    (∀ v, Json.Writable Json.maxDepth v → ∃ bytes,
      json.encode v = .ok bytes ∧ json.decode bytes = .ok v ∧
        ∀ before after : String, Json.Blank before.toList → Json.Blank after.toList →
          json.decode (before.toUTF8 ++ bytes ++ after.toUTF8) = .ok v ∧
            json.decode (Json.mark ++ (before.toUTF8 ++ bytes ++ after.toUTF8)) = .ok v) ∧
    (∀ bytes, json.decode (Json.mark ++ (Json.mark ++ bytes)) = .error .json) ∧
    ∀ bytes v, json.decode bytes = .ok v → v.Whole →
      Json.Writable Json.maxDepth v ∧
        (∃ text : String, (bytes = text.toUTF8 ∨ bytes = Json.mark ++ text.toUTF8) ∧
          Json.Denotes Json.maxDepth text.toList v) ∧
        ∃ canonical, (json.decode bytes).bind json.encode = .ok canonical ∧
          json.decode canonical = .ok v ∧
          (json.decode canonical).bind json.encode = .ok canonical := by
  refine ⟨fun v hv => ?_, json_decode_two_marks, fun bytes v hread hwhole => ?_⟩
  · refine ⟨v.toBytes, rfl, json_decode_toBytes hv, fun before after hbefore hafter => ?_⟩
    have hdenotes : Json.Denotes Json.maxDepth v.render.toList v := by
      rw [Json.render, String.toList_ofList]
      exact hv.denotes
    exact json_decode_padded hdenotes hbefore hafter
  · obtain ⟨text, hbytes, hdenotes⟩ := json_decode_eq_ok_iff.1 hread
    have hwritable := hdenotes.writable hwhole
    have hcanonical := json_decode_toBytes hwritable
    exact ⟨hwritable, ⟨text, hbytes, hdenotes⟩, v.toBytes, by rw [hread]; rfl, hcanonical,
      by rw [hcanonical]; rfl⟩

/-- A key that a text gives twice is written once. -/
theorem json_round_trip_doubled :
    (∃ bytes, json.encode (.obj [("a", .arr [.str "\u2028"]), ("b", .int (-2))]) = .ok bytes ∧
      json.decode (Json.mark ++ (" ".toUTF8 ++ bytes ++ "\n".toUTF8)) =
        .ok (.obj [("a", .arr [.str "\u2028"]), ("b", .int (-2))])) ∧
    ∃ canonical,
      (json.decode "\x7b\"b\":null,\"a\":[\"\u2028\"],\"b\":-2\x7d".toUTF8).bind json.encode =
        .ok canonical ∧
      json.decode canonical = .ok (.obj [("a", .arr [.str "\u2028"]), ("b", .int (-2))]) := by
  have hitems : Json.Writable 126 (.arr [.str "\u2028"]) := .arr (by simp [Json.Writable.str])
  have hint : Json.Writable 126 (.int (-2)) := .int ⟨by decide, by decide⟩
  have hv : Json.Writable Json.maxDepth (.obj [("a", .arr [.str "\u2028"]), ("b", .int (-2))]) :=
    .obj (by simp [hitems, hint]) (List.pairwise_pair.2 (by decide))
  have hwhole : Json.Whole (.obj [("a", .arr [.str "\u2028"]), ("b", .int (-2))]) :=
    .obj (by simp [Json.Whole.arr, Json.Whole.str, Json.Whole.int])
  -- what stands in the text, in its order
  have hdigits : Nat.toDigits 10 2 = ['2'] := by decide
  have htext : "\x7b\"b\":null,\"a\":[\"\u2028\"],\"b\":-2\x7d".toList = '\x7b' ::
      Json.printMembers [("b", .null), ("a", .arr [.str "\u2028"]), ("b", .int (-2))] ++
        ['\x7d'] := by
    simp [Json.printMembers, Json.print, Json.printInt, Json.quote, Json.printItems,
      Json.escapeChar, Json.shortEscape?, hdigits]
  have hmembers : Members.ofList [("b", .null), ("a", .arr [.str "\u2028"]), ("b", .int (-2))] =
      [("a", .arr [.str "\u2028"]), ("b", .int (-2))] := by rfl
  have hdenotes := @Json.denotes_printMembers 126
    [("b", .null), ("a", .arr [.str "\u2028"]), ("b", .int (-2))]
    (by simp [Json.Writable.null.denotes, hitems.denotes, hint.denotes])
  rw [← htext, hmembers] at hdenotes
  have hread := json_decode_eq_ok_iff.2 ⟨_, .inl rfl, hdenotes⟩
  obtain ⟨bytes, hencode, -, hpadded⟩ := json_round_trip.1 _ hv
  obtain ⟨-, -, canonical, hcanonical, hdecode, -⟩ := json_round_trip.2.2 _ _ hread hwhole
  have hblank : Json.Blank " ".toList ∧ Json.Blank "\n".toList := by simp [Json.Blank, Json.isBlank]
  exact ⟨⟨bytes, hencode, (hpadded " " "\n" hblank.1 hblank.2).2⟩, canonical, hcanonical, hdecode⟩

end Wire

end CloudOrchestration
