import ProtocolBindings.Manifest
import ProtocolBindings.Proofs.Json.Limits

/-!
# Manifests on file

A manifest is read back from the bytes that its text is written as.  Of a file that was not written
to its end no manifest is read, unless nothing but the last line break is missing.
-/

namespace ProtocolBindings

/-- Bytes from the front of a text are no text, or they are a front of the text. -/
theorem Text.Utf8.isPrefix_of_decode_extract {text front : String} {count : Nat}
    (h : decode (text.toUTF8.extract 0 count) = .ok front) : front.toList <+: text.toList := by
  have hbytes : front.toByteArray = text.toUTF8.extract 0 count := by
    rw [decode, String.fromUTF8?] at h
    split at h
    · rename_i found heq
      obtain rfl := Except.ok.inj h
      split at heq
      · obtain rfl := Option.some.inj heq
        rfl
      · cases heq
    · cases h
  have hsplit : text.toUTF8.extract 0 count ++
      text.toUTF8.extract count (max count text.toUTF8.size) = text.toUTF8 := by
    apply ByteArray.ext
    rw [ByteArray.extract_append_extract, ByteArray.data_extract, Nat.zero_min]
    exact Array.extract_eq_self_of_le ((Nat.le_max_right count _).trans (Nat.le_max_right count _))
  rw [String.toUTF8_eq_toByteArray] at hsplit
  apply List.isPrefix_of_utf8Encode_append_eq_utf8Encode
  rw [String.utf8Encode_toList, String.utf8Encode_toList, hbytes]
  exact hsplit

open Json (Readable)

namespace OutputInfo

theorem ofDocument_toJson (o : OutputInfo) : ofDocument (.ofJson o.toJson) = .valid o := by
  obtain ⟨path, hash, domain⟩ := o
  cases domain with
  | none => rfl
  | some domain => rfl

theorem asList_toJson (outputs : List OutputInfo) :
    Document.asList ofDocument (.ofJson (.array (outputs.map (·.toJson)))) = .valid outputs := by
  have hitems : ∀ position, Validated.items ofDocument position
      ((Datum.ofJsonItems (outputs.map (·.toJson))).map (Document.part {datum := .null})) =
        .valid outputs := by
    induction outputs with
    | nil => exact fun _ => rfl
    | cons o outputs ih =>
      intro position
      have hfirst : ofDocument (Document.part {datum := .null} (.ofJson o.toJson)) = .valid o :=
        ofDocument_toJson o
      rw [List.map_cons, Datum.ofJsonItems, List.map_cons, Validated.items, hfirst, ih]
      rfl
  exact hitems 0

theorem readable_toJson (n : Nat) (o : OutputInfo) : Readable (n + 1) o.toJson := by
  have hnames : ["path", "hash", "domain"].Nodup := by decide
  refine .object hnames ?_
  simp only [List.forall_mem_cons, List.not_mem_nil, false_implies, implies_true, and_true]
  refine ⟨.string _, .string _, ?_⟩
  cases o.domain with
  | none => exact .null
  | some domain => exact .string domain

end OutputInfo

namespace Manifest

theorem ofDocument_toJson (m : Manifest) : ofDocument (.ofJson m.toJson) = .valid m := by
  obtain ⟨version, protocolVersion, package, schemaHash, outputs⟩ := m
  have hfields : ofDocument (.ofJson (toJson ⟨version, protocolVersion, package, schemaHash,
        outputs⟩)) =
      Validated.apply (.valid (Manifest.mk version protocolVersion package schemaHash))
        ((Document.asList OutputInfo.ofDocument
          (.ofJson (.array (outputs.map (·.toJson))))).under (.name "outputs")) := rfl
  rw [hfields, OutputInfo.asList_toJson]
  rfl

theorem readable_toJson {n : Nat} (hn : 3 ≤ n) (m : Manifest) : Readable n m.toJson := by
  obtain ⟨n, rfl⟩ := Nat.exists_eq_add_of_le' hn
  have hnames : ["version", "protocol_version", "package", "schema_hash", "outputs"].Nodup := by
    decide
  refine .object hnames ?_
  simp only [List.forall_mem_cons, List.not_mem_nil, false_implies, implies_true, and_true]
  refine ⟨.string _, .string _, .string _, .string _, .array ?_⟩
  rw [List.forall_mem_map]
  exact fun o _ => OutputInfo.readable_toJson n o

variable [Host]

/-- A file in which an integer has too many digits holds no manifest. -/
theorem ofBytes?_ne_digits (bytes : ByteArray) : ofBytes? bytes ≠ .error .digits := by
  rw [ofBytes?]
  split
  · rintro ⟨⟩
  · split
    · split
      · rintro ⟨⟩
      · rintro ⟨⟩
      · rename_i hdigits _
        rintro ⟨⟩
        exact hdigits rfl
    · split
      · rintro ⟨⟩
      · rintro ⟨⟩

/-- The text of a manifest is read back as the manifest. -/
theorem ofBytes?_toText (m : Manifest) : ofBytes? m.toText.toUTF8 = .ok (some m) := by
  have hspells := (m.readable_toJson Host.three_le_jsonDepth).spells_writeIndented 0
  have hparse := hspells.parse_unifyNewlines (by simp [Json.IsGap] : Json.IsGap ['\n'])
  have htext : m.toText.toList = m.toJson.writeIndented 0 ++ ['\n'] := by
    simp [toText, Json.toIndentedText]
  rw [ofBytes?, Text.Utf8.decode_toUTF8]
  simp only [htext, hparse, ofDocument_toJson]

/-- A front of the text of a manifest is parsed as the manifest or not at all. -/
theorem parse_front (m : Manifest) {front : List Char} (h : front <+: m.toText.toList) :
    (∃ fault, Json.parse (Text.unifyNewlines front) = .error fault ∧ ¬fault.Stays) ∨
      Json.parse (Text.unifyNewlines front) = .ok m.toJson := by
  have hspells := (m.readable_toJson Host.three_le_jsonDepth).spells_writeIndented 0
  have htext : m.toText.toList = m.toJson.writeIndented 0 ++ ['\n'] := by
    simp [toText, Json.toIndentedText]
  rw [htext, List.prefix_concat_iff] at h
  rcases h with rfl | hshort
  · exact Or.inr (hspells.parse_unifyNewlines (by simp [Json.IsGap] : Json.IsGap ['\n']))
  · have hreturn : '\r' ∉ front := fun hmem => hspells.noReturn (hshort.subset hmem)
    rw [Text.unifyNewlines_of_notMem hreturn]
    by_cases hwhole : front = m.toJson.writeIndented 0
    · subst hwhole
      have hparse := hspells.parse_eq Json.isGap_nil
      rw [List.append_nil] at hparse
      exact Or.inr hparse
    · exact Or.inl (hspells.exists_parse_eq_error rfl hshort hwhole)

/-- The bytes from the front of the text of a manifest hold that manifest or none. -/
theorem ofBytes?_extract_toText (m : Manifest) (count : Nat) :
    ofBytes? (m.toText.toUTF8.extract 0 count) = .ok none ∨
      ofBytes? (m.toText.toUTF8.extract 0 count) = .ok (some m) := by
  cases hdecode : Text.Utf8.decode (m.toText.toUTF8.extract 0 count) with
  | error fault => exact Or.inl (by rw [ofBytes?, hdecode])
  | ok front =>
    rw [ofBytes?, hdecode]
    have hfront := Text.Utf8.isPrefix_of_decode_extract hdecode
    rcases m.parse_front hfront with ⟨fault, hfault, hstays⟩ | hparse
    · left
      simp only [hfault]
      split
      · rfl
      · rfl
      · rename_i limit hdigits hlimit
        exact absurd ⟨limit, hlimit, hdigits⟩ hstays
    · exact Or.inr (by simp only [hparse, ofDocument_toJson])

end Manifest

end ProtocolBindings
