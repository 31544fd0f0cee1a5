import CommandRelay.Proofs.Envelope.RoundTrip

/-!
# The head of an envelope on the wire

Query parameters come last on the wire, and not all of them are read back as they were.  What stands
before them is told by the octets alone, whatever the parameters hold: envelopes that look alike on
the wire differ in their parameters at most (`eq_but_params_of_toWire_eq`).
-/

namespace CommandRelay

namespace Json

theorem writeFields_append (fields more : List (String × Json)) :
    writeFields (fields ++ more) = writeFields fields ++ writeFields more := by
  induction fields with
  | nil => rfl
  | cons f fields ih =>
    rw [List.cons_append, writeFields, writeFields, ih]
    simp only [List.cons_append, List.append_assoc]

/-- Texts are told apart by their units. -/
theorem textUnits_injective {x y : String} (h : textUnits x.toList = textUnits y.toList) :
    x = y := by
  have hread := unitText?_textUnits x
  rw [h, unitText?_textUnits] at hread
  exact (Option.some.inj hread).symm

end Json

namespace Envelope

open Json (spelling textUnits textUnits_injective)

/-- The fields behind the first one that are always written. -/
def headFields : List Field :=
  [.receivedTopic, .correlationId, .requestId, .errorCode, .payload, .contentType]

theorem writtenFields_eq (e : Envelope) : ∃ last,
    e.writtenFields = .apiVersion :: (headFields ++ last) := by
  by_cases hnone : e.queryParams.fields.isEmpty = true
  · exact ⟨[], by simp [writtenFields, Field.all, headFields, hnone]⟩
  · exact ⟨[.queryParams], by simp [writtenFields, Field.all, headFields, hnone]⟩

/-- The lexer comes to the tokens of the head first. -/
theorem lex_toWire (e : Envelope) : ∃ rest, Json.lex e.toWire =
    .openObject :: .text (textUnits Field.apiVersion.name.toList) :: .colon ::
      .text (textUnits e.apiVersion.toList) ::
        (Json.fieldTokens (Json.spellingFields
          (headFields.map fun f => (f.name, e.fieldJson f))) ++ rest) := by
  obtain ⟨last, hwritten⟩ := e.writtenFields_eq
  have hwhole : Json.WholeFields (headFields.map fun f => (f.name, e.fieldJson f)) := by
    simp only [headFields, List.map, fieldJson, Json.ofInt, Json.WholeFields, Json.Whole, and_self]
  have hclose : Json.Stops (String.utf8EncodeChar '}') :=
    Json.stops_cons (.inr (.inr (.inl rfl))) []
  have hlast := Json.stops_writeFields (last.map fun f => (f.name, e.fieldJson f)) hclose
  refine ⟨Json.lexFrom .between (Utf8.encodeChars (Json.writeFields
    (last.map fun f => (f.name, e.fieldJson f))) ++ String.utf8EncodeChar '}'), ?_⟩
  rw [← Json.lex_writeFields _ hwhole hlast, toWire, toJson, Json.toOctets, hwritten, List.map_cons,
    List.map_append, Json.write, Json.writeFields_append, fieldJson, Json.write, Json.lex]
  simp only [List.cons_append, Utf8.encodeChars_cons, Utf8.encodeChars_append, List.append_assoc,
    Utf8.encodeChars_nil, List.append_nil]
  rw [Json.lexFrom_mark '{' .openObject (by decide), Json.lexFrom_writeText,
    Json.lexFrom_mark ':' .colon (by decide), Json.lexFrom_writeText]

/-- Envelopes that look alike on the wire differ in their parameters at most. -/
theorem eq_but_params_of_toWire_eq {e e' : Envelope} (h : e.toWire = e'.toWire) :
    e' = { e with queryParams := e'.queryParams } := by
  obtain ⟨rest, hlex⟩ := e.lex_toWire
  obtain ⟨rest', hlex'⟩ := e'.lex_toWire
  rw [← h, hlex] at hlex'
  simp only [headFields, List.map, fieldJson, Json.ofInt, Json.spellingFields, spelling,
    Json.fieldTokens, Json.Document.tokens, List.cons_append, List.nil_append, List.cons.injEq,
    Json.Token.text.injEq, Json.Token.number.injEq, true_and] at hlex'
  obtain ⟨hversion, htopic, hcorrelation, hid, hcode, hpayload, htype, -⟩ := hlex'
  have hcode' : e.errorCode = e'.errorCode := by
    have hread := codeOf?_spelling e.errorCode
    rw [Json.ofInt, spelling, hcode] at hread
    exact Option.some.inj (hread.symm.trans (codeOf?_spelling e'.errorCode))
  have hpayload' : e.payload = e'.payload := by
    have hread := Base64.decodeText?_encodeText e.payload
    rw [textUnits_injective hpayload, Base64.decodeText?_encodeText] at hread
    exact (Option.some.inj hread).symm
  cases e
  cases e'
  simp only [mk.injEq, and_true]
  exact ⟨(textUnits_injective hversion).symm, (textUnits_injective htopic).symm,
    (textUnits_injective hcorrelation).symm, (textUnits_injective hid).symm, hcode'.symm,
    hpayload'.symm, (textUnits_injective htype).symm⟩

end Envelope

end CommandRelay
