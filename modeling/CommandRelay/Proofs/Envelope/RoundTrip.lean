import CommandRelay.Envelope.Wire
import CommandRelay.Proofs.Json.Lexing
import CommandRelay.Proofs.Text.Base64

/-!
# Envelopes are read back

An envelope is read back from its octets if its query parameters hold no double and are not nested
too deep.  The fields are read one by one, whatever the envelope holds that they are read into
(`readField?_spelling`).  What was received is never nested too deep, for the reader has a limit
(`shallow_of_ofWire?`), so what is sent on can always be read.
-/

namespace CommandRelay

open Json (spelling textUnits unitText?_textUnits)

/-! ## Parameters -/

namespace Params

/-- No value of a parameter is nested deeper than what can be read. -/
def Shallow (p : Params) : Prop := ∀ f ∈ p.fields, Json.depth f.2 ≤ 125

/-- No number in the parameters is a double. -/
def Whole (p : Params) : Prop := ∀ f ∈ p.fields, Json.Whole f.2

theorem eq_of_fields {p q : Params} (h : p.fields = q.fields) : p = q := by
  cases p
  cases q
  cases h
  rfl

/-- A document whose value is an object of parameters is read as these parameters. -/
theorem ofDocument?_eq_some {fields : List (List Json.TextUnit × Json.Document)} {p : Params}
    (h : (Json.Document.object fields).value? = some (.object p.fields)) :
    ofDocument? (.object fields) = some p := by
  rw [ofDocument?]
  split
  · rename_i fs heq
    have hfs : fs = p.fields := by
      rw [h] at heq
      injection heq with heq
      injection heq with heq
      exact heq.symm
    exact congrArg some (eq_of_fields hfs)
  · rename_i hnone
    exact absurd h (hnone _)

end Params

namespace Envelope

/-- Parameters that can be written are read back from what is written. -/
theorem paramsOf?_spelling {p : Params} (hwhole : p.Whole) (hshallow : p.Shallow) :
    paramsOf? (spelling (.object p.fields)) = some p := by
  have hdepth : (spelling (.object p.fields)).depth < Json.maxDepth := by
    have hfields := Json.depthMembers_le_iff.mpr hshallow
    rw [Json.depth_spelling, Json.depth, Json.maxDepth]
    omega
  rw [paramsOf?, if_pos hdepth]
  exact Params.ofDocument?_eq_some
    (Json.value?_spelling _ p.canonical (Json.wholeFields_iff.mpr hwhole))

/-- Parameters that were read are not nested too deep. -/
theorem shallow_of_paramsOf? {d : Json.Document} {p : Params} (h : paramsOf? d = some p) :
    p.Shallow := by
  rw [paramsOf?] at h
  split at h
  · rename_i hdepth
    rw [Params.ofDocument?.eq_def] at h
    split at h
    · obtain rfl := Option.some.inj h
      exact nofun
    · split at h
      · rename_i fields fs heq
        obtain rfl := Option.some.inj h
        have hle := Json.depth_of_value? _ heq
        rw [Json.depth] at hle
        rw [Json.maxDepth] at hdepth
        have hfields : Json.depthMembers fs ≤ 125 := by omega
        exact Json.depthMembers_le_iff.mp hfields
      · cases h
    · cases h
  · cases h

/-! ## Fields -/

/-- An envelope with one field of another. -/
def copy (e acc : Envelope) : Field → Envelope
  | .apiVersion => { acc with apiVersion := e.apiVersion }
  | .receivedTopic => { acc with receivedTopic := e.receivedTopic }
  | .correlationId => { acc with correlationId := e.correlationId }
  | .requestId => { acc with requestId := e.requestId }
  | .errorCode => { acc with errorCode := e.errorCode }
  | .payload => { acc with payload := e.payload }
  | .contentType => { acc with contentType := e.contentType }
  | .queryParams => { acc with queryParams := e.queryParams }

theorem fits_int32 (n : Int32) : (Json.Number.int n.toInt).Fits := by
  have hlow := n.le_toInt
  have hhigh := n.toInt_lt
  constructor <;> omega

/-- A code is read back from its digits. -/
theorem codeOf?_spelling (n : Int32) : codeOf? (spelling (.ofInt n.toInt)) = some n := by
  have hlow := n.le_toInt
  have hhigh := n.toInt_lt
  have hrange : -0x80000000 ≤ n.toInt ∧ n.toInt < 0x80000000 := by
    constructor <;> omega
  rw [Json.ofInt, spelling, codeOf?, Json.number?_numeral (fits_int32 n)]
  simp only [if_pos hrange, Int32.ofInt_toInt]

/-- A field is read back into any envelope. -/
theorem readField?_spelling {e : Envelope} (hwhole : e.queryParams.Whole)
    (hshallow : e.queryParams.Shallow) (acc : Envelope) (f : Field) :
    acc.readField? f (spelling (e.fieldJson f)) = some (e.copy acc f) := by
  have htext : ∀ s : String, textOf? (spelling (.text s)) = some s := unitText?_textUnits
  cases f with
  | apiVersion => simp only [readField?, fieldJson, htext, Option.map_some, copy]
  | receivedTopic => simp only [readField?, fieldJson, htext, Option.map_some, copy]
  | correlationId => simp only [readField?, fieldJson, htext, Option.map_some, copy]
  | requestId => simp only [readField?, fieldJson, htext, Option.map_some, copy]
  | contentType => simp only [readField?, fieldJson, htext, Option.map_some, copy]
  | errorCode => simp only [readField?, fieldJson, codeOf?_spelling, Option.map_some, copy]
  | payload =>
    have hpayload : payloadOf? (spelling (.text (Base64.encodeText e.payload))) =
      some e.payload := by
      rw [spelling, payloadOf?, unitText?_textUnits, Option.bind_some,
        Base64.decodeText?_encodeText]
    simp only [readField?, fieldJson, hpayload, Option.map_some, copy]
  | queryParams =>
    simp only [readField?, fieldJson, paramsOf?_spelling hwhole hshallow, Option.map_some, copy]

theorem ofName?_name (f : Field) : Field.ofName? f.name = some f := by
  cases f <;> decide

theorem spellingFields_eq_map (fields : List (String × Json)) :
    Json.spellingFields fields = fields.map fun f => (textUnits f.1.toList, spelling f.2) := by
  induction fields with
  | nil => rfl
  | cons f fields ih => rw [Json.spellingFields, ih]; rfl

/-- Fields that were written are read back, each once. -/
theorem readFields?_spelling {e : Envelope} (hwhole : e.queryParams.Whole)
    (hshallow : e.queryParams.Shallow) (fs : List Field) (hfs : fs.Nodup) (seen : List Field)
    (hseen : ∀ f ∈ fs, f ∉ seen) (acc : Envelope) :
    readFields? seen acc (fs.map fun f => (textUnits f.name.toList, spelling (e.fieldJson f))) =
      some (fs.foldl e.copy acc) := by
  induction fs generalizing seen acc with
  | nil => rfl
  | cons f fs ih =>
    obtain ⟨hf, hfs⟩ := List.nodup_cons.mp hfs
    obtain ⟨hfresh, hseen⟩ := List.forall_mem_cons.mp hseen
    have hseen' : ∀ f' ∈ fs, f' ∉ f :: seen := by
      intro f' hf' hmem
      rcases List.mem_cons.mp hmem with rfl | hmem
      · exact hf hf'
      · exact hseen f' hf' hmem
    rw [List.map_cons, readFields?, unitText?_textUnits]
    simp only [Option.bind_eq_bind, Option.bind_some, ofName?_name, if_neg hfresh,
      readField?_spelling hwhole hshallow]
    exact ih hfs (f :: seen) hseen' (e.copy acc f)

/-! ## Envelopes -/

/-- Empty parameters are left out, and what is left out is read as empty. -/
theorem foldl_copy_writtenFields (e : Envelope) : e.writtenFields.foldl e.copy {} = e := by
  by_cases hnone : e.queryParams.fields = []
  · have hparams : e.queryParams = Params.empty := Params.eq_of_fields hnone
    have hwritten : e.writtenFields = Field.all.filter (· ≠ .queryParams) := by
      refine List.filter_congr fun f _ => ?_
      simp [hnone]
    have hfold : (Field.all.filter (· ≠ .queryParams)).foldl e.copy {} =
        { e with queryParams := Params.empty } := by
      simp only [show Field.all.filter (· ≠ .queryParams) = [.apiVersion, .receivedTopic,
        .correlationId, .requestId, .errorCode, .payload, .contentType] from rfl, List.foldl, copy]
    rw [hwritten, hfold, ← hparams]
  · have hwritten : e.writtenFields = Field.all := by
      refine List.filter_eq_self.mpr fun f _ => ?_
      simp [hnone]
    rw [hwritten]
    simp only [Field.all, List.foldl, copy]

/-- An envelope can be written if its parameters can. -/
theorem whole_toJson {e : Envelope} (h : e.queryParams.Whole) : Json.Whole e.toJson := by
  refine Json.wholeFields_iff.mpr fun f hf => ?_
  obtain ⟨field, -, rfl⟩ := List.mem_map.mp hf
  cases field with
  | queryParams => exact Json.wholeFields_iff.mpr h
  | _ => exact trivial

/-- An envelope is read back from its octets, as it is. -/
theorem ofWire?_toWire {e : Envelope} (hwhole : e.queryParams.Whole)
    (hshallow : e.queryParams.Shallow) : ofWire? e.toWire = some e := by
  have hfields : (e.writtenFields.map fun f => (f.name, e.fieldJson f)).map
      (fun f => (textUnits f.1.toList, spelling f.2)) =
        e.writtenFields.map fun f => (textUnits f.name.toList, spelling (e.fieldJson f)) := by
    rw [List.map_map]
    rfl
  have hnodup : e.writtenFields.Nodup := (by decide : Field.all.Nodup).filter _
  rw [ofWire?, toWire, Json.ofOctets?_toOctets (whole_toJson hwhole), Option.bind_some, toJson,
    spelling, spellingFields_eq_map, hfields, ofDocument?,
    readFields?_spelling hwhole hshallow _ hnodup [] (fun _ _ => List.not_mem_nil),
    foldl_copy_writtenFields]

/-! ## What was received -/

/-- Reading a field leaves the parameters as they are, or reads them within the limit. -/
theorem shallow_of_readField? {e e' : Envelope} {f : Field} {d : Json.Document}
    (h : e.readField? f d = some e') (hshallow : e.queryParams.Shallow) :
    e'.queryParams.Shallow := by
  cases f with
  | queryParams =>
    obtain ⟨p, hp, rfl⟩ := Option.map_eq_some_iff.mp h
    exact shallow_of_paramsOf? hp
  | _ =>
    obtain ⟨x, -, rfl⟩ := Option.map_eq_some_iff.mp h
    exact hshallow

/-- Reading fields gives no parameters that are deeper than the document allows. -/
theorem shallow_of_readFields? {fields : List (List Json.TextUnit × Json.Document)}
    {seen : List Field} {e e' : Envelope} (h : readFields? seen e fields = some e')
    (hshallow : e.queryParams.Shallow) : e'.queryParams.Shallow := by
  induction fields generalizing seen e with
  | nil =>
    obtain rfl := Option.some.inj h
    exact hshallow
  | cons f fields ih =>
    obtain ⟨units, d⟩ := f
    obtain ⟨name, -, h⟩ := Option.bind_eq_some_iff.mp h
    split at h
    · exact ih h hshallow
    · split at h
      · cases h
      · obtain ⟨e₁, he₁, h⟩ := Option.bind_eq_some_iff.mp h
        exact ih h (shallow_of_readField? he₁ hshallow)

/-- Reading items gives no parameters that are deeper than the document allows. -/
theorem shallow_of_readItems? {fs : List Field} {items : List Json.Document} {e e' : Envelope}
    (h : readItems? e fs items = some e') (hshallow : e.queryParams.Shallow) :
    e'.queryParams.Shallow := by
  induction items generalizing fs e with
  | nil =>
    rw [readItems?] at h
    obtain rfl := Option.some.inj h
    exact hshallow
  | cons d items ih =>
    cases fs with
    | nil => cases h
    | cons f fs =>
      obtain ⟨e₁, he₁, h⟩ := Option.bind_eq_some_iff.mp h
      exact ih h (shallow_of_readField? he₁ hshallow)

/-- Whatever is received can be read again: its parameters lie within the limit. -/
theorem shallow_of_ofWire? {bs : List UInt8} {e : Envelope} (h : ofWire? bs = some e) :
    e.queryParams.Shallow := by
  obtain ⟨d, -, h⟩ := Option.bind_eq_some_iff.mp h
  have hempty : ({} : Envelope).queryParams.Shallow := nofun
  cases d with
  | object fields => exact shallow_of_readFields? h hempty
  | list items => exact shallow_of_readItems? h hempty
  | _ => cases h

/-- An envelope that has a correlation ID keeps it. -/
theorem correlated_eq_self {e : Envelope} (h : e.correlationId ≠ "") (fresh : String) :
    e.correlated fresh = e := if_neg h

/-- **Envelopes are read back.**  An envelope with a correlation ID whose parameters hold no double
and are nested at most 125 containers deep is received as it was sent; and whatever was received
without a double in its parameters is received again, and is the same. -/
theorem receive_toWire :
    (∀ (e : Envelope) (fresh : String) (words : Wording), e.correlationId ≠ "" →
      (∀ f ∈ e.queryParams.fields, Json.Whole f.2 ∧ Json.depth f.2 ≤ 125) →
        receive fresh e.toWire words = .ok e) ∧
    (∀ (bs : List UInt8) (fresh fresh' : String) (words : Wording) (e : Envelope), fresh ≠ "" →
      receive fresh bs words = .ok e → (∀ f ∈ e.queryParams.fields, Json.Whole f.2) →
        receive fresh' e.toWire words = .ok e) := by
  have hback : ∀ (e : Envelope) (fresh : String) (words : Wording), e.correlationId ≠ "" →
      e.queryParams.Whole → e.queryParams.Shallow → receive fresh e.toWire words = .ok e := by
    intro e fresh words hid hwhole hshallow
    rw [receive, ofWire?_toWire hwhole hshallow]
    exact congrArg Except.ok (correlated_eq_self hid fresh)
  refine ⟨fun e fresh words hid hparams => ?_,
    fun bs fresh fresh' words e hfresh hreceived hwhole => ?_⟩
  · exact hback e fresh words hid (fun f hf => (hparams f hf).1) fun f hf => (hparams f hf).2
  · rw [receive] at hreceived
    cases hwire : ofWire? bs with
    | none =>
      rw [hwire] at hreceived
      cases hreceived
    | some e₀ =>
      rw [hwire] at hreceived
      have hshallow := shallow_of_ofWire? hwire
      obtain rfl : e₀.correlated fresh = e := Except.ok.inj hreceived
      -- The correlation ID is the one that came, or the fresh one.
      by_cases hid : e₀.correlationId = ""
      · rw [correlated, if_pos hid] at hwhole ⊢
        exact hback _ fresh' words hfresh hwhole hshallow
      · rw [correlated_eq_self hid] at hwhole ⊢
        exact hback _ fresh' words hid hwhole hshallow

/-- Parameters with containers in containers and the greatest integer of 64 bits. -/
def nestedFields : List (String × Json) :=
  [("a", .list [.object [("k", .ofInt (-5))], .null]), ("b", .ofInt 18446744073709551615)]

theorem canonical_nestedFields : Json.Canonical (.object nestedFields) := by
  have hkeys : ("a" : String) < "b" := by decide
  have hascending : Json.Ascending nestedFields := by
    refine List.Pairwise.cons (fun f hf => ?_) (List.pairwise_singleton _ _)
    rwa [List.mem_singleton.mp hf]
  have hsmall : Json.Canonical (.ofInt (-5)) := by constructor <;> decide
  have hgreat : Json.Canonical (.ofInt 18446744073709551615) := by constructor <;> decide
  have hlist : Json.Canonical (.list [.object [("k", .ofInt (-5))], .null]) :=
    ⟨⟨List.pairwise_singleton _ _, hsmall, trivial⟩, trivial, trivial⟩
  exact ⟨hascending, hlist, hgreat, trivial⟩

/-- A message with a quote, a control character, octets that are no text, and nested parameters. -/
def nestedMessage : Envelope where
  receivedTopic := "a/\"b\"\x01"
  correlationId := "Ω"
  errorCode := -7
  payload := [0, 255]
  queryParams := ⟨nestedFields, canonical_nestedFields⟩

/-- The same message as another writer spells it: in another order, with blanks and escapes, and
with a field that no envelope has. -/
def nestedText : String :=
  "\x7b \"queryParams\" : \x7b\"b\":18446744073709551615, \"a\":[\x7b\"k\":-5\x7d,null]\x7d, \"hops\":1.5,
    \"payload\":\"AP8=\", \"errorCode\":-7, \"correlationID\":\"\\u03a9\",
    \"receivedTopic\":\"a\\/\\\"b\\\"\\u0001\"\x7d"

/-- Both spellings of the message are received, and what the second one gave is received again. -/
theorem nested_message_is_received :
    receive "fresh" nestedMessage.toWire = .ok nestedMessage ∧
      receive "fresh" (Utf8.encode nestedText) = .ok nestedMessage ∧
        receive "other" nestedMessage.toWire = .ok nestedMessage := by
  have hparams : ∀ f ∈ nestedMessage.queryParams.fields, Json.Whole f.2 ∧ Json.depth f.2 ≤ 125 := by
    simp [nestedMessage, nestedFields, Json.Whole, Json.WholeItems, Json.WholeFields, Json.ofInt,
      Json.depth, Json.depthValues, Json.depthMembers]
  have hwire : ofWire? (Utf8.encode nestedText) = some nestedMessage := by decide +kernel
  have hother : receive "fresh" (Utf8.encode nestedText) = .ok nestedMessage := by
    rw [receive, hwire]
    rfl
  exact ⟨receive_toWire.1 nestedMessage "fresh" {} (by decide) hparams, hother,
    receive_toWire.2 _ "fresh" "other" {} nestedMessage (by decide) hother
      fun f hf => (hparams f hf).1⟩

end Envelope

end CommandRelay
