import CommandRelay.Proofs.Catalogue.Pages

/-!
# What paging parameters mean

A query about all devices is told by two texts which devices to list.

1. **Texts** — a text spells an integer of 64 bits exactly if, without the blanks around it, it is a
   sign or none before decimal digits of that integer (`spells_iff`).
2. **Range** — an offset is not negative and a limit is not below -1.  Two numbers `InRange` make a
   page (`page_of_inRange`), and every page that is made comes from two of them (`inRange_of_asks`);
   whatever else the parameters are, they are `Refused`.
3. **Words** — between the numbers and the list stand conversions to words of 64 bits without a
   sign.  In range they change nothing (`window_of_words`).
4. **The theorem** — `paging_is_read_exactly`.
-/

namespace CommandRelay

/-! ## Texts -/

namespace Text

/-- The number that decimal digits denote, by the places in which they stand. -/
def placeValue (digits : List Char) : Nat :=
  Nat.ofDigits 10 (digits.reverse.map fun d => d.toNat - 48)

/-- A text without blanks around it: a sign, or none, and the digits of an integer. -/
def Denotes (cs : List Char) (n : Int) : Prop :=
  ∃ sign digits, cs = sign ++ digits ∧ digits ≠ [] ∧ (∀ d ∈ digits, d.isDigit = true) ∧
    ((sign = [] ∨ sign = ['+']) ∧ n = placeValue digits ∨ sign = ['-'] ∧ n = -placeValue digits)

/-- A numeral is a sign, or none, before digits, and its integer is that of the digits with the
sign. -/
theorem numeral_iff_denotes {cs : List Char} {n : Int} : Numeral cs n ↔ Denotes cs n := by
  constructor
  · intro h
    cases h with
    | plain hdigits =>
      exact ⟨[], _, rfl, hdigits.1, hdigits.2, .inl ⟨.inl rfl, by rw [ofDecimal_eq_ofDigits]; rfl⟩⟩
    | @plus ds hdigits =>
      exact ⟨['+'], ds, rfl, hdigits.1, hdigits.2,
        .inl ⟨.inr rfl, by rw [ofDecimal_eq_ofDigits]; rfl⟩⟩
    | @minus ds hdigits =>
      exact ⟨['-'], ds, rfl, hdigits.1, hdigits.2, .inr ⟨rfl, by rw [ofDecimal_eq_ofDigits]; rfl⟩⟩
  · rintro ⟨sign, digits, rfl, hne, hdigits, hsign⟩
    have hvalue : placeValue digits = ofDecimal digits := (ofDecimal_eq_ofDigits digits).symm
    rw [hvalue] at hsign
    rcases hsign with ⟨rfl | rfl, rfl⟩ | ⟨rfl, rfl⟩
    · exact .plain ⟨hne, hdigits⟩
    · exact .plus ⟨hne, hdigits⟩
    · exact .minus ⟨hne, hdigits⟩

end Text

namespace Paging

open Text

/-- A text spells an integer of 64 bits if it denotes it between its blanks. -/
theorem spells_iff {s : String} {n : Int} :
    Spells s n ↔ FitsSigned n ∧ Denotes (stripWhile isBlank s.toList) n := by
  rw [← numeral_iff_denotes]
  constructor
  · rintro ⟨htext, hfront, hback, hn, hfits⟩
    rw [htext, stripWhile_between hfront hn.not_isBlank hback]
    exact ⟨hfits, hn⟩
  · rintro ⟨hfits, hn⟩
    obtain ⟨front, back, htext, hfront, hback⟩ := stripWhile_splits isBlank s.toList
    exact .intro htext hfront hback hn hfits

/-! ## Range -/

variable {params : Params} {offset limit : Int}

/-- Parameters say an offset and a limit, or leave the default, and both are in range. -/
structure InRange (params : Params) (o l : Int) : Prop where
  offset : Given params "offset" 0 o
  limit : Given params "limit" (-1) l
  nonneg : 0 ≤ o
  least : -1 ≤ l

/-- The entries from an offset on, up to a limit unless that is -1. -/
def window {α : Type} (offset limit : Int) (entries : List α) : List α :=
  if limit = -1 then entries.drop offset.toNat else (entries.drop offset.toNat).take limit.toNat

/-- Two numbers in range make a page, and on it is their window. -/
theorem page_of_inRange (h : InRange params offset limit) : ∃ p, page params = .ok p ∧
    ∀ (α : Type) (entries : List α), p.of entries = window offset limit entries := by
  refine ⟨⟨offset.toNat, if limit = -1 then none else some limit.toNat⟩, ?_, fun α entries => ?_⟩
  · rw [page_of_given h.offset h.limit, if_neg (Int.not_lt.mpr h.nonneg),
      if_neg (Int.not_lt.mpr h.least)]
  · by_cases hnone : limit = -1
    · rw [window, if_pos hnone, if_pos hnone]
      rfl
    · rw [window, if_neg hnone, if_neg hnone]
      rfl

/-- Whatever asks for a page has both of its numbers in range. -/
theorem inRange_of_asks {p : Page} (h : Asks params p) :
    ∃ offset limit, InRange params offset limit := by
  cases h with
  | unlimited hoffset hlimit => exact ⟨_, _, hoffset, hlimit, Int.natCast_nonneg _, Int.le_refl _⟩
  | limited hoffset hlimit =>
    exact ⟨_, _, hoffset, hlimit, Int.natCast_nonneg _,
      Int.le_trans (by decide) (Int.natCast_nonneg _)⟩

theorem Refused.kind {f : Fault} (h : Refused params f) : f.kind = .validation := by
  cases h <;> rfl

/-- Where the text of the offset is at fault, that is the first fault. -/
theorem Refused.offset_first {f : Fault} (h : Refused params f) {v : Json}
    (hv : Garbled params "offset" v) : f = .parameterNotInteger "offset" v :=
  Except.error.inj ((page_of_refused h).symm.trans (page_of_refused (.offset hv)))

/-- A page is made from two parameters and no other. -/
theorem page_congr {params' : Params} (hoffset : params'.get? "offset" = params.get? "offset")
    (hlimit : params'.get? "limit" = params.get? "limit") : page params' = page params := by
  simp only [page, parameter, hoffset, hlimit]

/-! ## Words -/

/-- The word without a sign that is made of an offset: the same 64 bits. -/
def skipWord (offset : Int) : UInt64 := (Int64.ofInt offset).toUInt64

/-- The word without a sign that is made of a limit: the same 64 bits, or the greatest word if the
limit is negative. -/
def takeWord (limit : Int) : UInt64 :=
  if Int64.ofInt limit < 0 then -1 else (Int64.ofInt limit).toUInt64

/-- A parameter is an integer of 64 bits, as its default is. -/
theorem Given.fits {name : String} {default n : Int} (h : Given params name default n)
    (hdefault : FitsSigned default) : FitsSigned n := by
  cases h with
  | absent => exact hdefault
  | spelled _ hn => exact (spells_iff.mp hn).1

/-- The word that is made of an offset skips as many devices as the offset says. -/
theorem toNat_skipWord (hnonneg : 0 ≤ offset) (hfits : FitsSigned offset) :
    (skipWord offset).toNat = offset.toNat := by
  show (Int64.ofInt offset).toBitVec.toNat = _
  rw [Int64.toBitVec_ofInt, BitVec.toNat_ofInt, Int.emod_eq_of_lt hnonneg]
  have := hfits.2
  omega

/-- The word that is made of a limit takes as many devices as the limit says, or as many as there
can be. -/
theorem toNat_takeWord (hleast : -1 ≤ limit) (hfits : FitsSigned limit) :
    (takeWord limit).toNat = if limit = -1 then UInt64.size - 1 else limit.toNat := by
  have hneg : Int64.ofInt limit < 0 ↔ limit < 0 := by
    rw [Int64.lt_iff_toInt_lt, Int64.toInt_ofInt_of_le hfits.1 hfits.2]
    rfl
  -- A limit that is negative is -1, and becomes the greatest word.
  by_cases hnone : limit = -1
  · subst hnone
    rfl
  · have hnonneg : 0 ≤ limit := by omega
    rw [takeWord, if_neg fun h => absurd (hneg.mp h) (Int.not_lt.mpr hnonneg), if_neg hnone]
    exact toNat_skipWord hnonneg hfits

/-- What is skipped and taken by words is the window of the two numbers. -/
theorem window_of_words (h : InRange params offset limit) {α : Type} {entries : List α}
    (hlength : entries.length < UInt64.size) :
    (entries.drop (skipWord offset).toNat).take (takeWord limit).toNat =
      window offset limit entries := by
  rw [toNat_skipWord h.nonneg (h.offset.fits (by decide)),
    toNat_takeWord h.least (h.limit.fits (by decide)), window]
  by_cases hnone : limit = -1
  · -- No list is longer than the greatest word says.
    rw [if_pos hnone, if_pos hnone]
    refine List.take_of_length_le ?_
    rw [List.length_drop]
    omega
  · rw [if_neg hnone, if_neg hnone]

end Paging

/-! ## The theorem -/

namespace Catalogue

open Paging

variable (devices : Catalogue) (request : Envelope)

/-- **Paging parameters are read exactly.**  The text of a parameter spells an integer if it fits
into 64 bits with a sign and the text without the blanks around it is a sign, or none, before
decimal digits of the integer, however many.  A query about all devices is answered exactly if the
offset and the limit are each not there or spell an integer, and these or the defaults 0 and -1 are
in range.  The answer then reads as the window of exactly these integers, and the words of 64 bits
that are made of them skip and take the same devices.  In every other case the query fails its
validation, and for the offset if that is there and spells nothing.  No parameter but these two has
a say. -/
theorem paging_is_read_exactly :
    (∀ s n, Spells s n ↔
      Text.FitsSigned n ∧ Text.Denotes (Text.stripWhile Text.isBlank s.toList) n) ∧
    ((∃ response, query devices request Topic.allDevices = .ok response) ↔
      ∃ offset limit, InRange request.queryParams offset limit) ∧
    (∀ offset limit, InRange request.queryParams offset limit →
      (∃ response, query devices request Topic.allDevices = .ok response ∧
        Roll.read? response.payload =
          some ⟨devices.length, (window offset limit devices).map Device.entry⟩) ∧
      ((skipWord offset).toNat : Int) = offset ∧
      (0 ≤ limit → ((takeWord limit).toNat : Int) = limit) ∧
      (devices.length < UInt64.size →
        (devices.drop (skipWord offset).toNat).take (takeWord limit).toNat =
          window offset limit devices)) ∧
    ((¬ ∃ offset limit, InRange request.queryParams offset limit) →
      ∃ f, query devices request Topic.allDevices = .error f ∧ f.kind = .validation ∧
        Refused request.queryParams f ∧
        ∀ v, Garbled request.queryParams "offset" v → f = .parameterNotInteger "offset" v) ∧
    ∀ params : Params, params.get? "offset" = request.queryParams.get? "offset" →
      params.get? "limit" = request.queryParams.get? "limit" →
      query devices { request with queryParams := params } Topic.allDevices =
        query devices request Topic.allDevices := by
  -- Offset and limit in range make a page, and its window is the one that is read back.
  have hanswered : ∀ offset limit, InRange request.queryParams offset limit →
      ∃ response, query devices request Topic.allDevices = .ok response ∧
        Roll.read? response.payload =
          some ⟨devices.length, (window offset limit devices).map Device.entry⟩ := by
    intro offset limit hrange
    obtain ⟨p, hpage, hwindow⟩ := page_of_inRange hrange
    rw [← hwindow]
    exact read?_of_asks (page_eq_ok_iff.mp hpage)
  refine ⟨fun s n => spells_iff, ⟨?_, ?_⟩,
    fun offset limit hrange => ⟨hanswered offset limit hrange, ?_, fun hlimit => ?_, ?_⟩,
    fun hnone => ?_, fun params hoffset hlimit => ?_⟩
  · rintro ⟨response, hresponse⟩
    obtain ⟨p, hasks, -⟩ := asks_of_query hresponse
    exact inRange_of_asks hasks
  · rintro ⟨offset, limit, hrange⟩
    obtain ⟨response, hresponse, -⟩ := hanswered _ _ hrange
    exact ⟨response, hresponse⟩
  · rw [toNat_skipWord hrange.nonneg (hrange.offset.fits (by decide))]
    exact Int.toNat_of_nonneg hrange.nonneg
  · have hsome : ¬ limit = -1 := by omega
    rw [toNat_takeWord hrange.least (hrange.limit.fits (by decide)), if_neg hsome]
    exact Int.toNat_of_nonneg hlimit
  · exact window_of_words hrange
  · -- The parameters ask for a page or one of them is refused; there is no third case.
    rcases asks_or_refused request.queryParams with ⟨p, hasks⟩ | ⟨f, hrefused⟩
    · exact absurd (inRange_of_asks hasks) hnone
    · refine ⟨f, ?_, hrefused.kind, hrefused, fun v hv => hrefused.offset_first hv⟩
      rw [query_all, page_of_refused hrefused]
      rfl
  · rw [query_all, query_all, page_congr hoffset hlimit]
    rfl

/-- Parameters that ask for all devices but the first one, with blanks, a sign and leading zeros. -/
def padded : Params :=
  ⟨[("limit", .text "-0001"), ("offset", .text "\u2003+00000000000000000000001 ")],
    List.pairwise_pair.mpr (show "limit" < "offset" by decide), trivial, trivial, trivial⟩

/-- The same with one parameter more. -/
def paddedAndMore : Params :=
  ⟨[("limit", .text "-0001"), ("offset", .text "\u2003+00000000000000000000001 "),
  ("page", .bool true)],
    List.pairwise_cons.mpr ⟨by decide, List.pairwise_pair.mpr (show "offset" < "page" by decide)⟩,
    trivial, trivial, trivial, trivial⟩

/-- Parameters with the first offset that does not fit, and a limit that is no text. -/
def tooGreat : Params :=
  ⟨[("limit", .bool true), ("offset", .text "9223372036854775808")],
    List.pairwise_pair.mpr (show "limit" < "offset" by decide), trivial, trivial, trivial⟩

/-- The theorem for the workshop: all but the mill are listed for the padded parameters, with or
without one more, and the offset that is too great is what a query fails for. -/
theorem padded_offset_is_read :
    InRange padded 1 (-1) ∧ workshop.length < UInt64.size ∧
    (∃ response, query workshop { queryParams := padded } Topic.allDevices = .ok response ∧
      Roll.read? response.payload = some ⟨3, workshop.tail.map Device.entry⟩) ∧
    (workshop.drop (skipWord 1).toNat).take (takeWord (-1)).toNat = workshop.tail ∧
    query workshop { queryParams := paddedAndMore } Topic.allDevices =
      query workshop { queryParams := padded } Topic.allDevices ∧
    (¬ ∃ offset limit, InRange tooGreat offset limit) ∧
    query workshop { queryParams := tooGreat } Topic.allDevices =
      .error (.parameterNotInteger "offset" (.text "9223372036854775808")) := by
  have hrange : InRange padded 1 (-1) :=
    ⟨parameter_eq_ok_iff.mp (by decide), parameter_eq_ok_iff.mp (by decide), by decide, by decide⟩
  have hlength : workshop.length < UInt64.size := by decide
  have hgarbled : Garbled tooGreat "offset" (.text "9223372036854775808") := by
    refine ⟨rfl, fun s n hs hn => ?_⟩
    obtain rfl := Json.text.inj hs
    have hread : integer? "9223372036854775808" = none := by decide
    exact absurd (hread.symm.trans (integer?_eq_some_iff.mpr hn)) (Option.some_ne_none n).symm
  -- The offset spells no integer of 64 bits, so it is in no range.
  have hnone : ¬ ∃ offset limit, InRange tooGreat offset limit := by
    rintro ⟨offset, limit, hoffset, -⟩
    have hread := (parameter_eq_ok_iff.mpr hoffset).symm.trans
      (parameter_eq_error_iff.mpr ⟨_, hgarbled, rfl⟩)
    cases hread
  obtain ⟨-, -, hanswered, -, hmore⟩ := paging_is_read_exactly workshop { queryParams := padded }
  obtain ⟨-, -, -, hfails, -⟩ := paging_is_read_exactly workshop { queryParams := tooGreat }
  obtain ⟨hanswer, -, -, hwords⟩ := hanswered 1 (-1) hrange
  obtain ⟨f, hf, -, -, hfirst⟩ := hfails hnone
  rw [hfirst _ hgarbled] at hf
  exact ⟨hrange, hlength, hanswer, hwords hlength, hmore paddedAndMore (by decide) (by decide),
    hnone, hf⟩

end Catalogue

end CommandRelay
