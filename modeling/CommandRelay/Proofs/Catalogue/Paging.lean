import CommandRelay.Catalogue.Paging
import CommandRelay.Proofs.Text.Numerals
import CommandRelay.Proofs.Text.Trimming

/-!
# Which page a query asks for

An offset and a limit are texts.  What each of them says is told here by what it looks like, and
what a query asks for by what the two say; the readers are shown to agree.

1. **Numbers** — a text `Spells` an integer if it is a numeral between blanks and the integer fits
   into 64 bits (`integer?_eq_some_iff`).
2. **Parameters** — `Given` is what a parameter says, a default included; `Garbled` is one that says
   nothing (`parameter_eq_ok_iff`, `parameter_eq_error_iff`).
3. **Pages** — `Asks` and `Refused` share out all parameters among pages and first faults
   (`page_eq_ok_iff`, `page_eq_error_iff`).
-/

namespace CommandRelay

namespace Paging

open Text

/-! ## Numbers -/

/-- A text spells a 64-bit integer: its numeral stands between blanks. -/
inductive Spells (s : String) : Int → Prop
  | intro {front numeral back : List Char} {n : Int} (text : s.toList = front ++ numeral ++ back)
      (hfront : ∀ c ∈ front, isBlank c = true) (hback : ∀ c ∈ back, isBlank c = true)
      (hn : Numeral numeral n) (fits : FitsSigned n) : Spells s n

/-- Reading an integer finds what the text spells, and only that. -/
theorem integer?_eq_some_iff {s : String} {n : Int} : integer? s = some n ↔ Spells s n := by
  constructor
  · intro h
    unfold integer? at h
    split at h
    · rename_i m hm
      split at h
      · rename_i hfits
        obtain rfl := Option.some.inj h
        obtain ⟨front, back, htext, hfront, hback⟩ := stripWhile_splits isBlank s.toList
        exact .intro htext hfront hback (signed?_eq_some_iff.mp hm) hfits
      · cases h
    · cases h
  · rintro ⟨htext, hfront, hback, hn, hfits⟩
    unfold integer?
    rw [htext, stripWhile_between hfront hn.not_isBlank hback, signed?_eq_some_iff.mpr hn]
    exact if_pos hfits

/-! ## What the parameters say -/

/-- A parameter says a number: it spells it, or it is not there and the number is its default. -/
inductive Given (params : Params) (name : String) (default : Int) : Int → Prop
  | absent (h : params.get? name = none) : Given params name default default
  | spelled {s : String} {n : Int} (h : params.get? name = some (.text s)) (hn : Spells s n) :
      Given params name default n

/-- A parameter is there and spells no number. -/
def Garbled (params : Params) (name : String) (v : Json) : Prop :=
  params.get? name = some v ∧ ∀ s n, v = .text s → ¬ Spells s n

variable {params : Params} {name : String} {default n : Int}

theorem asText?_eq_some_iff {v : Json} {s : String} : v.asText? = some s ↔ v = .text s := by
  cases v <;> simp [Json.asText?]

/-- A parameter is read as what it is given as, or as its default where it is not given. -/
theorem parameter_eq_ok_iff : parameter params name default = .ok n ↔
    Given params name default n := by
  constructor
  · intro h
    unfold parameter at h
    split at h
    · rename_i hnone
      obtain rfl := Except.ok.inj h
      exact .absent hnone
    · rename_i v hv
      split at h
      · rename_i m hm
        obtain rfl := Except.ok.inj h
        obtain ⟨s, hs, hspells⟩ := Option.bind_eq_some_iff.mp hm
        obtain rfl := asText?_eq_some_iff.mp hs
        exact .spelled hv (integer?_eq_some_iff.mp hspells)
      · cases h
  · intro h
    unfold parameter
    cases h with
    | absent hnone => rw [hnone]
    | spelled hv hn =>
      have hread : (Json.text _).asText?.bind integer? = some n := integer?_eq_some_iff.mpr hn
      simp only [hv, hread]

/-- A parameter says one number. -/
theorem Given.unique {m : Int} (h : Given params name default n)
    (h' : Given params name default m) : n = m :=
  Except.ok.inj ((parameter_eq_ok_iff.mpr h).symm.trans (parameter_eq_ok_iff.mpr h'))

/-- Reading a parameter fails with the value that spells nothing. -/
theorem parameter_eq_error_iff {f : Fault} : parameter params name default = .error f ↔
    ∃ v, Garbled params name v ∧ f = .parameterNotInteger name v := by
  constructor
  · intro h
    unfold parameter at h
    split at h
    · cases h
    · rename_i v hv
      split at h
      · cases h
      · rename_i hnone
        refine ⟨v, ⟨hv, ?_⟩, (Except.error.inj h).symm⟩
        rintro s m rfl hspells
        have hread : (Json.text s).asText?.bind integer? = some m :=
          integer?_eq_some_iff.mpr hspells
        rw [hread] at hnone
        cases hnone
  · rintro ⟨v, ⟨hv, hnot⟩, rfl⟩
    unfold parameter
    cases hread : v.asText?.bind integer? with
    | none => simp only [hv, hread]
    | some m =>
      obtain ⟨s, hs, hspells⟩ := Option.bind_eq_some_iff.mp hread
      exact absurd (integer?_eq_some_iff.mp hspells) (hnot s m (asText?_eq_some_iff.mp hs))

/-! ## What a query asks for -/

/-- Parameters ask for a page: an offset that is not negative, and a limit that is not either or is
-1 and counts as none. -/
inductive Asks (params : Params) : Page → Prop
  | unlimited {offset : Nat} (hoffset : Given params "offset" 0 offset)
      (hlimit : Given params "limit" (-1) (-1)) : Asks params ⟨offset, none⟩
  | limited {offset limit : Nat} (hoffset : Given params "offset" 0 offset)
      (hlimit : Given params "limit" (-1) limit) : Asks params ⟨offset, some limit⟩

/-- The first fault of parameters: both are read, the offset first, before their sizes are looked
at. -/
inductive Refused (params : Params) : Fault → Prop
  | offset {v : Json} (h : Garbled params "offset" v) :
      Refused params (.parameterNotInteger "offset" v)
  | limit {offset : Int} {v : Json} (hoffset : Given params "offset" 0 offset)
      (h : Garbled params "limit" v) : Refused params (.parameterNotInteger "limit" v)
  | negative {offset limit : Int} (hoffset : Given params "offset" 0 offset)
      (hlimit : Given params "limit" (-1) limit) (h : offset < 0) :
      Refused params (.negativeOffset offset)
  | tooSmall {offset limit : Int} (hoffset : Given params "offset" 0 offset)
      (hlimit : Given params "limit" (-1) limit) (hnonneg : 0 ≤ offset) (h : limit < -1) :
      Refused params (.limitTooSmall limit)

/-- Two parameters that say a number each are looked at for their sizes. -/
theorem page_of_given {offset limit : Int} (hoffset : Given params "offset" 0 offset)
    (hlimit : Given params "limit" (-1) limit) : page params =
      if offset < 0 then .error (.negativeOffset offset)
      else if limit < -1 then .error (.limitTooSmall limit)
      else .ok ⟨offset.toNat, if limit = -1 then none else some limit.toNat⟩ := by
  unfold page
  rw [parameter_eq_ok_iff.mpr hoffset, parameter_eq_ok_iff.mpr hlimit]
  rfl

/-- Parameters that ask for a page get that page. -/
theorem page_of_asks {p : Page} (h : Asks params p) : page params = .ok p := by
  cases h with
  | @unlimited offset hoffset hlimit =>
    have hnonneg : ¬ (offset : Int) < 0 := by omega
    have hlarge : ¬ (-1 : Int) < -1 := by omega
    rw [page_of_given hoffset hlimit, if_neg hnonneg, if_neg hlarge, if_pos rfl, Int.toNat_natCast]
  | @limited offset limit hoffset hlimit =>
    have hnonneg : ¬ (offset : Int) < 0 := by omega
    have hlarge : ¬ (limit : Int) < -1 := by omega
    have hsome : ¬ (limit : Int) = -1 := by omega
    rw [page_of_given hoffset hlimit, if_neg hnonneg, if_neg hlarge, if_neg hsome,
      Int.toNat_natCast, Int.toNat_natCast]

/-- Parameters that are refused get the fault that they are refused with. -/
theorem page_of_refused {f : Fault} (h : Refused params f) : page params = .error f := by
  cases h with
  | offset hv =>
    unfold page
    rw [parameter_eq_error_iff.mpr ⟨_, hv, rfl⟩]
    rfl
  | limit hoffset hv =>
    unfold page
    rw [parameter_eq_ok_iff.mpr hoffset, parameter_eq_error_iff.mpr ⟨_, hv, rfl⟩]
    rfl
  | negative hoffset hlimit hneg => rw [page_of_given hoffset hlimit, if_pos hneg]
  | tooSmall hoffset hlimit hnonneg hsmall =>
    rw [page_of_given hoffset hlimit, if_neg (Int.not_lt.mpr hnonneg), if_pos hsmall]

/-- Parameters ask for a page or have a first fault. -/
theorem asks_or_refused (params : Params) : (∃ p, Asks params p) ∨ ∃ f, Refused params f := by
  cases hoffset : parameter params "offset" 0 with
  | error f =>
    obtain ⟨v, hv, -⟩ := parameter_eq_error_iff.mp hoffset
    exact .inr ⟨_, .offset hv⟩
  | ok offset =>
    rw [parameter_eq_ok_iff] at hoffset
    cases hlimit : parameter params "limit" (-1) with
    | error f =>
      obtain ⟨v, hv, -⟩ := parameter_eq_error_iff.mp hlimit
      exact .inr ⟨_, .limit hoffset hv⟩
    | ok limit =>
      rw [parameter_eq_ok_iff] at hlimit
      by_cases hneg : offset < 0
      · exact .inr ⟨_, .negative hoffset hlimit hneg⟩
      obtain ⟨o, rfl⟩ := Int.eq_ofNat_of_zero_le (Int.not_lt.mp hneg)
      by_cases hsmall : limit < -1
      · exact .inr ⟨_, .tooSmall hoffset hlimit (Int.not_lt.mp hneg) hsmall⟩
      by_cases hnone : limit = -1
      · subst hnone
        exact .inl ⟨_, .unlimited hoffset hlimit⟩
      · obtain ⟨l, rfl⟩ := Int.eq_ofNat_of_zero_le (show 0 ≤ limit by omega)
        exact .inl ⟨_, .limited hoffset hlimit⟩

/-- Parameters come to a page exactly if they ask for it. -/
theorem page_eq_ok_iff {p : Page} : page params = .ok p ↔ Asks params p := by
  constructor
  · intro h
    rcases asks_or_refused params with ⟨p', hasks⟩ | ⟨f, hrefused⟩
    · rw [page_of_asks hasks] at h
      rwa [← Except.ok.inj h]
    · rw [page_of_refused hrefused] at h
      cases h
  · exact page_of_asks

/-- Parameters come to a fault exactly if they are refused with it. -/
theorem page_eq_error_iff {f : Fault} : page params = .error f ↔ Refused params f := by
  constructor
  · intro h
    rcases asks_or_refused params with ⟨p, hasks⟩ | ⟨f', hrefused⟩
    · rw [page_of_asks hasks] at h
      cases h
    · rw [page_of_refused hrefused] at h
      rwa [← Except.error.inj h]
  · exact page_of_refused

end Paging

end CommandRelay
