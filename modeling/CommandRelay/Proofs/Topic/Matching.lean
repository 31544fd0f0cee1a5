import CommandRelay.Proofs.Topic.Joining
import CommandRelay.Topic.Filter

/-!
# What a filter matches

Matching goes through two lists of levels in step.  What it finds can be told by looking at the
levels one by one.

1. **Fitting levels** — `Fits` for two levels, `FitsBefore` for those up to a place, told by their
   numbers (`fitsBefore_iff`).
2. **`matchLevels_append`** — the levels in front of a `#` take up as many levels of the topic, and
   what stands behind them goes on with the rest.
3. **Filters of both kinds** — `matchLevels_iff_forall₂` without a `#`, `matchLevels_hash_iff` with
   one; `matchLevels_iff` tells both by the place of the first `#`.
4. **The theorem** — `accepts_iff_levels_fit`.
-/

namespace CommandRelay.Topic

/-! ## Fitting levels -/

/-- A level of a filter fits a level of a topic. -/
def Fits (f t : String) : Prop := f = "+" ∨ f = t

instance (f t : String) : Decidable (Fits f t) := inferInstanceAs (Decidable (_ ∨ _))

/-- The first `k` levels of a filter fit the first `k` levels of a topic. -/
def FitsBefore (k : Nat) (filter topic : List String) : Prop :=
  ∀ i < k, ∃ f t, filter[i]? = some f ∧ topic[i]? = some t ∧ Fits f t

variable {front back filter topic : List String}

/-- Levels fit by their numbers as they fit in step. -/
theorem fitsBefore_iff : FitsBefore front.length (front ++ back) topic ↔
    ∃ ys zs, topic = ys ++ zs ∧ List.Forall₂ Fits front ys := by
  induction front generalizing topic with
  | nil => exact iff_of_true nofun ⟨[], topic, rfl, .nil⟩
  | cons f fs ih =>
    constructor
    · intro h
      obtain ⟨f', t, hf, ht, hfits⟩ := h 0 (Nat.succ_pos _)
      obtain rfl := Option.some.inj hf
      cases topic with
      | nil => cases ht
      | cons t' ts =>
        obtain rfl := Option.some.inj ht
        obtain ⟨ys, zs, rfl, hys⟩ := ih.mp fun i hi => h (i + 1) (Nat.succ_lt_succ hi)
        exact ⟨t' :: ys, zs, rfl, .cons hfits hys⟩
    · rintro ⟨_, zs, rfl, hys⟩ i hi
      cases hys with
      | @cons _ t _ ys hfits hys =>
        cases i with
        | zero => exact ⟨f, t, rfl, rfl, hfits⟩
        | succ i => exact ih.mpr ⟨ys, zs, rfl, hys⟩ i (Nat.lt_of_succ_lt_succ hi)

/-- Levels fit one by one exactly if they are as many and fit up to the end. -/
theorem forall₂_fits_iff_fitsBefore : List.Forall₂ Fits filter topic ↔
    filter.length = topic.length ∧ FitsBefore filter.length filter topic := by
  have hbefore : FitsBefore filter.length (filter ++ []) topic ↔ _ := fitsBefore_iff
  rw [List.append_nil] at hbefore
  rw [hbefore]
  constructor
  · exact fun h => ⟨h.length_eq, topic, [], (List.append_nil topic).symm, h⟩
  · rintro ⟨hlength, ys, zs, rfl, hys⟩
    have hzs : zs = [] := by
      rw [List.length_append, hys.length_eq] at hlength
      exact List.length_eq_zero_iff.mp (by omega)
    rwa [hzs, List.append_nil]

/-- Levels without a wildcard fit themselves only. -/
theorem forall₂_fits_iff (h : "+" ∉ front) {ys : List String} :
    List.Forall₂ Fits front ys ↔ ys = front := by
  induction front generalizing ys with
  | nil => exact List.forall₂_nil_left_iff
  | cons f fs ih =>
    obtain ⟨hf, hfs⟩ := not_or.mp (List.mem_cons.not.mp h)
    rw [List.forall₂_cons_left_iff]
    constructor
    · rintro ⟨t, ts, hplus | rfl, hrest, rfl⟩
      · exact absurd hplus.symm hf
      · rw [(ih hfs).mp hrest]
    · rintro rfl
      exact ⟨f, fs, .inr rfl, (ih hfs).mpr rfl, rfl⟩

/-! ## Matching in step -/

/-- The levels in front of a `#` take up as many levels of the topic. -/
theorem matchLevels_append (h : "#" ∉ front) : matchLevels (front ++ back) topic = true ↔
    ∃ ys zs, topic = ys ++ zs ∧ List.Forall₂ Fits front ys ∧ matchLevels back zs = true := by
  -- By induction along the levels in front: none of them is a `#`, so each takes up one level.
  induction front generalizing topic with
  | nil =>
    constructor
    · exact fun hmatch => ⟨[], topic, rfl, .nil, hmatch⟩
    · rintro ⟨ys, zs, rfl, hys, hmatch⟩
      cases hys
      exact hmatch
  | cons f fs ih =>
    obtain ⟨hf, hfs⟩ := not_or.mp (List.mem_cons.not.mp h)
    have hhash : (f == "#") = false := beq_eq_false_iff_ne.mpr (Ne.symm hf)
    cases topic with
    | nil =>
      rw [List.cons_append, matchLevels, hhash]
      refine iff_of_false Bool.false_ne_true ?_
      rintro ⟨ys, zs, hnil, hys, -⟩
      obtain ⟨rfl, -⟩ := List.append_eq_nil_iff.mp hnil.symm
      cases hys
    | cons t ts =>
      have hfits : (f == "+" || f == t) = true ↔ Fits f t := by
        rw [Bool.or_eq_true, beq_iff_eq, beq_iff_eq, Fits]
      rw [List.cons_append, matchLevels, hhash, Bool.false_or, Bool.and_eq_true, hfits, ih hfs]
      constructor
      · rintro ⟨hfirst, ys, zs, rfl, hys, hmatch⟩
        exact ⟨t :: ys, zs, rfl, .cons hfirst hys, hmatch⟩
      · rintro ⟨_, zs, hsplit, hys, hmatch⟩
        cases hys with
        | cons hfirst hys =>
          obtain ⟨rfl, rfl⟩ := List.cons.inj hsplit
          exact ⟨hfirst, _, zs, rfl, hys, hmatch⟩

/-- A filter without levels matches a topic without levels only. -/
theorem matchLevels_nil : matchLevels [] topic = true ↔ topic = [] := by
  cases topic with
  | nil => exact iff_of_true rfl rfl
  | cons t ts => exact iff_of_false Bool.false_ne_true (List.cons_ne_nil t ts)

/-- A `#` takes whatever is left. -/
theorem matchLevels_hash (rest topic : List String) : matchLevels ("#" :: rest) topic = true := by
  cases topic with
  | nil => rfl
  | cons t ts => rfl

/-- Without a `#` each level takes up one level of the topic, and none is left. -/
theorem matchLevels_iff_forall₂ (h : "#" ∉ filter) :
    matchLevels filter topic = true ↔ List.Forall₂ Fits filter topic := by
  have happend : matchLevels (filter ++ []) topic = true ↔ _ := matchLevels_append h
  rw [List.append_nil] at happend
  rw [happend]
  constructor
  · rintro ⟨ys, zs, rfl, hys, hnil⟩
    rwa [matchLevels_nil.mp hnil, List.append_nil]
  · exact fun htopic => ⟨topic, [], (List.append_nil topic).symm, htopic, rfl⟩

/-- Behind the levels in front of its first `#` a filter matches anything. -/
theorem matchLevels_hash_iff (h : "#" ∉ front) (rest : List String) :
    matchLevels (front ++ "#" :: rest) topic = true ↔
      ∃ ys zs, topic = ys ++ zs ∧ List.Forall₂ Fits front ys := by
  rw [matchLevels_append h]
  simp only [matchLevels_hash, and_true]

/-- The place of the first `#` is where the levels without one end. -/
theorem first_hash_iff {k : Nat} :
    (filter[k]? = some "#" ∧ ∀ i < k, filter[i]? ≠ some "#") ↔
      ∃ front rest, filter = front ++ "#" :: rest ∧ "#" ∉ front ∧ front.length = k := by
  constructor
  · rintro ⟨hk, hbefore⟩
    obtain ⟨hlt, hhash⟩ := List.getElem?_eq_some_iff.mp hk
    refine ⟨filter.take k, filter.drop (k + 1), ?_, fun hmem => ?_, List.length_take_of_le hlt.le⟩
    · rw [← hhash, ← List.drop_eq_getElem_cons hlt, List.take_append_drop]
    · obtain ⟨i, hi⟩ := List.mem_iff_getElem?.mp hmem
      rw [List.getElem?_take] at hi
      split at hi
      · rename_i hik
        exact hbefore i hik hi
      · cases hi
  · rintro ⟨front, rest, rfl, hfront, rfl⟩
    refine ⟨by simp, fun i hi heq => hfront ?_⟩
    rw [List.getElem?_append_left hi] at heq
    exact List.mem_of_getElem? heq

/-- Matching is told by the numbers of the levels. -/
theorem matchLevels_iff : matchLevels filter topic = true ↔
    ("#" ∉ filter ∧ filter.length = topic.length ∧ FitsBefore filter.length filter topic) ∨
    ∃ k, filter[k]? = some "#" ∧ (∀ i < k, filter[i]? ≠ some "#") ∧
      k ≤ topic.length ∧ FitsBefore k filter topic := by
  -- Either there is a first `#`, and what is in front of it counts, or all levels count.
  by_cases hhash : "#" ∈ filter
  · obtain ⟨front, rest, rfl, hfront⟩ := List.eq_append_cons_of_mem hhash
    rw [matchLevels_hash_iff hfront, ← @fitsBefore_iff front ("#" :: rest)]
    obtain ⟨hk, hbefore⟩ := first_hash_iff.mpr ⟨front, rest, rfl, hfront, rfl⟩
    constructor
    · intro h
      obtain ⟨ys, zs, htopic, hys⟩ := fitsBefore_iff.mp h
      refine .inr ⟨front.length, hk, hbefore, ?_, h⟩
      rw [htopic, List.length_append, hys.length_eq]
      exact Nat.le_add_right _ _
    · rintro (⟨hnone, -⟩ | ⟨k, hk', hbefore', -, h⟩)
      · exact absurd hhash hnone
      · -- There is only one first place.
        have hle : ¬ front.length < k := fun hlt => hbefore' _ hlt hk
        have hge : ¬ k < front.length := fun hlt => hbefore _ hlt hk'
        rwa [show front.length = k by omega]
  · rw [matchLevels_iff_forall₂ hhash, forall₂_fits_iff_fitsBefore]
    constructor
    · exact fun h => .inl ⟨hhash, h⟩
    · rintro (⟨-, h⟩ | ⟨k, hk, -⟩)
      · exact h
      · exact absurd (List.mem_of_getElem? hk) hhash

/-- A `+` takes up one level. -/
theorem matchLevels_plus_iff (h : "#" ∉ front) :
    matchLevels (front ++ "+" :: back) topic = true ↔ ∃ ys level zs, topic = ys ++ level :: zs ∧
      List.Forall₂ Fits front ys ∧ matchLevels back zs = true := by
  rw [matchLevels_append h]
  constructor
  · rintro ⟨ys, rest, rfl, hys, hrest⟩
    cases rest with
    | nil => cases hrest
    | cons level zs =>
      have hzs : matchLevels back zs = true := by simpa [matchLevels] using hrest
      exact ⟨ys, level, zs, rfl, hys, hzs⟩
  · rintro ⟨ys, level, zs, rfl, hys, hzs⟩
    exact ⟨ys, level :: zs, rfl, hys, by simp [matchLevels, hzs]⟩

/-! ## Filters on topics -/

/-- What stands below a topic, or is the topic. -/
theorem exists_levels_append_iff {base topic : String} :
    (∃ zs, levels topic = levels base ++ zs) ↔
      topic = base ∨ ∃ tail, topic = base ++ "/" ++ tail := by
  constructor
  · rintro ⟨zs, hlevels⟩
    rw [← ofLevels_levels topic, hlevels]
    by_cases hzs : zs = []
    · rw [hzs, List.append_nil, ofLevels_levels]
      exact .inl rfl
    · rw [ofLevels_append (levels_ne_nil base) hzs, ofLevels_levels]
      exact .inr ⟨_, rfl⟩
  · rintro (rfl | ⟨tail, rfl⟩)
    · exact ⟨[], (List.append_nil _).symm⟩
    · exact ⟨_, levels_append_slash base tail⟩

/-- A filter with a `#` behind it matches what begins with its own levels, wildcards among them. -/
theorem matchLevels_append_hash (ls rest : List String) :
    matchLevels (ls ++ ["#"]) (ls ++ rest) = true := by
  induction ls with
  | nil => exact matchLevels_hash [] rest
  | cons l ls ih =>
    rw [List.cons_append, List.cons_append, matchLevels, ih]
    simp

theorem levels_append_hash (base : String) : levels (base ++ "/#") = levels base ++ ["#"] := by
  have hsplit : base ++ "/#" = base ++ "/" ++ "#" := by rw [String.append_assoc]; rfl
  rw [hsplit, levels_append_slash, levels_of_notMem (by decide : '/' ∉ "#".toList)]

/-- A filter for all below a topic lets in the topic and what is below it. -/
theorem accepts_append_hash {base topic : String}
    (h : topic = base ∨ ∃ tail, topic = base ++ "/" ++ tail) :
    accepts (base ++ "/#") topic = true := by
  obtain ⟨zs, hlevels⟩ := exists_levels_append_iff.mpr h
  rw [accepts, levels_append_hash, hlevels]
  exact matchLevels_append_hash (levels base) zs

/-- Without wildcards a filter with a `#` behind it matches nothing else. -/
theorem accepts_append_hash_iff {base topic : String} (hplus : "+" ∉ levels base)
    (hhash : "#" ∉ levels base) : accepts (base ++ "/#") topic = true ↔
      topic = base ∨ ∃ tail, topic = base ++ "/" ++ tail := by
  rw [← exists_levels_append_iff, accepts, levels_append_hash, matchLevels_hash_iff hhash]
  constructor
  · rintro ⟨ys, zs, htopic, hys⟩
    exact ⟨zs, by rw [htopic, (forall₂_fits_iff hplus).mp hys]⟩
  · rintro ⟨zs, htopic⟩
    exact ⟨levels base, zs, htopic, (forall₂_fits_iff hplus).mpr rfl⟩

/-! ## The theorem -/

/-- **A filter matches what its levels say.**  Without a `#` it has as many levels as the topic, and
each is a `+` or the level of the topic.  With one, this goes for the levels in front of the first
`#`, and the topic has as many at least.  So a `+` takes up one level of the topic, whichever it is:
those in front of it and those behind it are matched as if the two were not there.  A topic with
`/#` behind it matches that topic and all below it; and nothing else if it has no wildcard, least of
all a topic that goes on with something other than a slash. -/
theorem accepts_iff_levels_fit (filter topic : String) :
    (accepts filter topic = true ↔
      ("#" ∉ levels filter ∧ (levels filter).length = (levels topic).length ∧
        FitsBefore (levels filter).length (levels filter) (levels topic)) ∨
      ∃ k, (levels filter)[k]? = some "#" ∧ (∀ i < k, (levels filter)[i]? ≠ some "#") ∧
        k ≤ (levels topic).length ∧ FitsBefore k (levels filter) (levels topic)) ∧
    (∀ front back, levels filter = front ++ "+" :: back → "#" ∉ front →
      (accepts filter topic = true ↔ ∃ ys level zs, levels topic = ys ++ level :: zs ∧
        List.Forall₂ Fits front ys ∧ matchLevels back zs = true)) ∧
    accepts (filter ++ "/#") filter = true ∧
    (∀ tail, accepts (filter ++ "/#") (filter ++ "/" ++ tail) = true) ∧
    ("+" ∉ levels filter → "#" ∉ levels filter →
      (accepts (filter ++ "/#") topic = true ↔
        topic = filter ∨ ∃ tail, topic = filter ++ "/" ++ tail) ∧
      ∀ tail : String, accepts (filter ++ "/#") (filter ++ tail) = true →
        tail = "" ∨ tail.toList.head? = some '/') := by
  refine ⟨matchLevels_iff, fun front back hfilter hfront => ?_, accepts_append_hash (.inl rfl),
    fun tail => accepts_append_hash (.inr ⟨tail, rfl⟩), fun hplus hhash =>
      ⟨accepts_append_hash_iff hplus hhash, fun tail hmatch => ?_⟩⟩
  · rw [accepts, hfilter]
    exact matchLevels_plus_iff hfront
  · -- The tail is what is behind the filter, so it is empty or begins with the slash.
    rcases (accepts_append_hash_iff hplus hhash).mp hmatch with hsame | ⟨rest, hbelow⟩
    · left
      have hlength := congrArg String.length hsame
      rw [String.length_append] at hlength
      exact String.length_eq_zero_iff.mp (by omega)
    · right
      rw [String.append_assoc, String.append_right_inj] at hbelow
      rw [hbelow, String.toList_append]
      rfl

/-- A place in a shop, whatever its shop is called. -/
def anyPress : String := "site/+/press"

/-- The theorem for this filter, which a shop without a name fits, and for the shop `site` and all
that is in it, which `sites` is not. -/
theorem nameless_shop_is_any_shop :
    (levels anyPress = ["site"] ++ "+" :: ["press"] ∧ "#" ∉ ["site"] ∧
      accepts anyPress "site//press" = true ∧ accepts anyPress "site/press" = false) ∧
    ("+" ∉ levels "site" ∧ "#" ∉ levels "site" ∧ accepts "site/#" "site" = true ∧
      accepts "site/#" "site//press" = true ∧ accepts "site/#" "sites/press" = false) := by
  have hlevels : levels anyPress = ["site"] ++ "+" :: ["press"] := by decide
  have hfront : "#" ∉ ["site"] := by decide
  have hwild : "+" ∉ levels "site" ∧ "#" ∉ levels "site" := by decide
  obtain ⟨-, hplus, -⟩ := accepts_iff_levels_fit anyPress "site//press"
  obtain ⟨-, hplus', -⟩ := accepts_iff_levels_fit anyPress "site/press"
  obtain ⟨-, -, hself, hbelow, hothers⟩ := accepts_iff_levels_fit "site" "sites/press"
  obtain ⟨-, hsibling⟩ := hothers hwild.1 hwild.2
  refine ⟨⟨hlevels, hfront, ?_, ?_⟩, hwild.1, hwild.2, hself, hbelow "/press", ?_⟩
  · exact (hplus _ _ hlevels hfront).mpr
      ⟨["site"], "", ["press"], by decide, .cons (.inr rfl) .nil, by decide⟩
  · -- The `+` takes up `press`, and nothing is left for the last level.
    rw [← Bool.not_eq_true, hplus' _ _ hlevels hfront]
    rintro ⟨ys, level, zs, hsplit, hys, hzs⟩
    have htwo : (levels "site/press").length = 2 := by decide
    have hlength := congrArg List.length hsplit
    rw [htwo, List.length_append, ← hys.length_eq, List.length_singleton, List.length_cons]
      at hlength
    have hnil : zs = [] := List.length_eq_zero_iff.mp (by omega)
    rw [hnil] at hzs
    cases hzs
  · rw [← Bool.not_eq_true]
    intro hmatch
    rcases hsibling "s/press" hmatch with hnil | hslash
    · exact absurd hnil (by decide)
    · exact absurd hslash (by decide)

end CommandRelay.Topic
