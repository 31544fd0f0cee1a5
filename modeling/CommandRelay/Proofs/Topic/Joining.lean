import CommandRelay.Proofs.Text.Trimming
import CommandRelay.Topic.Level

/-!
# Topics built from parts

`Topic.join` trims its parts, drops those that are empty then, and puts a slash between each two
that are left.  `Topic.kept` are the parts that are left; the levels of a built topic are theirs,
one part after the other (`levels_join`).  What is built of more parts goes on behind a slash
(`join_append`).  A part without a slash is one level, or none if it is empty, and no level is empty
at the end of a part.
-/

namespace CommandRelay

/-! ## Splitting what was put together -/

namespace Text

variable {sep : Char}

/-- No part has a separator in it. -/
theorem notMem_of_mem_split {cs part : List Char} (h : part ∈ split sep cs) : sep ∉ part := by
  induction cs generalizing part with
  | nil =>
    rw [List.mem_singleton.mp h]
    exact List.not_mem_nil
  | cons c cs ih =>
    rw [split] at h
    split at h
    · rcases List.mem_cons.mp h with rfl | h
      · exact List.not_mem_nil
      · exact ih h
    · rename_i hc
      cases hs : split sep cs with
      | nil => exact absurd hs (split_ne_nil sep cs)
      | cons first rest =>
        rw [hs] at h ih
        rcases List.mem_cons.mp h with rfl | h
        · rw [List.mem_cons, not_or]
          exact ⟨Ne.symm hc, ih List.mem_cons_self⟩
        · exact ih (List.mem_cons_of_mem _ h)

/-- There is one part more than there are separators. -/
theorem length_split (sep : Char) (cs : List Char) :
    (split sep cs).length = cs.count sep + 1 := by
  induction cs with
  | nil => rfl
  | cons c cs ih =>
    rw [split]
    split
    · rename_i hc
      rw [List.length_cons, ih, hc, List.count_cons_self]
    · rename_i hc
      rw [List.count_cons_of_ne hc]
      cases hs : split sep cs with
      | nil => exact absurd hs (split_ne_nil sep cs)
      | cons first rest =>
        rw [hs] at ih
        exact ih

/-- Any other character belongs to the first part. -/
theorem split_cons_of_ne {c : Char} (hc : c ≠ sep) (cs : List Char) :
    ∃ first rest, split sep (c :: cs) = (c :: first) :: rest := by
  rw [split, if_neg hc]
  cases hs : split sep cs with
  | nil => exact absurd hs (split_ne_nil sep cs)
  | cons first rest => exact ⟨first, rest, rfl⟩

/-- A separator ends a part, whatever stands before it. -/
theorem split_append_sep (cs rest : List Char) :
    split sep (cs ++ sep :: rest) = split sep cs ++ split sep rest := by
  induction cs with
  | nil => simp [split]
  | cons c cs ih =>
    rw [List.cons_append, split, split, ih]
    split
    · rfl
    · cases hs : split sep cs with
      | nil => exact absurd hs (split_ne_nil sep cs)
      | cons first more => rfl

/-- Parts and more parts are put together with one separator between the two. -/
theorem unsplit_append (sep : Char) {parts more : List (List Char)} (h : parts ≠ [])
    (hmore : more ≠ []) :
    unsplit sep (parts ++ more) = unsplit sep parts ++ sep :: unsplit sep more := by
  induction parts with
  | nil => exact absurd rfl h
  | cons part rest ih =>
    cases rest with
    | nil => exact unsplit_cons sep hmore
    | cons next rest =>
      have hrest : next :: rest ≠ [] := List.cons_ne_nil _ _
      rw [List.cons_append, unsplit_cons sep (List.append_ne_nil_of_left_ne_nil hrest more),
        ih hrest,
        unsplit_cons sep hrest, List.append_assoc, List.cons_append]

/-- The first parts are what is put together first. -/
theorem unsplit_prefix {parts more : List (List Char)} (h : parts <+: more) :
    unsplit sep parts <+: unsplit sep more := by
  obtain ⟨rest, rfl⟩ := h
  by_cases hparts : parts = []
  · rw [hparts]
    exact List.nil_prefix
  by_cases hrest : rest = []
  · rw [hrest, List.append_nil]
  · rw [unsplit_append sep hparts hrest]
    exact List.prefix_append _ _

/-- What was put together falls into the parts of the parts. -/
theorem split_unsplit_eq_flatMap {parts : List (List Char)} (h : parts ≠ []) :
    split sep (unsplit sep parts) = parts.flatMap (split sep) := by
  induction parts with
  | nil => exact absurd rfl h
  | cons part rest ih =>
    cases rest with
    | nil => simp [unsplit]
    | cons next rest =>
      have hmore : next :: rest ≠ [] := List.cons_ne_nil _ _
      rw [unsplit_cons sep hmore, split_append_sep, ih hmore, ← List.flatMap_cons]

/-- What does not end in a separator does not end in an empty part. -/
theorem getLast?_split_ne {cs : List Char} (hne : cs ≠ []) (hlast : cs.getLast? ≠ some sep) :
    (split sep cs).getLast? ≠ some [] := by
  induction cs with
  | nil => exact absurd rfl hne
  | cons c cs ih =>
    cases hcs : cs with
    | nil =>
      have hc : c ≠ sep := by simpa [hcs] using hlast
      simp [split, hc]
    | cons d ds =>
      have hlast' : cs.getLast? ≠ some sep := by
        rw [hcs] at hlast ⊢
        rwa [List.getLast?_cons_cons] at hlast
      have ih := ih (by simp [hcs]) hlast'
      rw [← hcs, split]
      split
      · rwa [List.getLast?_cons_of_ne_nil (split_ne_nil sep cs)]
      · cases hs : split sep cs with
        | nil => exact absurd hs (split_ne_nil sep cs)
        | cons first rest =>
          rw [hs] at ih
          cases rest with
          | nil => simp
          | cons next rest => rwa [List.getLast?_cons_cons] at ih ⊢

end Text

namespace Topic

open Text

/-- No level has a slash in it. -/
theorem slash_notMem_of_mem_levels {topic level : String} (h : level ∈ levels topic) :
    '/' ∉ level.toList := by
  obtain ⟨part, hpart, rfl⟩ := List.mem_map.mp h
  rw [String.toList_ofList]
  exact notMem_of_mem_split hpart

/-- A topic has one level more than it has slashes. -/
theorem length_levels (topic : String) : (levels topic).length = topic.toList.count '/' + 1 := by
  rw [levels, List.length_map, length_split]

theorem levels_of_notMem {level : String} (h : '/' ∉ level.toList) : levels level = [level] := by
  rw [levels, split_of_notMem h, List.map_singleton, String.ofList_toList]

/-- What was put together from topics has their levels, one topic after the other. -/
theorem levels_ofLevels_eq_flatMap {topics : List String} (h : topics ≠ []) :
    levels (ofLevels topics) = topics.flatMap levels := by
  rw [levels, ofLevels, String.toList_ofList, split_unsplit_eq_flatMap (by simpa using h),
    List.map_flatMap, List.flatMap_map]
  rfl

theorem levels_ne_nil (topic : String) : levels topic ≠ [] := by
  rw [levels, Ne, List.map_eq_nil_iff]
  exact split_ne_nil '/' topic.toList

/-- A slash between two topics ends the levels of the first. -/
theorem levels_append_slash (front tail : String) :
    levels (front ++ "/" ++ tail) = levels front ++ levels tail := by
  rw [levels, String.toList_append, String.toList_append, List.append_assoc]
  show (split '/' (front.toList ++ '/' :: tail.toList)).map String.ofList = _
  rw [split_append_sep, List.map_append, levels, levels]

/-- Levels and more levels are put together with one slash between the two. -/
theorem ofLevels_append {front rest : List String} (h : front ≠ []) (hrest : rest ≠ []) :
    ofLevels (front ++ rest) = ofLevels front ++ "/" ++ ofLevels rest := by
  rw [← String.toList_inj]
  simp [ofLevels, unsplit_append '/' (show front.map String.toList ≠ [] by simpa using h)
    (show rest.map String.toList ≠ [] by simpa using hrest)]

theorem ofLevels_cons (first : String) {rest : List String} (h : rest ≠ []) :
    ofLevels (first :: rest) = first ++ "/" ++ ofLevels rest := by
  rw [← String.toList_inj]
  simp [ofLevels, unsplit_cons _ (show rest.map String.toList ≠ [] by simpa using h)]

theorem ofLevels_three (x y z : String) : ofLevels [x, y, z] = x ++ "/" ++ y ++ "/" ++ z := by
  rw [← String.toList_inj]
  simp [ofLevels, unsplit]

/-! ## Trimming -/

theorem isSlash_eq_false_iff {c : Char} : isSlash c = false ↔ c ≠ '/' := beq_eq_false_iff_ne

/-- What is trimmed from a part are slashes. -/
theorem trimSlashes_splits (part : List Char) : ∃ m n,
    part = List.replicate m '/' ++ trimSlashes part ++ List.replicate n '/' := by
  obtain ⟨front, back, hpart, hfront, hback⟩ := stripWhile_splits isSlash part
  have hfront' : front = List.replicate front.length '/' :=
    List.eq_replicate_of_mem fun c hc => by simpa [isSlash] using hfront c hc
  have hback' : back = List.replicate back.length '/' :=
    List.eq_replicate_of_mem fun c hc => by simpa [isSlash] using hback c hc
  refine ⟨front.length, back.length, ?_⟩
  rw [← hfront', ← hback']
  exact hpart

/-- A part without slashes at its ends is not trimmed. -/
theorem trimSlashes_of_ends {part : List Char} (hhead : part.head? ≠ some '/')
    (hlast : part.getLast? ≠ some '/') : trimSlashes part = part := by
  refine stripWhile_of_ends (fun c hc => ?_) fun c hc => ?_
  · rw [isSlash_eq_false_iff]
    rintro rfl
    exact hhead hc
  · rw [isSlash_eq_false_iff]
    rintro rfl
    exact hlast hc

/-- A part without slashes has none to lose. -/
theorem trimSlashes_of_notMem {part : List Char} (h : '/' ∉ part) : trimSlashes part = part :=
  trimSlashes_of_ends (fun hc => h (List.mem_of_mem_head? hc))
    fun hc => h (List.mem_of_mem_getLast? hc)

theorem head?_trimSlashes (part : List Char) : (trimSlashes part).head? ≠ some '/' := by
  intro hslash
  cases head?_stripWhile hslash

theorem getLast?_trimSlashes (part : List Char) : (trimSlashes part).getLast? ≠ some '/' := by
  intro hslash
  cases getLast?_stripWhile hslash

/-! ## What is left of the parts -/

/-- The parts of which a topic is built: trimmed, and none of them empty. -/
def kept (parts : List String) : List (List Char) :=
  (parts.map fun p => trimSlashes p.toList).filter (!·.isEmpty)

/-- What is kept of two lists of parts is kept of each. -/
theorem kept_append (parts more : List String) :
    kept (parts ++ more) = kept parts ++ kept more := by
  simp [kept]

theorem kept_ne_nil {parts : List String} {part : String} (hpart : part ∈ parts)
    (h : trimSlashes part.toList ≠ []) : kept parts ≠ [] := by
  have hmem : trimSlashes part.toList ∈ kept parts :=
    List.mem_filter.mpr ⟨List.mem_map.mpr ⟨part, hpart, rfl⟩, by simpa using h⟩
  exact List.ne_nil_of_mem hmem

/-- A part that is kept has something in it, and no slash at either end. -/
theorem ends_of_mem_kept {parts : List String} {p : List Char} (h : p ∈ kept parts) :
    p ≠ [] ∧ p.head? ≠ some '/' ∧ p.getLast? ≠ some '/' := by
  obtain ⟨hp, hne⟩ := List.mem_filter.mp h
  obtain ⟨part, -, rfl⟩ := List.mem_map.mp hp
  exact ⟨by simpa using hne, head?_trimSlashes part.toList, getLast?_trimSlashes part.toList⟩

/-- A topic is the kept parts with slashes between them. -/
theorem toList_join (parts : List String) : (join parts).toList = unsplit '/' (kept parts) :=
  String.toList_ofList

/-- A topic that is built of two lists of parts has a slash between what each of them builds. -/
theorem join_append {parts more : List String} (h : kept parts ≠ []) (hmore : kept more ≠ []) :
    join (parts ++ more) = join parts ++ "/" ++ join more := by
  rw [← String.toList_inj, toList_join, kept_append, unsplit_append '/' h hmore]
  simp [toList_join]

/-- Levels are kept as they are, but for empty ones. -/
theorem kept_of_notMem {ls : List String} (h : ∀ l ∈ ls, '/' ∉ l.toList) :
    kept ls = (ls.filter (· ≠ "")).map String.toList := by
  have hmap : (ls.map fun p => trimSlashes p.toList) = ls.map String.toList :=
    List.map_congr_left fun l hl => trimSlashes_of_notMem (h l hl)
  rw [kept, hmap, List.filter_map]
  refine congrArg _ (List.filter_congr fun l _ => ?_)
  by_cases hl : l = "" <;> simp [hl]

/-- The levels of the parts that are kept. -/
def keptLevels (parts : List String) : List String :=
  (kept parts).flatMap fun p => (split '/' p).map String.ofList

/-- The levels of a topic that is built are those of its kept parts. -/
theorem levels_join {parts : List String} (h : kept parts ≠ []) :
    levels (join parts) = keptLevels parts := by
  rw [levels, toList_join, split_unsplit_eq_flatMap h, List.map_flatMap, keptLevels]

theorem keptLevels_append (parts more : List String) :
    keptLevels (parts ++ more) = keptLevels parts ++ keptLevels more := by
  rw [keptLevels, kept_append, List.flatMap_append, keptLevels, keptLevels]

/-- Parts without slashes are levels themselves, except for empty ones. -/
theorem keptLevels_of_notMem {ls : List String} (h : ∀ l ∈ ls, '/' ∉ l.toList) :
    keptLevels ls = ls.filter (· ≠ "") := by
  have hone : ∀ l ∈ ls.filter (· ≠ ""), (split '/' l.toList).map String.ofList = [l] := by
    intro l hl
    rw [split_of_notMem (h l (List.mem_filter.mp hl).1)]
    simp
  rw [keptLevels, kept_of_notMem h, List.flatMap_map, List.flatMap_congr hone]
  simp

/-- The last part that is kept ends in a level with a name. -/
theorem getLast?_keptLevels (parts : List String) : (keptLevels parts).getLast? ≠ some "" := by
  rw [keptLevels]
  rcases List.eq_nil_or_concat (kept parts) with hnil | ⟨front, last, hsplit⟩
  · rw [hnil]
    exact nofun
  · obtain ⟨hne, -, hslash⟩ := ends_of_mem_kept (show last ∈ kept parts by rw [hsplit]; simp)
    have hlast := getLast?_split_ne hne hslash
    rw [hsplit, List.concat_eq_append, List.flatMap_append, List.flatMap_singleton,
      List.getLast?_append_of_ne_nil _ (by simpa using split_ne_nil '/' last), List.getLast?_map]
    rw [Ne, Option.map_eq_some_iff]
    rintro ⟨level, hlevel, hempty⟩
    have hnil : level = [] := by simpa using congrArg String.toList hempty
    exact hlast (hnil ▸ hlevel)

/-- Neither do levels behind the parts end in an empty one, once empty ones are dropped. -/
theorem getLast?_keptLevels_append (parts ls : List String)
    (h : ∀ l ∈ ls, '/' ∉ l.toList) :
    (keptLevels parts ++ ls.filter (· ≠ "")).getLast? ≠ some "" := by
  rw [← keptLevels_of_notMem h, ← keptLevels_append]
  exact getLast?_keptLevels (parts ++ ls)

end Topic

end CommandRelay
