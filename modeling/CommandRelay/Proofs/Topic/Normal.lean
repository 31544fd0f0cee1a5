import CommandRelay.Proofs.Topic.Joining

/-!
# Normal topics

A topic is normal if no slash stands at either end of it; inside it, levels may be empty.
`Topic.join` builds the normal topics and no others, and builds a list of parts as it builds the two
topics that come of the front and of the rest of the list.

1. **What is built is normal** — the ends of a built topic are those of parts that are kept
   (`normal_join`), and a normal topic is what is built of itself (`join_singleton`).
2. **Building in steps** — `join_append_join` for two lists of parts, `join_map_join` for any
   number.
3. **Other spellings** — parts that differ in slashes at their ends, or in empty parts, are the same
   parts when they are kept, and none that differ otherwise are (`respelled_iff`).
4. **The theorem** — `joining_is_homomorphism_onto_normal`.
-/

namespace CommandRelay

/-! ## The ends of what was put together -/

namespace Text

variable {sep : Char}

/-- What is put together begins as its first part does. -/
theorem head?_unsplit {part : List Char} (h : part ≠ []) (rest : List (List Char)) :
    (unsplit sep (part :: rest)).head? = part.head? := by
  cases rest with
  | nil => rfl
  | cons next rest =>
    rw [unsplit_cons sep (List.cons_ne_nil next rest), List.head?_append_of_ne_nil part h]

/-- What is put together ends as its last part does. -/
theorem getLast?_unsplit (front : List (List Char)) {last : List Char} (h : last ≠ []) :
    (unsplit sep (front ++ [last])).getLast? = last.getLast? := by
  by_cases hfront : front = []
  · rw [hfront]
    rfl
  · rw [unsplit_append sep hfront (List.cons_ne_nil last []),
      List.getLast?_append_of_ne_nil _ (List.cons_ne_nil sep _), unsplit,
      List.getLast?_cons_of_ne_nil h]

end Text

namespace Topic

open Text

/-! ## What is built is normal -/

/-- No slash stands at either end of the topic. -/
structure Normal (topic : String) : Prop where
  head : topic.toList.head? ≠ some '/'
  last : topic.toList.getLast? ≠ some '/'

/-- A part that holds slashes only, or nothing at all. -/
def Slashes (part : String) : Prop := ∀ c ∈ part.toList, c = '/'

variable {xs ys : List String} {topic : String}

/-- What is built is normal: it is empty, or has no slash at either end. -/
theorem normal_join (parts : List String) : Normal (join parts) := by
  constructor
  · rw [toList_join]
    cases hkept : kept parts with
    | nil => exact (Option.some_ne_none '/').symm
    | cons first rest =>
      obtain ⟨hne, hhead, -⟩ := ends_of_mem_kept (hkept ▸ List.mem_cons_self)
      rwa [head?_unsplit hne]
  · rw [toList_join]
    rcases List.eq_nil_or_concat (kept parts) with hnil | ⟨front, last, hkept⟩
    · rw [hnil]
      exact (Option.some_ne_none '/').symm
    · rw [List.concat_eq_append] at hkept
      obtain ⟨hne, -, hlast⟩ :=
        ends_of_mem_kept (hkept ▸ List.mem_append_right front (List.mem_singleton_self last))
      rwa [hkept, getLast?_unsplit front hne]

/-- What is kept decides what is built. -/
theorem join_congr (h : kept xs = kept ys) : join xs = join ys := by
  rw [← String.toList_inj, toList_join, toList_join, h]

/-- Nothing is kept exactly if all parts hold slashes only. -/
theorem kept_eq_nil_iff : kept xs = [] ↔ ∀ part ∈ xs, Slashes part := by
  have hpart : ∀ part : String, trimSlashes part.toList = [] ↔ Slashes part := fun part => by
    simp only [trimSlashes, stripWhile_eq_nil_iff, isSlash, beq_iff_eq, Slashes]
  simp [kept, hpart]

/-- A topic is empty exactly if none of its parts is kept. -/
theorem join_eq_empty_iff : join xs = "" ↔ kept xs = [] := by
  constructor
  · intro hempty
    have hnil : unsplit '/' (kept xs) = [] := by rw [← toList_join, hempty]; rfl
    cases hkept : kept xs with
    | nil => rfl
    | cons first rest =>
      -- The first part that is kept has a character, and the topic begins with it.
      obtain ⟨hne, -⟩ := ends_of_mem_kept (hkept ▸ List.mem_cons_self)
      have hhead : (unsplit '/' (first :: rest)).head? = first.head? := head?_unsplit hne rest
      rw [← hkept, hnil] at hhead
      exact absurd (List.head?_eq_none_iff.mp hhead.symm) hne
  · intro hnil
    rw [← String.toList_inj, toList_join, hnil]
    rfl

/-- A normal topic is one part, kept as it is unless it is empty. -/
theorem kept_singleton (h : Normal topic) :
    kept [topic] = if topic = "" then [] else [topic.toList] := by
  have hkept : kept [topic] = [topic.toList].filter (!·.isEmpty) := by
    rw [kept, List.map_singleton, trimSlashes_of_ends h.head h.last]
  rw [hkept]
  by_cases hempty : topic = "" <;> simp [hempty]

/-- A normal topic is built of itself. -/
theorem join_singleton (h : Normal topic) : join [topic] = topic := by
  rw [← String.toList_inj, toList_join, kept_singleton h]
  split
  · rename_i hempty
    rw [hempty]
    rfl
  · rfl

/-! ## Building in steps -/

/-- What was built leaves something exactly if there was something to build it of. -/
theorem kept_join_eq_nil_iff : kept [join xs] = [] ↔ kept xs = [] := by
  rw [← join_eq_empty_iff, ← join_eq_empty_iff, join_singleton (normal_join xs)]

/-- Two lists of parts build what the two topics build that come of them. -/
theorem join_append_join (xs ys : List String) : join (xs ++ ys) = join [join xs, join ys] := by
  have hpair : kept [join xs, join ys] = kept [join xs] ++ kept [join ys] :=
    kept_append [join xs] [join ys]
  by_cases hxs : kept xs = []
  · calc join (xs ++ ys) = join ys := join_congr (by rw [kept_append, hxs, List.nil_append])
      _ = join [join ys] := (join_singleton (normal_join ys)).symm
      _ = join [join xs, join ys] :=
          join_congr (by rw [hpair, kept_join_eq_nil_iff.mpr hxs, List.nil_append])
  · by_cases hys : kept ys = []
    · calc join (xs ++ ys) = join xs := join_congr (by rw [kept_append, hys, List.append_nil])
        _ = join [join xs] := (join_singleton (normal_join xs)).symm
        _ = join [join xs, join ys] :=
            join_congr (by rw [hpair, kept_join_eq_nil_iff.mpr hys, List.append_nil])
    · calc join (xs ++ ys) = join xs ++ "/" ++ join ys := join_append hxs hys
        _ = join [join xs] ++ "/" ++ join [join ys] := by
            rw [join_singleton (normal_join xs), join_singleton (normal_join ys)]
        _ = join ([join xs] ++ [join ys]) :=
            (join_append (kept_join_eq_nil_iff.not.mpr hxs) (kept_join_eq_nil_iff.not.mpr hys)).symm

/-- Topics that were built already build what all of their parts do. -/
theorem join_map_join (lists : List (List String)) :
    join (lists.map join) = join lists.flatten := by
  induction lists with
  | nil => rfl
  | cons parts lists ih =>
    calc join (join parts :: lists.map join)
        = join [join [join parts], join (lists.map join)] := join_append_join [join parts] _
      _ = join [join parts, join lists.flatten] := by rw [join_singleton (normal_join parts), ih]
      _ = join (parts ++ lists.flatten) := (join_append_join parts lists.flatten).symm

/-! ## Other spellings -/

/-- One thing less in a list of parts: an empty part, or slashes at the ends of a part. -/
inductive Trims : List String → List String → Prop
  | empty (front back : List String) : Trims (front ++ "" :: back) (front ++ back)
  | slashes {before after : String} (hbefore : Slashes before) (hafter : Slashes after)
      (front : List String) (part : String) (back : List String) :
      Trims (front ++ (before ++ part ++ after) :: back) (front ++ part :: back)

/-- Parts that are spelled otherwise: such things come and go, at any places and any number of
times. -/
def Respelled : List String → List String → Prop := Relation.EqvGen Trims

theorem kept_cons (part : String) (parts : List String) :
    kept (part :: parts) = kept [part] ++ kept parts := kept_append [part] parts

/-- Leaving out such a thing changes nothing in what is kept. -/
theorem Trims.kept_eq (h : Trims xs ys) : kept xs = kept ys := by
  cases h with
  | empty front back =>
    have hempty : kept [""] = [] := kept_eq_nil_iff.mpr (by simp [Slashes])
    rw [kept_append, kept_cons, hempty, List.nil_append, ← kept_append]
  | @slashes before after hbefore hafter front part back =>
    have htrim : trimSlashes (before ++ part ++ after).toList = trimSlashes part.toList := by
      rw [String.toList_append, String.toList_append]
      exact stripWhile_append (fun c hc => beq_iff_eq.mpr (hbefore c hc))
        (fun c hc => beq_iff_eq.mpr (hafter c hc)) part.toList
    have hpart : kept [before ++ part ++ after] = kept [part] := by
      simp only [kept, List.map_cons, List.map_nil, htrim]
    rw [kept_append, kept_cons, hpart, ← kept_cons, ← kept_append]

/-- Trimming may happen behind another part. -/
theorem Trims.cons (h : Trims xs ys) (part : String) : Trims (part :: xs) (part :: ys) := by
  cases h with
  | empty front back => exact .empty (part :: front) back
  | slashes hbefore hafter front middle back =>
    exact .slashes hbefore hafter (part :: front) middle back

/-- Respelling may happen behind another part. -/
theorem Respelled.cons (h : Respelled xs ys) (part : String) :
    Respelled (part :: xs) (part :: ys) := by
  induction h with
  | rel xs ys h => exact .rel _ _ (h.cons part)
  | refl xs => exact .refl _
  | symm xs ys _ ih => exact .symm _ _ ih
  | trans xs ys zs _ _ ih ih' => exact .trans _ _ _ ih ih'

/-- A part may be trimmed. -/
theorem trims_part (part : String) (back : List String) :
    Trims (part :: back) (String.ofList (trimSlashes part.toList) :: back) := by
  obtain ⟨m, n, hpart⟩ := trimSlashes_splits part.toList
  have hslashes : ∀ k, Slashes (String.ofList (List.replicate k '/')) := fun k c hc =>
    List.eq_of_mem_replicate (by rwa [String.toList_ofList] at hc)
  have hsplit : part = String.ofList (List.replicate m '/') ++
      String.ofList (trimSlashes part.toList) ++ String.ofList (List.replicate n '/') := by
    rw [← String.toList_inj]
    simpa using hpart
  have htrims := Trims.slashes (hslashes m) (hslashes n) []
    (String.ofList (trimSlashes part.toList)) back
  rwa [← hsplit] at htrims

/-- Every list of parts is another spelling of what is kept of it. -/
theorem respelled_kept (xs : List String) : Respelled xs ((kept xs).map String.ofList) := by
  induction xs with
  | nil => exact .refl _
  | cons part xs ih =>
    refine .trans _ _ _ (.rel _ _ (trims_part part xs)) ?_
    by_cases hnil : trimSlashes part.toList = []
    · have hkept : kept (part :: xs) = kept xs := by simp [kept, hnil]
      rw [hnil, hkept]
      exact .trans _ _ _ (.rel _ _ (.empty [] xs)) ih
    · have hkept : kept (part :: xs) = trimSlashes part.toList :: kept xs := by simp [kept, hnil]
      rw [hkept, List.map_cons]
      exact ih.cons _

/-- Two lists of parts are spellings of each other exactly if the same is kept of them. -/
theorem respelled_iff : Respelled xs ys ↔ kept xs = kept ys := by
  constructor
  · intro h
    induction h with
    | rel xs ys h => exact h.kept_eq
    | refl xs => rfl
    | symm xs ys _ ih => exact ih.symm
    | trans xs ys zs _ _ ih ih' => exact ih.trans ih'
  · intro h
    have hys := respelled_kept ys
    rw [← h] at hys
    exact .trans _ _ _ (respelled_kept xs) (.symm _ _ hys)

/-! ## The theorem -/

/-- **Building a topic respects putting lists of parts together, and its results are the normal
topics.**  Two lists of parts, one behind the other, build what the topics build that come of each.
What is built has no slash at either end, and every topic of this kind is built, of itself; it is
empty exactly if all parts hold slashes only.  So empty parts, and slashes at the ends of parts, can
come and go at any places without changing what is built, and topics that were built already build
what all of their parts would: building a second time changes nothing. -/
theorem joining_is_homomorphism_onto_normal (xs ys : List String) :
    join (xs ++ ys) = join [join xs, join ys] ∧
    Normal (join xs) ∧
    (∀ topic, Normal topic → join [topic] = topic) ∧
    (join xs = "" ↔ ∀ part ∈ xs, Slashes part) ∧
    (Respelled xs ys → join xs = join ys) ∧
    (∀ lists : List (List String), join (lists.map join) = join lists.flatten) ∧
    join [join xs] = join xs :=
  ⟨join_append_join xs ys, normal_join xs, fun _ => join_singleton,
    join_eq_empty_iff.trans kept_eq_nil_iff, fun h => join_congr (respelled_iff.mp h),
    join_map_join,
    join_singleton (normal_join xs)⟩

/-- Two spellings of one place, which build the same topic.  A level without a name inside a topic
stays, unlike parts of slashes only. -/
theorem press_is_built_of_both_spellings :
    (Respelled ["", "site", "//press/"] ["/site/", "", "press"] ∧
      join ["", "site", "//press/"] = "site/press" ∧
      join ["", "site", "//press/"] = join ["/site/", "", "press"]) ∧
    (Normal "site//press" ∧ join ["site//press"] = "site//press") ∧
    ((∀ part ∈ ["", "//"], Slashes part) ∧ join ["", "//"] = "") := by
  have hspelled : Respelled ["", "site", "//press/"] ["/site/", "", "press"] := by
    have hslash : Slashes "/" := by simp [Slashes]
    have hslashes : Slashes "//" := by simp [Slashes]
    have hfirst : Respelled ["", "site", "//press/"] ["site", "press"] :=
      .trans _ _ _ (.rel _ _ (.empty [] _))
      (.rel _ _ (.slashes hslashes hslash ["site"] "press" []))
    have hsecond : Respelled ["/site/", "", "press"] ["site", "press"] :=
      .trans _ _ _ (.rel _ _ (.empty ["/site/"] _))
        (.rel _ _ (.slashes hslash hslash [] "site" ["press"]))
    exact .trans _ _ _ hfirst (.symm _ _ hsecond)
  have hnormal : Normal "site//press" := ⟨by decide, by decide⟩
  have hslashes : ∀ part ∈ ["", "//"], Slashes part := by simp [Slashes]
  obtain ⟨-, -, hself, -, hsame, -⟩ :=
    joining_is_homomorphism_onto_normal ["", "site", "//press/"] ["/site/", "", "press"]
  obtain ⟨-, -, -, hempty, -⟩ := joining_is_homomorphism_onto_normal ["", "//"] []
  exact ⟨⟨hspelled, by decide, hsame hspelled⟩, ⟨hnormal, hself _ hnormal⟩, hslashes,
    hempty.mpr hslashes⟩

end Topic

end CommandRelay
