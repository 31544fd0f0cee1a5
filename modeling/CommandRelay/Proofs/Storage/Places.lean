import Mathlib
import CommandRelay.Proofs.Topic.Joining
import CommandRelay.Storage.FileSystem

/-!
# Where paths lead

1. **Texts** — a path that can lead to a file ends in a name; around that name there is the empty
   path only if the text has no slash in it (`exists_parent?_ofText`, `parent?_of_bare`).  The
   directory around a path is written in no more octets than the path (`size_parent`).
2. **Ways** — a path leads through the places it passes, in each of which a name is looked up, to
   its destination.  It can be gone exactly if directories are all it passes (`locate_eq_ok_iff`,
   `follow_eq_ok_iff`).
3. **Entries** — an entry that is put somewhere is found there, directories are found above it, and
   all else is as it was (`entryAt?_put`).  So a path leads where it led (`locate_put`), and what
   was written to a file is read from it (`read_of_write`).
-/

namespace CommandRelay.Storage

/-! ## Texts of paths -/

namespace Path

theorem isName_iff {part : List Char} : isName part = true ↔ part ≠ [] ∧ part ≠ ['.'] :=
  decide_eq_true_iff

theorem names_ofText (s : String) :
    (ofText s).names = ((Text.split '/' s.toList).filter isName).map String.ofList := rfl

theorem text_ofText (s : String) : (ofText s).text = s := rfl

theorem start_of_slash {s : String} {rest : List Char} (h : s.toList = '/' :: rest) :
    (ofText s).start = .root := by
  unfold ofText
  dsimp only
  rw [h]
  rfl

theorem start_of_ne_slash {s : String} (h : ∀ rest, s.toList ≠ '/' :: rest) : (ofText s).start =
    if (Text.split '/' s.toList).head? = some ['.'] then .here else .plain := by
  unfold ofText
  dsimp only
  split
  · rename_i heq
    exact absurd heq (h _)
  · rfl

/-- A path that begins with something else than a name has that as its start. -/
theorem start_ne_plain {s : String} {first rest : List Char} (hs : s.toList = first ++ '/' :: rest)
    (hfirst : ¬ isName first = true) : (ofText s).start ≠ .plain := by
  rw [isName_iff, ← not_or, not_not] at hfirst
  rcases hfirst with rfl | rfl
  · rw [start_of_slash hs]
    exact fun h => by cases h
  · have hslash : ∀ more, s.toList ≠ '/' :: more := fun more heq => by
      rw [hs] at heq
      cases heq
    have hsplit : Text.split '/' s.toList = ['.'] :: Text.split '/' rest := by
      rw [hs]
      exact Text.split_append_cons (by decide) rest
    rw [start_of_ne_slash hslash, hsplit]
    exact fun h => by cases h

/-- A path that can lead to a file ends in a name. -/
theorem isName_last {s : String} {front : List (List Char)} {last : List Char}
    (hfile : (ofText s).asDirectory = false) (hsplit : Text.split '/' s.toList = front ++ [last]) :
    isName last = true := by
  have hlast :
    ¬ ((front ++ [last]).getLast? = some [] ∨ (front ++ [last]).getLast? = some ['.']) := by
    rw [← hsplit]
    exact of_decide_eq_false hfile
  rw [List.getLast?_concat, Option.some.injEq, Option.some.injEq, not_or] at hlast
  exact isName_iff.mpr hlast

/-- A path that can lead to a file has a name. -/
theorem names_ne_nil {s : String} (hfile : (ofText s).asDirectory = false) :
    (ofText s).names ≠ [] := by
  obtain ⟨front, last, hsplit⟩ :=
    (List.eq_nil_or_concat' (Text.split '/' s.toList)).resolve_left (Text.split_ne_nil '/' _)
  have hlast : last ∈ (Text.split '/' s.toList).filter isName := by
    refine List.mem_filter.mpr ⟨?_, isName_last hfile hsplit⟩
    rw [hsplit]
    exact List.mem_concat_self
  rw [names_ofText]
  exact List.ne_nil_of_mem (List.mem_map_of_mem hlast)

/-- A path that has no name before the one it ends in starts at the root or is written with a point,
if there is a slash in it. -/
theorem dropLast_names_ne_nil_or {s : String} (hfile : (ofText s).asDirectory = false)
    (hslash : '/' ∈ s.toList) : (ofText s).names.dropLast ≠ [] ∨ (ofText s).start ≠ .plain := by
  obtain ⟨front, last, hsplit⟩ :=
    (List.eq_nil_or_concat' (Text.split '/' s.toList)).resolve_left (Text.split_ne_nil '/' _)
  have hlast := isName_last hfile hsplit
  cases front with
  | nil =>
    have hlength := Text.length_split '/' s.toList
    rw [hsplit, List.nil_append, List.length_singleton] at hlength
    have hcount := List.count_pos_iff.mpr hslash
    omega
  | cons first rest =>
    by_cases hfirst : isName first = true
    · refine .inl ?_
      rw [names_ofText, hsplit, List.filter_append, List.filter_cons_of_pos hlast, List.map_append]
      show (_ ++ [String.ofList last]).dropLast ≠ []
      rw [List.dropLast_concat, List.filter_cons_of_pos hfirst]
      exact List.cons_ne_nil _ _
    · have hs : s.toList = first ++ '/' :: Text.unsplit '/' (rest ++ [last]) := by
        rw [← Text.unsplit_cons '/' (List.concat_ne_nil last rest), ← List.cons_append, ← hsplit,
          Text.unsplit_split]
      exact .inr (start_ne_plain hs hfirst)

/-! ### Directories around paths -/

variable {p q : Path}

theorem parent?_of_names (h : p.names ≠ []) :
    p.parent? = some ⟨p.start, p.names.dropLast, false, p.parentText⟩ := if_neg h

/-- Around a path without a name there is a directory only if it is a written point. -/
theorem parent?_eq_some_iff : p.parent? = some q ↔
    (p.names = [] ∧ p.start = .here ∧ ⟨.plain, [], false, ""⟩ = q) ∨
      (p.names ≠ [] ∧ ⟨p.start, p.names.dropLast, false, p.parentText⟩ = q) := by
  by_cases hnames : p.names = []
  · rw [parent?, if_pos hnames]
    cases p.start <;> simp [hnames]
  · rw [parent?_of_names hnames, Option.some.injEq]
    simp [hnames]

theorem asDirectory_parent (h : p.parent? = some q) : q.asDirectory = false := by
  rcases parent?_eq_some_iff.mp h with ⟨-, -, rfl⟩ | ⟨-, rfl⟩ <;> rfl

/-- The text of a parent is the front of the text of its path. -/
theorem parentText_prefix (p : Path) : p.parentText.toList <+: p.text.toList := by
  have hparts : upToName (upToName (Text.split '/' p.text.toList)).dropLast <+:
      Text.split '/' p.text.toList :=
    (List.rdropWhile_prefix _ _).trans
      ((List.dropLast_prefix _).trans (List.rdropWhile_prefix _ _))
  unfold parentText
  dsimp only
  split
  · rw [String.toList_ofList]
    exact List.take_prefix _ _
  · have hprefix : Text.unsplit '/' _ <+: Text.unsplit '/' _ := Text.unsplit_prefix hparts
    rw [Text.unsplit_split] at hprefix
    rwa [String.toList_ofList]

/-- The directory around a path is written in no more octets. -/
theorem size_parent (h : p.parent? = some q) : q.size ≤ p.size := by
  rcases parent?_eq_some_iff.mp h with ⟨-, -, rfl⟩ | ⟨-, rfl⟩
  · exact Nat.zero_le _
  · obtain ⟨rest, hrest⟩ := parentText_prefix p
    have htext : p.text = p.parentText ++ String.ofList rest := by
      rw [← String.toList_inj, String.toList_append, String.toList_ofList, hrest]
    show p.parentText.utf8ByteSize ≤ p.text.utf8ByteSize
    rw [htext, String.utf8ByteSize_append]
    exact Nat.le_add_right _ _

/-- A path that can lead to a file lies in some directory, which is the empty path only if there is
no slash. -/
theorem exists_parent?_ofText {s : String} (hfile : (ofText s).asDirectory = false) :
    ∃ q, (ofText s).parent? = some q ∧ ('/' ∈ s.toList → q.isEmpty = false) := by
  refine ⟨_, parent?_of_names (names_ne_nil hfile), fun hslash => ?_⟩
  rw [isEmpty, Bool.and_eq_false_iff]
  rcases dropLast_names_ne_nil_or hfile hslash with hnames | hstart
  · exact .inr (List.isEmpty_eq_false_iff.mpr hnames)
  · exact .inl (beq_false_of_ne hstart)

/-- A path that is not empty and has no slash in it lies in the empty path. -/
theorem parent?_of_bare {s : String} (hne : s ≠ "") (hbare : '/' ∉ s.toList) :
    ∃ q, (ofText s).parent? = some q ∧ q.isEmpty = true ∧ q.size = 0 := by
  have hparts := Text.split_of_notMem hbare
  have hnames := names_ofText s
  rw [hparts] at hnames
  have hempty : s.toList ≠ [] := fun h => hne (String.toList_eq_nil_iff.mp h)
  have hroot : ∀ rest, s.toList ≠ '/' :: rest := fun rest heq =>
    hbare (heq ▸ List.mem_cons_self)
  by_cases hdot : s.toList = ['.']
  · obtain rfl : s = "." := String.toList_injective hdot
    exact ⟨⟨.plain, [], false, ""⟩, by decide, rfl, rfl⟩
  · have hname : isName s.toList = true := isName_iff.mpr ⟨hempty, hdot⟩
    rw [List.filter_cons_of_pos hname, List.map_cons] at hnames
    have hplain : (ofText s).start = .plain := by
      rw [start_of_ne_slash hroot, hparts]
      exact if_neg fun h => hdot (Option.some.inj h)
    refine ⟨_, parent?_of_names (by rw [hnames]; exact List.cons_ne_nil _ _), ?_, ?_⟩
    · rw [isEmpty, hplain, hnames]
      rfl
    · have htext : (ofText s).parentText = "" := by
        unfold parentText
        rw [text_ofText, hparts, hplain]
        simp [upToName, Text.dropEndWhile, hname]
      rw [size, htext]
      rfl

end Path

/-! ## Ways -/

/-- The place that a name leads to. -/
def step (place : List String) (name : String) : List String :=
  if name = ".." then place.dropLast else place ++ [name]

/-- The place that names lead to if every one of them can be followed. -/
def destination (place : List String) (names : List String) : List String := names.foldl step place

/-- The places in which names are looked up. -/
def passed (place : List String) : List String → List (List String)
  | [] => []
  | name :: names => place :: passed (step place name) names

theorem passed_concat (place : List String) (names : List String) (name : String) :
    passed place (names ++ [name]) = passed place names ++ [destination place names] := by
  induction names generalizing place with
  | nil => rfl
  | cons first names ih => rw [List.cons_append, passed, ih, passed, List.cons_append]; rfl

theorem mem_way (place : List String) (names : List String) :
    place ∈ passed place names ++ [destination place names] := by
  cases names with
  | nil => exact List.mem_singleton_self place
  | cons name names => exact List.mem_cons_self

/-- What lies above a place on the way lies on the way or above its start. -/
theorem prefix_of_mem_way {place q r : List String} {names : List String} (hq : q <+: r)
    (hr : r ∈ passed place names ++ [destination place names]) :
    q ∈ passed place names ++ [destination place names] ∨ q <+: place := by
  induction names generalizing place with
  | nil =>
    obtain rfl := List.mem_singleton.mp hr
    exact .inr hq
  | cons name names ih =>
    rcases List.mem_cons.mp hr with rfl | hr
    · exact .inr hq
    rcases ih hr with hway | habove
    · exact .inl (List.mem_cons_of_mem _ hway)
    by_cases hname : name = ".."
    · rw [step, if_pos hname] at habove
      exact .inr (habove.trans (List.dropLast_prefix place))
    · rw [step, if_neg hname] at habove
      rcases List.prefix_concat_iff.mp habove with hq | habove
      · have hstep : q = step place name := hq.trans (if_neg hname).symm
        rw [hstep]
        exact .inl (List.mem_cons_of_mem _ (mem_way (step place name) names))
      · exact .inr habove

namespace FileSystem

variable {fs fs' : FileSystem} {place q : List String} {e : Entry}

/-- A place holds a directory. -/
def HasDirectory (fs : FileSystem) (q : List String) : Prop :=
  ∃ mode, fs.entryAt? q = some (.directory mode)

/-- A place holds a file. -/
def HasFile (fs : FileSystem) (q : List String) : Prop :=
  ∃ mode content, fs.entryAt? q = some (.file mode content)

theorem HasDirectory.not_hasFile (h : fs.HasDirectory q) : ¬ fs.HasFile q := by
  obtain ⟨mode, hdirectory⟩ := h
  rintro ⟨m, content, hfile⟩
  rw [hdirectory] at hfile
  cases hfile

instance (fs : FileSystem) (q : List String) : Decidable (fs.HasDirectory q) :=
  decidable_of_iff ((fs.entryAt? q).any (·.isDirectory) = true) <| by
    rw [HasDirectory]
    rcases fs.entryAt? q with _ | ⟨mode, content⟩ | mode <;> simp [Entry.isDirectory]

instance (fs : FileSystem) (q : List String) : Decidable (fs.HasFile q) :=
  decidable_of_iff ((fs.entryAt? q).any (!·.isDirectory) = true) <| by
    rw [HasFile]
    rcases fs.entryAt? q with _ | ⟨mode, content⟩ | mode <;> simp [Entry.isDirectory]

/-- A place holds an entry, or it lies above the current directory or a place that does. -/
def Filled (fs : FileSystem) (q : List String) : Prop :=
  (fs.current :: fs.entries.map (·.1)).any q.isPrefixOf = true

instance (fs : FileSystem) (q : List String) : Decidable (fs.Filled q) :=
  inferInstanceAs (Decidable (_ = true))

theorem filled_iff : fs.Filled q ↔ ∃ r ∈ fs.current :: fs.entries.map (·.1), q <+: r := by
  rw [Filled, List.any_eq_true]
  exact exists_congr fun r => and_congr_right fun _ => List.isPrefixOf_iff_prefix

theorem entryAt?_of_find? {f : List String × Entry}
    (h : fs.entries.find? (·.1 == q) = some f) : fs.entryAt? q = some f.2 := by
  rw [entryAt?, h]

theorem entryAt?_of_find?_none (h : fs.entries.find? (·.1 == q) = none) :
    fs.entryAt? q = if fs.Filled q then some (.directory 0o755) else none := by
  rw [entryAt?, h]
  rfl

/-- The places that hold entries are those of before and the one where an entry is put. -/
theorem filled_put : (fs.put place e).Filled q ↔ fs.Filled q ∨ q <+: place := by
  rw [filled_iff, filled_iff]
  show (∃ r ∈ fs.current :: place :: (fs.entries.filter (·.1 != place)).map (·.1), q <+: r) ↔ _
  -- An entry at the same place is replaced, so that place is counted once.
  have hmem : ∀ r, r ∈ (fs.entries.filter (·.1 != place)).map (·.1) ↔
      r ∈ fs.entries.map (·.1) ∧ r ≠ place := by
    intro r
    simp only [List.mem_map, List.mem_filter, bne_iff_ne, ne_eq]
    constructor
    · rintro ⟨f, ⟨hf, hne⟩, rfl⟩
      exact ⟨⟨f, hf, rfl⟩, hne⟩
    · rintro ⟨⟨f, hf, rfl⟩, hne⟩
      exact ⟨f, ⟨hf, hne⟩, rfl⟩
  simp only [List.mem_cons, hmem]
  constructor
  · rintro ⟨r, hr, hprefix⟩
    rcases hr with rfl | rfl | ⟨hr, -⟩
    · exact .inl ⟨_, .inl rfl, hprefix⟩
    · exact .inr hprefix
    · exact .inl ⟨r, .inr hr, hprefix⟩
  · rintro (⟨r, hr, hprefix⟩ | hprefix)
    · by_cases hplace : r = place
      · exact ⟨r, .inr (.inl hplace), hprefix⟩
      · exact ⟨r, hr.imp_right fun hr => .inr ⟨hr, hplace⟩, hprefix⟩
    · exact ⟨place, .inr (.inl rfl), hprefix⟩

/-- What is found at a place after an entry was put somewhere: the entry there, all else as before,
and directories above it. -/
theorem entryAt?_put (fs : FileSystem) (place : List String) (e : Entry) (q : List String) :
    (fs.put place e).entryAt? q = if q = place then some e
      else (fs.entryAt? q).or (if q <+: place then some (.directory 0o755) else none) := by
  by_cases hq : q = place
  · have hfind : (fs.put place e).entries.find? (·.1 == q) = some (place, e) :=
      List.find?_cons_of_pos (beq_iff_eq.mpr hq.symm)
    rw [if_pos hq, entryAt?_of_find? hfind]
  have hfind : (fs.put place e).entries.find? (·.1 == q) = fs.entries.find? (·.1 == q) := by
    have hhead : ((place, e).1 == q) = false := beq_eq_false_iff_ne.mpr (Ne.symm hq)
    show List.find? _ ((place, e) :: fs.entries.filter (·.1 != place)) = _
    rw [List.find?_cons_of_neg (by rw [hhead]; exact Bool.false_ne_true), List.find?_filter]
    refine congrArg (List.find? · fs.entries) (funext fun f => ?_)
    by_cases hf : f.1 = q
    · simp [hf, hq]
    · simp [hf]
  rw [if_neg hq]
  cases hentry : fs.entries.find? (·.1 == q) with
  | some f => rw [entryAt?_of_find? hentry, entryAt?_of_find? (hfind.trans hentry), Option.some_or]
  | none =>
    rw [entryAt?_of_find?_none hentry, entryAt?_of_find?_none (hfind.trans hentry),
      if_congr filled_put rfl rfl]
    by_cases hfilled : fs.Filled q
    · rw [if_pos (.inl hfilled), if_pos hfilled, Option.some_or]
    · rw [if_neg hfilled, if_congr (or_iff_right hfilled) rfl rfl, Option.none_or]

/-- Names are followed to a place exactly if each is looked up in a directory and none is too
long. -/
theorem follow_eq_ok_iff {names : List String} {r : List String} :
    fs.follow place names = .ok r ↔ r = destination place names ∧
      (∀ q ∈ passed place names, fs.HasDirectory q) ∧
      ∀ name ∈ names, name.utf8ByteSize ≤ longestName := by
  -- By induction along the names: each is looked up where the ones before it have led.
  induction names generalizing place with
  | nil =>
    rw [follow, Except.ok.injEq]
    exact ⟨fun h => ⟨h.symm, List.forall_mem_nil _, List.forall_mem_nil _⟩, fun h => h.1.symm⟩
  | cons name names ih =>
    rw [passed, List.forall_mem_cons, List.forall_mem_cons]
    show fs.follow place (name :: names) = _ ↔ r = destination (step place name) names ∧ _
    rw [follow]
    cases hplace : fs.entryAt? place with
    | none =>
      refine iff_of_false (fun h => by cases h) ?_
      rintro ⟨-, ⟨⟨mode, hdirectory⟩, -⟩, -⟩
      rw [hplace] at hdirectory
      cases hdirectory
    | some entry =>
      cases entry with
      | file mode content =>
        refine iff_of_false (fun h => by cases h) ?_
        rintro ⟨-, ⟨⟨mode, hdirectory⟩, -⟩, -⟩
        rw [hplace] at hdirectory
        cases hdirectory
      | directory mode =>
        have hhere : fs.HasDirectory place := ⟨mode, hplace⟩
        rw [and_iff_right hhere]
        dsimp only
        -- The name for the way up is short, so only the other names can be too long.
        by_cases hup : name = ".."
        · have hshort : name.utf8ByteSize ≤ longestName := by
            rw [hup]
            decide
          rw [if_pos hup, ih, step, if_pos hup, and_iff_right hshort]
        · rw [if_neg hup]
          by_cases hlong : longestName < name.utf8ByteSize
          · rw [if_pos hlong]
            exact iff_of_false (fun h => by cases h) fun h => absurd h.2.2.1 (not_le.mpr hlong)
          · rw [if_neg hlong, ih, step, if_neg hup, and_iff_right (not_lt.mp hlong)]

/-- Names that are not too long and lead through no file are followed, or something is missing. -/
theorem follow_cases {names : List String} (hfile : ∀ q ∈ passed place names, ¬ fs.HasFile q)
    (hshort : ∀ name ∈ names, name.utf8ByteSize ≤ longestName) :
    fs.follow place names = .ok (destination place names) ∨
      fs.follow place names = .error .missing := by
  induction names generalizing place with
  | nil => exact .inl rfl
  | cons name names ih =>
    obtain ⟨hhere, hfile⟩ := List.forall_mem_cons.mp hfile
    obtain ⟨hname, hshort⟩ := List.forall_mem_cons.mp hshort
    have hrest := ih hfile hshort
    show _ = Except.ok (destination (step place name) names) ∨ _
    rw [follow]
    cases hplace : fs.entryAt? place with
    | none => exact .inr rfl
    | some entry =>
      cases entry with
      | file mode content => exact absurd ⟨mode, content, hplace⟩ hhere
      | directory mode =>
        dsimp only
        by_cases hup : name = ".."
        · rw [step, if_pos hup] at hrest ⊢
          rwa [if_pos hup]
        · rw [step, if_neg hup] at hrest ⊢
          rwa [if_neg hup, if_neg (not_lt.mpr hname)]

/-! ## Paths -/

variable {p : Path}

/-- Where a path starts. -/
def origin (fs : FileSystem) (p : Path) : List String :=
  if p.start = .root then [] else fs.current

/-- A path leads to a place if it is not too long nor empty and its names are followed there. -/
theorem locate_eq_ok_iff : fs.locate p = .ok place ↔ p.size ≤ longestPath ∧ p.isEmpty = false ∧
    fs.follow (fs.origin p) p.names = .ok place := by
  rw [locate]
  by_cases hlong : longestPath < p.size
  · rw [if_pos hlong]
    exact iff_of_false (fun h => by cases h) fun h => absurd h.1 (not_le.mpr hlong)
  rw [if_neg hlong, and_iff_right (not_lt.mp hlong)]
  cases p.isEmpty with
  | true => exact iff_of_false (fun h => by cases h) fun h => by cases h.1
  | false => exact (and_iff_right rfl).symm

theorem entry_of_locate (h : fs.locate p = .ok place) (hplace : fs.entryAt? place = some e)
    (hdirectory : p.asDirectory = false) : fs.entry p = .ok e := by
  rw [entry, h]
  dsimp only [bind, Except.bind]
  rw [hplace, hdirectory]
  rfl

/-- A path leads to a directory if it leads to a place that holds one. -/
theorem isDirectory_eq_true_iff : fs.isDirectory p = true ↔
    ∃ place, fs.locate p = .ok place ∧ fs.HasDirectory place := by
  rw [isDirectory, entry]
  cases fs.locate p with
  | error e => exact iff_of_false Bool.false_ne_true fun ⟨_, h, _⟩ => by cases h
  | ok place =>
    simp only [Except.ok.injEq, exists_eq_left', HasDirectory]
    dsimp only [bind, Except.bind]
    rcases fs.entryAt? place with _ | ⟨mode, content⟩ | mode
    · simp
    · cases p.asDirectory <;> simp [Entry.isDirectory]
    · simp [Entry.isDirectory]

/-! ## Files -/

theorem entryAt?_put_self (fs : FileSystem) (place : List String) (e : Entry) :
    (fs.put place e).entryAt? place = some e := by
  rw [entryAt?_put, if_pos rfl]

theorem HasDirectory.put (h : fs.HasDirectory q) (hne : q ≠ place) :
    (fs.put place e).HasDirectory q := by
  obtain ⟨mode, hq⟩ := h
  refine ⟨mode, ?_⟩
  rw [entryAt?_put, if_neg hne, hq, Option.some_or]

/-- A path leads where it led after an entry was put where no directory was. -/
theorem locate_put (h : fs.locate p = .ok q) (hplace : ¬ fs.HasDirectory place) :
    (fs.put place e).locate p = .ok q := by
  obtain ⟨hsize, hempty, hfollow⟩ := locate_eq_ok_iff.mp h
  obtain ⟨hq, hpassed, hshort⟩ := follow_eq_ok_iff.mp hfollow
  refine locate_eq_ok_iff.mpr ⟨hsize, hempty, follow_eq_ok_iff.mpr ⟨hq, fun r hr => ?_, hshort⟩⟩
  exact (hpassed r hr).put fun heq => hplace (heq ▸ hpassed r hr)

/-- Writing puts a file where the path leads to, which may not be a directory. -/
theorem write_eq_ok_iff {mode : Nat} {content : List UInt8} :
    fs.write p mode content = .ok fs' ↔ ∃ place, fs.locate p = .ok place ∧ p.asDirectory = false ∧
      ((fs.entryAt? place = none ∧ fs' = fs.put place (.file mode content)) ∨
        ∃ old before, fs.entryAt? place = some (.file old before) ∧
          fs' = fs.put place (.file old content)) := by
  rw [write]
  cases hlocate : fs.locate p with
  | error e => exact iff_of_false (fun h => by cases h) fun ⟨_, h, _⟩ => by cases h
  | ok place =>
    simp only [Except.ok.injEq, exists_eq_left']
    dsimp only [bind, Except.bind]
    cases p.asDirectory with
    | true => exact iff_of_false (fun h => by cases h) fun h => by cases h.1
    | false =>
      rw [if_neg Bool.false_ne_true, and_iff_right rfl]
      rcases fs.entryAt? place with _ | ⟨old, before⟩ | _ <;> simp [eq_comm]

/-- What was written to a file is read from it. -/
theorem read_of_write {mode : Nat} {content : List UInt8} (h : fs.write p mode content = .ok fs') :
    fs'.isThere p = true ∧ fs'.read p = .ok content := by
  obtain ⟨place, hlocate, hfile, hput⟩ := write_eq_ok_iff.mp h
  obtain ⟨old, hplace, rfl⟩ : ∃ old, ¬ fs.HasDirectory place ∧
      fs' = fs.put place (.file old content) := by
    rcases hput with ⟨hnone, rfl⟩ | ⟨old, before, hold, rfl⟩
    · refine ⟨mode, fun ⟨_, hdirectory⟩ => ?_, rfl⟩
      rw [hnone] at hdirectory
      cases hdirectory
    · refine ⟨old, fun ⟨_, hdirectory⟩ => ?_, rfl⟩
      rw [hold] at hdirectory
      cases hdirectory
  have hentry := entry_of_locate (locate_put hlocate hplace)
    (entryAt?_put_self fs place (.file old content)) hfile
  constructor
  · rw [isThere, hentry]
    rfl
  · rw [read, hentry]
    rfl

end FileSystem

end CommandRelay.Storage
