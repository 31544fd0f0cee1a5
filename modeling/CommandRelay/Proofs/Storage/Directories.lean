import CommandRelay.Proofs.Storage.Places

/-!
# Directories that are created

Directories are made from the first missing one on the way down to the last.  What is made lies on
the way or above its start, and files stay as they are (`Grown`).  So all of them can be made
exactly if the way is `Clear`: no file stands on it and no name is too long
(`createDirectories_of_clear`, `clear_of_createDirectories`).  Once they are made, a file can be
written under a path exactly if the path was `Writable` before (`exists_write_iff`).
-/

namespace CommandRelay.Storage.FileSystem

variable {fs fs' fs'' : FileSystem} {place q : List String} {made : List (List String)}

/-! ## What creating changes -/

/-- Directories were added at some places, or their permissions changed; files and all that was
there are as before. -/
structure Grown (made : List (List String)) (fs fs' : FileSystem) : Prop where
  current : fs'.current = fs.current
  directory : ∀ q, fs.HasDirectory q → fs'.HasDirectory q
  file : ∀ q, fs'.HasFile q ↔ fs.HasFile q
  new : ∀ q, fs'.HasDirectory q → fs.HasDirectory q ∨ q ∈ made

theorem grown_refl (made : List (List String)) (fs : FileSystem) : Grown made fs fs :=
  ⟨rfl, fun _ h => h, fun _ => Iff.rfl, fun _ h => .inl h⟩

theorem Grown.trans (h : Grown made fs fs') (h' : Grown made fs' fs'') : Grown made fs fs'' :=
  ⟨h'.current.trans h.current, fun q hq => h'.directory q (h.directory q hq),
    fun q => (h'.file q).trans (h.file q), fun q hq => (h'.new q hq).elim (h.new q) .inr⟩

theorem Grown.mono {made' : List (List String)} (h : Grown made fs fs') (hsub : made ⊆ made') :
    Grown made' fs fs' :=
  ⟨h.current, h.directory, h.file, fun q hq => (h.new q hq).imp_right fun hq => hsub hq⟩

/-- The current directory and what lies above it are never missing. -/
theorem entryAt?_ne_none_of_prefix (h : q <+: fs.current) : fs.entryAt? q ≠ none := by
  cases hfind : fs.entries.find? (·.1 == q) with
  | some f =>
    rw [entryAt?_of_find? hfind]
    exact Option.some_ne_none _
  | none =>
    rw [entryAt?_of_find?_none hfind, if_pos (filled_iff.mpr ⟨_, List.mem_cons_self, h⟩)]
    exact Option.some_ne_none _

section

variable {mode : Nat} (hfile : ¬ fs.HasFile place)

include hfile

/-- Putting a directory where no file is leaves files as they are. -/
theorem hasFile_put : (fs.put place (.directory mode)).HasFile q ↔ fs.HasFile q := by
  constructor
  · rintro ⟨m, content, hq⟩
    rw [entryAt?_put] at hq
    split at hq
    · cases hq
    · cases hentry : fs.entryAt? q with
      | some e =>
        rw [hentry] at hq
        exact ⟨m, content, hentry.trans hq⟩
      | none =>
        rw [hentry, Option.none_or] at hq
        split at hq <;> cases hq
  · rintro ⟨m, content, hq⟩
    have hplace : q ≠ place := fun heq => hfile (heq ▸ ⟨m, content, hq⟩)
    refine ⟨m, content, ?_⟩
    rw [entryAt?_put, if_neg hplace, hq, Option.some_or]

/-- A directory that is new lies where it was put or above, where nothing was. -/
theorem hasDirectory_of_put (h : (fs.put place (.directory mode)).HasDirectory q) :
    fs.HasDirectory q ∨ fs.entryAt? q = none ∧ q <+: place := by
  obtain ⟨m, hq⟩ := h
  rcases hentry : fs.entryAt? q with _ | ⟨m', content⟩ | m'
  · refine .inr ⟨rfl, ?_⟩
    rw [entryAt?_put, hentry, Option.none_or] at hq
    split at hq
    · rename_i hplace
      exact hplace ▸ List.prefix_rfl
    · split at hq
      · assumption
      · cases hq
  · have hplace : q ≠ place := fun heq => hfile (heq ▸ ⟨m', content, hentry⟩)
    rw [entryAt?_put, if_neg hplace, hentry] at hq
    cases hq
  · exact .inl ⟨m', hentry⟩

/-- Putting a directory where no file is adds directories there and above. -/
theorem grown_put (mode : Nat) (habove : ∀ q, q <+: place → fs.entryAt? q ≠ none ∨ q ∈ made) :
    Grown made fs (fs.put place (.directory mode)) := by
  refine ⟨rfl, fun q hq => ?_, fun q => hasFile_put hfile, fun q hq => ?_⟩
  · by_cases hplace : q = place
    · rw [hplace]
      exact ⟨mode, entryAt?_put_self fs place _⟩
    · exact hq.put hplace
  · refine (hasDirectory_of_put hfile hq).imp_right ?_
    rintro ⟨hnone, hprefix⟩
    exact (habove q hprefix).resolve_left fun h => h hnone

end

/-! ## Ways that can be made -/

/-- The places on the way along a path, its end included. -/
def way (fs : FileSystem) (p : Path) : List (List String) :=
  passed (fs.origin p) p.names ++ [destination (fs.origin p) p.names]

/-- A way can be gone once directories are made where nothing is: no file is in the way, and no name
is too long. -/
structure Clear (fs : FileSystem) (p : Path) : Prop where
  size : p.size ≤ longestPath
  short : ∀ name ∈ p.names, name.utf8ByteSize ≤ longestName
  file : ∀ q ∈ fs.way p, ¬ fs.HasFile q

variable {p : Path}

theorem Grown.origin (h : Grown made fs fs') (p : Path) : fs'.origin p = fs.origin p := by
  rw [FileSystem.origin, FileSystem.origin, h.current]

theorem Grown.way (h : Grown made fs fs') (p : Path) : fs'.way p = fs.way p := by
  rw [FileSystem.way, FileSystem.way, h.origin]

theorem Grown.clear (h : Grown made fs fs') (hp : fs.Clear p) : fs'.Clear p :=
  ⟨hp.size, hp.short, fun q hq hfile => hp.file q (h.way p ▸ hq) ((h.file q).mp hfile)⟩

/-- Where a path starts, something is. -/
theorem entryAt?_ne_none_of_prefix_origin (h : q <+: fs.origin p) : fs.entryAt? q ≠ none := by
  refine entryAt?_ne_none_of_prefix (h.trans ?_)
  rw [origin]
  split
  · exact List.nil_prefix
  · exact List.prefix_rfl

theorem hasDirectory_of_ne_none (h : fs.entryAt? q ≠ none) (hfile : ¬ fs.HasFile q) :
    fs.HasDirectory q := by
  rcases hentry : fs.entryAt? q with _ | ⟨mode, content⟩ | mode
  · exact absurd hentry h
  · exact absurd ⟨mode, content, hentry⟩ hfile
  · exact ⟨mode, hentry⟩

theorem locate_of_passed (hp : fs.Clear p) (hempty : p.isEmpty = false)
    (hpassed : ∀ q ∈ passed (fs.origin p) p.names, fs.HasDirectory q) :
    fs.locate p = .ok (destination (fs.origin p) p.names) :=
  locate_eq_ok_iff.mpr ⟨hp.size, hempty, follow_eq_ok_iff.mpr ⟨rfl, hpassed, hp.short⟩⟩

theorem createDirectory_eq_ok_iff : fs.createDirectory p = .ok fs' ↔
    ∃ place, fs.locate p = .ok place ∧ fs.entryAt? place = none ∧
      fs' = fs.put place (.directory 0o755) := by
  rw [createDirectory]
  cases fs.locate p with
  | error e => exact iff_of_false (fun h => by cases h) fun ⟨_, h, _⟩ => by cases h
  | ok place =>
    simp only [Except.ok.injEq, exists_eq_left']
    dsimp only [bind, Except.bind]
    cases fs.entryAt? place <;> simp [eq_comm]

theorem createDirectory_of_some (h : fs.locate p = .ok place) {e : Entry}
    (hsome : fs.entryAt? place = some e) : fs.createDirectory p = .error .alreadyThere := by
  rw [createDirectory, h]
  dsimp only [bind, Except.bind]
  rw [hsome]

/-- Nothing is missing where a path leads. -/
theorem createDirectory_ne_missing (h : fs.locate p = .ok place) :
    fs.createDirectory p ≠ .error .missing := by
  cases hentry : fs.entryAt? place with
  | none =>
    rw [createDirectory_eq_ok_iff.mpr ⟨place, h, hentry, rfl⟩]
    exact fun heq => by cases heq
  | some e =>
    rw [createDirectory_of_some h hentry]
    exact fun heq => by cases heq

/-- Where a clear way is not there, a directory is missing. -/
theorem createDirectory_of_not_passed (hp : fs.Clear p) (hempty : p.isEmpty = false)
    (h : ¬ ∀ q ∈ passed (fs.origin p) p.names, fs.HasDirectory q) :
    fs.createDirectory p = .error .missing := by
  have hfollow := follow_cases (fun q hq => hp.file q (List.mem_append_left _ hq)) hp.short
  have hfollow := hfollow.resolve_left fun hok => h (follow_eq_ok_iff.mp hok).2.1
  have hlocate : fs.locate p = .error .missing := by
    rw [locate, if_neg (not_lt.mpr hp.size), if_neg (by rw [hempty]; exact Bool.false_ne_true)]
    exact hfollow
  rw [createDirectory, hlocate]
  rfl

/-- A directory can be made where a clear way ends, if all before is there. -/
theorem ensureDirectory_of_clear (hp : fs.Clear p) (hempty : p.isEmpty = false)
    (hpassed : ∀ q ∈ passed (fs.origin p) p.names, fs.HasDirectory q) :
    ∃ fs', fs.ensureDirectory p = .ok fs' ∧
      Grown (fs.way p) fs fs' ∧ ∀ q ∈ fs.way p, fs'.HasDirectory q := by
  have hlocate := locate_of_passed hp hempty hpassed
  have hend : destination (fs.origin p) p.names ∈ fs.way p := List.mem_concat_self
  -- All before the end is there already, so the way is complete with the directory at its end.
  have hway : ∀ {fs'}, Grown (fs.way p) fs fs' →
      fs'.HasDirectory (destination (fs.origin p) p.names) →
      ∀ q ∈ fs.way p, fs'.HasDirectory q := fun hgrown hdirectory =>
    List.forall_mem_append.mpr ⟨fun q hq => hgrown.directory q (hpassed q hq),
      List.forall_mem_singleton.mpr hdirectory⟩
  cases hentry : fs.entryAt? (destination (fs.origin p) p.names) with
  | none =>
    have hcreate := createDirectory_eq_ok_iff.mpr ⟨_, hlocate, hentry, rfl⟩
    have hgrown : Grown (fs.way p) fs
        (fs.put (destination (fs.origin p) p.names) (.directory 0o755)) :=
      grown_put (hp.file _ hend) _ fun q hq =>
        (prefix_of_mem_way hq hend).symm.imp_left entryAt?_ne_none_of_prefix_origin
    refine ⟨_, ?_, hgrown, hway hgrown ⟨_, entryAt?_put_self fs _ _⟩⟩
    rw [ensureDirectory, hcreate]
  | some e =>
    have hcreate := createDirectory_of_some hlocate hentry
    obtain ⟨mode, hdirectory⟩ := hasDirectory_of_ne_none
      (by rw [hentry]; exact Option.some_ne_none e) (hp.file _ hend)
    have hthere := isDirectory_eq_true_iff.mpr ⟨_, hlocate, mode, hdirectory⟩
    refine ⟨fs, ?_, grown_refl _ fs, hway (grown_refl _ fs) ⟨mode, hdirectory⟩⟩
    rw [ensureDirectory, hcreate]
    exact if_pos hthere

theorem createDirectories_of_ne_missing (hempty : p.isEmpty = false)
    (h : fs.createDirectory p ≠ .error .missing) :
    fs.createDirectories p = fs.ensureDirectory p := by
  rw [createDirectories, if_neg (by rw [hempty]; exact Bool.false_ne_true)]
  split
  · rename_i heq
    exact absurd heq h
  · rfl

/-- Where the directory above is missing, that one is made first. -/
theorem createDirectories_of_missing {parent : Path} (hempty : p.isEmpty = false)
    (h : fs.createDirectory p = .error .missing) (hparent : p.parent? = some parent) :
    fs.createDirectories p = (fs.createDirectories parent).bind (·.ensureDirectory p) := by
  rw [createDirectories, if_neg (by rw [hempty]; exact Bool.false_ne_true), h]
  dsimp only
  split
  · rename_i hnone
    rw [hparent] at hnone
    cases hnone
  · rename_i other hother
    obtain rfl := Option.some.inj (hparent.symm.trans hother)
    cases fs.createDirectories parent <;> rfl

variable {around : Path}

/-- The places that a path passes are those on the way along the directory around it. -/
theorem passed_eq_way (fs : FileSystem) (haround : p.parent? = some around)
    (hnames : p.names ≠ []) :
    passed (fs.origin p) p.names = fs.way around := by
  rcases Path.parent?_eq_some_iff.mp haround with ⟨hnil, -⟩ | ⟨-, rfl⟩
  · exact absurd hnil hnames
  · obtain ⟨front, last, hsplit⟩ := (List.eq_nil_or_concat' p.names).resolve_left hnames
    show passed (fs.origin p) p.names =
      passed (fs.origin p) p.names.dropLast ++ [destination (fs.origin p) p.names.dropLast]
    rw [hsplit, List.dropLast_concat]
    exact passed_concat _ front last

/-- The way along the directory around a path has no place that is not on the way along the path. -/
theorem way_parent_subset (fs : FileSystem) (haround : p.parent? = some around) :
    fs.way around ⊆ fs.way p := by
  rcases Path.parent?_eq_some_iff.mp haround with ⟨hnil, hhere, rfl⟩ | ⟨hnames, -⟩
  · have hway : fs.way p = fs.way ⟨.plain, [], false, ""⟩ := by
      rw [way, origin, hnil, hhere]
      rfl
    rw [hway]
    exact List.Subset.refl _
  · rw [← passed_eq_way fs haround hnames]
    exact List.subset_append_left _ _

/-- A directory on a clear way lies at the end of a clear way. -/
theorem Clear.parent (hp : fs.Clear p) (haround : p.parent? = some around) : fs.Clear around := by
  refine ⟨(Path.size_parent haround).trans hp.size, ?_,
    fun q hq => hp.file q (way_parent_subset fs haround hq)⟩
  rcases Path.parent?_eq_some_iff.mp haround with ⟨-, -, rfl⟩ | ⟨-, rfl⟩
  · exact List.forall_mem_nil _
  · exact fun name hname => hp.short name (List.mem_of_mem_dropLast hname)

/-- Without a name to look up, nothing is missing. -/
theorem createDirectory_ne_missing_of_nil (hnames : p.names = []) (hempty : p.isEmpty = false) :
    fs.createDirectory p ≠ .error .missing := by
  by_cases hsize : p.size ≤ longestPath
  · have hlocate : fs.locate p = .ok (fs.origin p) := by
      refine locate_eq_ok_iff.mpr ⟨hsize, hempty, ?_⟩
      rw [hnames]
      rfl
    exact createDirectory_ne_missing hlocate
  · rw [createDirectory, locate, if_pos (not_le.mp hsize)]
    exact fun h => by cases h

/-- The directories of a clear way can be made, all at once. -/
theorem createDirectories_of_clear (hp : fs.Clear p) : ∃ fs', fs.createDirectories p = .ok fs' ∧
    Grown (fs.way p) fs fs' ∧ ∀ q ∈ fs.way p, fs'.HasDirectory q := by
  -- The induction is on how often a path has a directory around it, as `createDirectories` recurs.
  induction hdepth : p.depth using Nat.strong_induction_on generalizing p with
  | _ depth ih =>
    subst hdepth
    by_cases hempty : p.isEmpty = true
    · obtain ⟨-, hnil⟩ := (Bool.and_eq_true _ _).mp hempty
      have hway : fs.way p = [fs.origin p] := by
        rw [way, List.isEmpty_iff.mp hnil]
        rfl
      refine ⟨fs, by rw [createDirectories, if_pos hempty], grown_refl _ fs, ?_⟩
      rw [hway]
      refine List.forall_mem_singleton.mpr (hasDirectory_of_ne_none ?_ (hp.file _ ?_))
      · exact entryAt?_ne_none_of_prefix_origin List.prefix_rfl
      · rw [hway]
        exact List.mem_singleton_self _
    have hempty := Bool.eq_false_iff.mpr hempty
    by_cases hall : ∀ q ∈ passed (fs.origin p) p.names, fs.HasDirectory q
    · have hlocate := locate_of_passed hp hempty hall
      rw [createDirectories_of_ne_missing hempty (createDirectory_ne_missing hlocate)]
      exact ensureDirectory_of_clear hp hempty hall
    -- Something on the way is missing, so the directory around is made first.
    have hnames : p.names ≠ [] := by
      intro hnil
      rw [hnil] at hall
      exact hall (List.forall_mem_nil _)
    obtain ⟨around, haround⟩ : ∃ around, p.parent? = some around :=
      ⟨_, Path.parent?_of_names hnames⟩
    have hway := fun fs : FileSystem => passed_eq_way fs haround hnames
    have hmissing := createDirectory_of_not_passed hp hempty hall
    obtain ⟨fs₁, hmade, hgrown, hdirectories⟩ :=
      ih _ (Path.depth_parent haround) (hp.parent haround) rfl
    obtain ⟨fs₂, hensure, hgrown', hend⟩ := ensureDirectory_of_clear (hgrown.clear hp) hempty
      (by rw [hway fs₁, hgrown.way]; exact hdirectories)
    rw [hgrown.way] at hgrown' hend
    refine ⟨fs₂, ?_, (hgrown.mono ?_).trans hgrown', hend⟩
    · rw [createDirectories_of_missing hempty hmissing haround, hmade]
      exact hensure
    · exact way_parent_subset fs haround

/-! ## Ways that were made -/

/-- Where a directory was made sure of, a path leads, and not to a file. -/
theorem locate_of_ensureDirectory (h : fs.ensureDirectory p = .ok fs') :
    ∃ place, fs.locate p = .ok place ∧ ¬ fs.HasFile place := by
  by_cases hthere : fs.isDirectory p = true
  · obtain ⟨place, hlocate, hdirectory⟩ := isDirectory_eq_true_iff.mp hthere
    exact ⟨place, hlocate, hdirectory.not_hasFile⟩
  rw [ensureDirectory] at h
  cases hcreate : fs.createDirectory p with
  | error e =>
    rw [hcreate] at h
    dsimp only at h
    rw [if_neg hthere] at h
    cases h
  | ok made =>
    obtain ⟨place, hlocate, hnone, -⟩ := createDirectory_eq_ok_iff.mp hcreate
    refine ⟨place, hlocate, fun ⟨mode, content, hfile⟩ => ?_⟩
    rw [hnone] at hfile
    cases hfile

/-- A way along which directories lie up to its end, which is no file, is clear. -/
theorem clear_of_locate (h : fs.locate p = .ok place) (hfile : ¬ fs.HasFile place) :
    fs.Clear p := by
  obtain ⟨hsize, -, hfollow⟩ := locate_eq_ok_iff.mp h
  obtain ⟨rfl, hpassed, hshort⟩ := follow_eq_ok_iff.mp hfollow
  exact ⟨hsize, hshort, List.forall_mem_append.mpr
    ⟨fun q hq => (hpassed q hq).not_hasFile, List.forall_mem_singleton.mpr hfile⟩⟩

theorem Grown.clear_of (h : Grown made fs fs') (hp : fs'.Clear p) : fs.Clear p :=
  ⟨hp.size, hp.short, fun q hq hfile => hp.file q (h.way p ▸ hq) ((h.file q).mpr hfile)⟩

/-- Directories are made along clear ways only. -/
theorem clear_of_createDirectories (hempty : p.isEmpty = false)
    (h : fs.createDirectories p = .ok fs') : fs.Clear p := by
  induction hdepth : p.depth using Nat.strong_induction_on generalizing p fs' with
  | _ depth ih =>
    subst hdepth
    by_cases hmissing : fs.createDirectory p = .error .missing
    · have hnames : p.names ≠ [] := fun hnil =>
        createDirectory_ne_missing_of_nil hnil hempty hmissing
      obtain ⟨around, haround⟩ : ∃ around, p.parent? = some around :=
        ⟨_, Path.parent?_of_names hnames⟩
      rw [createDirectories_of_missing hempty hmissing haround] at h
      cases hmade : fs.createDirectories around with
      | error e =>
        rw [hmade] at h
        cases h
      | ok fs₁ =>
        rw [hmade] at h
        -- What is made around leaves files as they are.
        have hgrown : ∃ made, Grown made fs fs₁ := by
          by_cases hnone : around.isEmpty = true
          · rw [createDirectories, if_pos hnone] at hmade
            exact ⟨[], Except.ok.inj hmade ▸ grown_refl _ fs⟩
          · have hclear := ih _ (Path.depth_parent haround) (Bool.eq_false_iff.mpr hnone) hmade rfl
            obtain ⟨fs₂, hmade', hgrown, -⟩ := createDirectories_of_clear hclear
            exact ⟨_, Except.ok.inj (hmade'.symm.trans hmade) ▸ hgrown⟩
        obtain ⟨made, hgrown⟩ := hgrown
        obtain ⟨place, hlocate, hfile⟩ := locate_of_ensureDirectory h
        exact hgrown.clear_of (clear_of_locate hlocate hfile)
    · rw [createDirectories_of_ne_missing hempty hmissing] at h
      obtain ⟨place, hlocate, hfile⟩ := locate_of_ensureDirectory h
      exact clear_of_locate hlocate hfile

/-! ## Directories that are there -/

/-- The permissions of a directory at the end of a way of directories can be set. -/
theorem setMode_of_way (hp : fs.Clear p) (hempty : p.isEmpty = false)
    (hname : p.asDirectory = false)
    (hway : ∀ q ∈ fs.way p, fs.HasDirectory q) (mode : Nat) :
    ∃ fs', fs.setMode p mode = .ok fs' ∧ Grown [] fs fs' := by
  have hlocate := locate_of_passed hp hempty fun q hq => hway q (List.mem_append_left _ hq)
  have hend : destination (fs.origin p) p.names ∈ fs.way p := List.mem_concat_self
  obtain ⟨before, hdirectory⟩ := hway _ hend
  refine ⟨_, ?_, grown_put (hp.file _ hend) mode fun q hq => .inl ?_⟩
  · rw [setMode, hlocate]
    show (fs.entry p).bind _ = _
    rw [entry_of_locate hlocate hdirectory hname]
    rfl
  · rcases prefix_of_mem_way hq hend with hq | habove
    · obtain ⟨m, hq⟩ := hway q hq
      rw [hq]
      exact Option.some_ne_none _
    · exact entryAt?_ne_none_of_prefix_origin habove

/-- A file can be written under a path, once the directories on its way are made: no file is in the
way, and the place that it leads to is neither a directory nor one of those that are made. -/
structure Writable (fs : FileSystem) (p : Path) : Prop where
  size : p.size ≤ longestPath
  short : ∀ name ∈ p.names, name.utf8ByteSize ≤ longestName
  file : p.asDirectory = false
  way : ∀ q ∈ passed (fs.origin p) p.names, ¬ fs.HasFile q
  free : ¬ fs.HasDirectory (destination (fs.origin p) p.names)
  apart : destination (fs.origin p) p.names ∉ passed (fs.origin p) p.names

/-- The directories around a file that can be written lie on a clear way. -/
theorem Writable.parent (hp : fs.Writable p) (haround : p.parent? = some around)
    (hnames : p.names ≠ []) : fs.Clear around := by
  refine ⟨(Path.size_parent haround).trans hp.size, ?_, ?_⟩
  · rcases Path.parent?_eq_some_iff.mp haround with ⟨hnil, -⟩ | ⟨-, rfl⟩
    · exact absurd hnil hnames
    · exact fun name hname => hp.short name (List.mem_of_mem_dropLast hname)
  · rw [← passed_eq_way fs haround hnames]
    exact hp.way

/-- Once the directories on its way are made, a file is written under a path exactly if one could be
before. -/
theorem exists_write_iff (hnames : p.names ≠ [])
    (hgrown : Grown (passed (fs.origin p) p.names) fs fs')
    (hpassed : ∀ q ∈ passed (fs.origin p) p.names, fs'.HasDirectory q) (mode : Nat)
    (content : List UInt8) : (∃ fs'', fs'.write p mode content = .ok fs'') ↔ fs.Writable p := by
  have hempty : p.isEmpty = false := by
    rw [Path.isEmpty, List.isEmpty_eq_false_iff.mpr hnames, Bool.and_false]
  constructor
  · rintro ⟨fs'', hwrite⟩
    obtain ⟨place, hlocate, hfile, hput⟩ := write_eq_ok_iff.mp hwrite
    obtain ⟨hsize, -, hfollow⟩ := locate_eq_ok_iff.mp hlocate
    obtain ⟨rfl, -, hshort⟩ := follow_eq_ok_iff.mp hfollow
    rw [hgrown.origin] at hput
    have hfree : ¬ fs'.HasDirectory (destination (fs.origin p) p.names) := by
      rintro ⟨m, hdirectory⟩
      rw [hdirectory] at hput
      rcases hput with ⟨hnone, -⟩ | ⟨_, _, hsome, -⟩
      · cases hnone
      · cases hsome
    exact ⟨hsize, hshort, hfile, fun q hq h => (hpassed q hq).not_hasFile ((hgrown.file q).mpr h),
      fun h => hfree (hgrown.directory _ h), fun h => hfree (hpassed _ h)⟩
  · -- Making the directories made no file, and none of them stands at the place of the file.
    intro hp
    have hlocate : fs'.locate p = .ok (destination (fs.origin p) p.names) := by
      refine locate_eq_ok_iff.mpr ⟨hp.size, hempty, ?_⟩
      rw [hgrown.origin]
      exact follow_eq_ok_iff.mpr ⟨rfl, hpassed, hp.short⟩
    have hfree : ¬ fs'.HasDirectory (destination (fs.origin p) p.names) := fun hdirectory =>
      (hgrown.new _ hdirectory).elim hp.free hp.apart
    rcases hentry : fs'.entryAt? (destination (fs.origin p) p.names) with _ | ⟨old, before⟩ | m
    · exact ⟨_, write_eq_ok_iff.mpr ⟨_, hlocate, hp.file, .inl ⟨hentry, rfl⟩⟩⟩
    · exact ⟨_, write_eq_ok_iff.mpr ⟨_, hlocate, hp.file, .inr ⟨old, before, hentry, rfl⟩⟩⟩
    · exact absurd ⟨m, hentry⟩ hfree

end CommandRelay.Storage.FileSystem
