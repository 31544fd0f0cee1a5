import CommandRelay.Proofs.Config.Saved
import CommandRelay.Proofs.Storage.Directories
import CommandRelay.Proofs.Text.Utf8

/-!
# Configurations in files

1. **Loading** — what was saved without fault is loaded, whatever the file system was like
   (`loadFrom_of_saveTo`).  With the round trip of trees and texts, a configuration survives
   (`saved_configuration_is_loaded`).
2. **Saving** — the directory around a path is made ready exactly if its way is clear, and the file
   is written in it exactly if the path was writable.  A bare name lies in the empty path, which can
   not be made ready; so a configuration is saved exactly where there is a slash besides
   (`exists_saveTo_iff`).
-/

namespace CommandRelay.Config

open Storage

variable {c : Config} {fs fs' : FileSystem} {path : String} {words : Wording}

/-! ## Loading what was saved -/

/-- A configuration is saved by making the directory ready and writing its text. -/
theorem saveTo_eq_ok_iff : c.saveTo fs path words = .ok fs' ↔
    ∃ ready, prepareDirectory fs (.ofText path) = .ok ready ∧
      ∃ document, c.toToml words = .ok document ∧
        ready.write (.ofText path) 0o600 (Utf8.encode document.render) = .ok fs' := by
  show (prepareDirectory fs (.ofText path)).bind (fun ready => (c.toToml words).bind _) = _ ↔ _
  rw [bind_eq_ok_iff]
  refine exists_congr fun ready => and_congr_right fun _ => ?_
  rw [bind_eq_ok_iff]
  refine exists_congr fun document => and_congr_right fun _ => ?_
  cases ready.write (.ofText path) 0o600 (Utf8.encode document.render) <;> simp

/-- Without variables, a configuration that passes the check is loaded from a file with its text. -/
theorem loadFrom_of_text (h : Fitting c) (hcheck : c.check = .ok ())
    (hthere : fs.isThere (.ofText path) = true)
    (hread : fs.read (.ofText path) = .ok (Utf8.encode c.written.render)) :
    loadFrom fs path (fun _ => none) words = .ok (some c) := by
  have htext : readText fs path = .ok c.written.render :=
    readText_eq_ok_iff.mpr ⟨_, hread, Utf8.decode?_encode _⟩
  have hfiled : filed fs path words = .ok c := by
    rw [filed, if_pos hthere, htext]
    exact ofText_render h
  have heffective : c.effective (fun _ => none) = .ok c := by
    show (c.check.bind fun _ => .ok c) = .ok c
    rw [hcheck]
    rfl
  rw [loadFrom_of_isThere hthere, outcome, hfiled]
  show (c.effective fun _ => none).map some = .ok (some c)
  rw [heffective]
  rfl

/-- Whatever was saved is loaded. -/
theorem loadFrom_of_saveTo (h : Fitting c) (hcheck : c.check = .ok ())
    (hsave : c.saveTo fs path words = .ok fs') :
    loadFrom fs' path (fun _ => none) words = .ok (some c) := by
  obtain ⟨ready, -, document, hdocument, hwrite⟩ := saveTo_eq_ok_iff.mp hsave
  obtain ⟨-, rfl⟩ := toToml_eq_ok_iff.mp hdocument
  obtain ⟨hthere, hread⟩ := FileSystem.read_of_write hwrite
  exact loadFrom_of_text h hcheck hthere hread

/-! ## Saving below a directory -/

section

variable {p parent : Path} (hparent : p.parent? = some parent)

include hparent

/-- A directory is ready once it and those around it are made and it is private. -/
theorem prepareDirectory_eq_ok_iff : prepareDirectory fs p = .ok fs' ↔
    ∃ made, fs.createDirectories parent = .ok made ∧ made.setMode parent 0o700 = .ok fs' := by
  rw [prepareDirectory, hparent]
  dsimp only
  cases fs.createDirectories parent with
  | error e => exact iff_of_false (fun h => by cases h) fun ⟨_, h, _⟩ => by cases h
  | ok made =>
    simp only [Except.ok.injEq, exists_eq_left']
    cases made.setMode parent 0o700 <;> simp

/-- A directory can be made ready at the end of a clear way. -/
theorem prepareDirectory_of_clear (hclear : fs.Clear parent) (hempty : parent.isEmpty = false) :
    ∃ ready, prepareDirectory fs p = .ok ready ∧ FileSystem.Grown (fs.way parent) fs ready ∧
      ∀ q ∈ fs.way parent, ready.HasDirectory q := by
  obtain ⟨made, hmade, hgrown, hdirectories⟩ := FileSystem.createDirectories_of_clear hclear
  obtain ⟨ready, hset, hgrown'⟩ := FileSystem.setMode_of_way (hgrown.clear hclear) hempty
    (Path.asDirectory_parent hparent) (by rwa [hgrown.way]) 0o700
  exact ⟨ready, (prepareDirectory_eq_ok_iff hparent).mpr ⟨made, hmade, hset⟩,
    hgrown.trans (hgrown'.mono (List.nil_subset _)),
    fun q hq => hgrown'.directory q (hdirectories q hq)⟩

end

/-- The directory around a bare name is the empty path, which is nothing to create, but whose
permissions can not be set. -/
theorem saveTo_of_bare (c : Config) (fs : FileSystem) (hpath : path ≠ "")
    (hbare : '/' ∉ path.toList) :
    c.saveTo fs path words = .error (.permissionsNotSet IoFault.missing.message) := by
  obtain ⟨parent, hparent, hempty, hsize⟩ := Path.parent?_of_bare hpath hbare
  have hcreate : fs.createDirectories parent = .ok fs := by
    rw [FileSystem.createDirectories, if_pos hempty]
  have hmode : fs.setMode parent 0o700 = .error .missing := by
    rw [FileSystem.setMode, FileSystem.locate, hsize, if_neg (by decide), if_pos hempty]
    rfl
  have hready : prepareDirectory fs (.ofText path) =
      .error (.permissionsNotSet IoFault.missing.message) := by
    rw [prepareDirectory, hparent]
    dsimp only
    rw [hcreate]
    dsimp only
    rw [hmode]
  rw [saveTo, hready]
  rfl

/-- A configuration can be saved exactly if its integers fit TOML, a file can be written under the
path, and there is a slash in it. -/
theorem exists_saveTo_iff : (∃ fs', c.saveTo fs path words = .ok fs') ↔
    Fitting c ∧ fs.Writable (.ofText path) ∧ '/' ∈ path.toList := by
  constructor
  · rintro ⟨fs', hsave⟩
    obtain ⟨ready, hready, document, hdocument, hwrite⟩ := saveTo_eq_ok_iff.mp hsave
    obtain ⟨-, -, hfile, -⟩ := FileSystem.write_eq_ok_iff.mp hwrite
    have hslash : '/' ∈ path.toList := by
      by_contra hbare
      have hpath : path ≠ "" := by
        rintro rfl
        cases hfile
      rw [saveTo_of_bare c fs hpath hbare] at hsave
      cases hsave
    have hnames := Path.names_ne_nil hfile
    obtain ⟨parent, hparent, hempty⟩ := Path.exists_parent?_ofText hfile
    -- That the directory was made ready says that its way was clear, and so which directories there
    -- are.
    obtain ⟨made, hmade, -⟩ := (prepareDirectory_eq_ok_iff hparent).mp hready
    have hclear := FileSystem.clear_of_createDirectories (hempty hslash) hmade
    obtain ⟨ready', hready', hgrown, hway⟩ :=
      prepareDirectory_of_clear hparent hclear (hempty hslash)
    obtain rfl := Except.ok.inj (hready'.symm.trans hready)
    rw [← FileSystem.passed_eq_way fs hparent hnames] at hgrown hway
    exact ⟨(toToml_eq_ok_iff.mp hdocument).1,
      (FileSystem.exists_write_iff hnames hgrown hway _ _).mp ⟨fs', hwrite⟩, hslash⟩
  · rintro ⟨hfits, hwritable, hslash⟩
    have hnames := Path.names_ne_nil hwritable.file
    obtain ⟨parent, hparent, hempty⟩ := Path.exists_parent?_ofText hwritable.file
    obtain ⟨ready, hready, hgrown, hway⟩ :=
      prepareDirectory_of_clear hparent (hwritable.parent hparent hnames) (hempty hslash)
    rw [← FileSystem.passed_eq_way fs hparent hnames] at hgrown hway
    obtain ⟨fs', hwrite⟩ := (FileSystem.exists_write_iff hnames hgrown hway
      0o600 (Utf8.encode c.written.render)).mpr hwritable
    exact ⟨fs', saveTo_eq_ok_iff.mpr ⟨ready, hready, _, toToml_eq_ok_iff.mpr ⟨hfits, rfl⟩, hwrite⟩⟩

/-! ## Configurations that survive -/

/-- **A configuration survives being saved and loaded.**  The TOML tree of any configuration whose
integers fit TOML is read as the very same configuration, and so is the text of the tree.  If it
passes the check, then wherever it was saved, it is what is loaded from there. -/
theorem saved_configuration_is_loaded (h : Fitting c) (words : Wording) :
    (∃ tree, c.toToml words = .ok tree ∧ read tree.toDatum = .ok c ∧
      ofText tree.render words = .ok c) ∧
      (c.check = .ok () → ∀ (fs : FileSystem) (path : String) (fs' : FileSystem),
        c.saveTo fs path words = .ok fs' →
          loadFrom fs' path (fun _ => none) words = .ok (some c)) := by
  have htree : c.toToml words = .ok c.written := toToml_eq_ok_iff.mpr ⟨h, rfl⟩
  refine ⟨⟨c.written, htree, c.read_written, ofText_render h⟩, ?_⟩
  intro hcheck fs path fs' hsave
  exact loadFrom_of_saveTo h hcheck hsave

/-- A configuration with hardly a plain value in it. -/
def oddments : Config :=
  { requestTimeoutMs := 9223372036854775807
    external :=
      { connection :=
          { host := "a \"b\" \\", port := 65535, username := "\t\x07", password := "é\n" }
        qos := .exactlyOnce
        retain := true
        fallbackTopic := some ""
        topics := .ofList [("", "x = 1"), ("# a.b", "'")] }
    internal := { connection := { keepAliveSecs := 0 }, topics := .ofList [] }
    devices :=
      [{ name := "saw", service := "" },
       { name := "", service := "[x]",
         commands := [{ name := "" }, { name := "", get := false }] }] }

/-- A home with a file in it. -/
def home : FileSystem :=
  { current := ["home"], entries := [(["home", "notes"], .file 0o644 [0x78])] }

/-- The oddments are saved below a new directory and loaded again. -/
theorem oddments_are_loaded : ∃ fs', oddments.saveTo home "attic/../box//relay.toml" = .ok fs' ∧
    loadFrom fs' "attic/../box//relay.toml" (fun _ => none) = .ok (some oddments) := by
  have hfits : Fitting oddments := ⟨by decide, by decide, by decide⟩
  have hwritable : home.Writable (.ofText "attic/../box//relay.toml") :=
    ⟨by decide, by decide, by decide, by decide, by decide, by decide⟩
  obtain ⟨fs', hsave⟩ := exists_saveTo_iff.mpr ⟨hfits, hwritable, by decide⟩
  exact ⟨fs', hsave, (saved_configuration_is_loaded hfits {}).2 rfl _ _ _ hsave⟩

/-! ## Initial configurations -/

/-- The integers of the default configuration fit TOML. -/
theorem fitting_default : Fitting {} := ⟨by decide, by decide, by decide⟩

/-- **The initial configuration.**  The default configuration is saved exactly if a file can be
written under the path and there is a slash in it, and then it is what is loaded from there.  Under
a bare name it is refused whatever else holds: the directory of a bare name is the empty path, and
what is not there has no permissions that could be set. -/
theorem initial_configuration_is_saved_below_slash (fs : FileSystem) (path : String)
    (words : Wording) :
    ((∃ fs', saveTo {} fs path words = .ok fs') ↔
        fs.Writable (.ofText path) ∧ '/' ∈ path.toList) ∧
      (∀ fs', saveTo {} fs path words = .ok fs' →
        loadFrom fs' path (fun _ => none) words = .ok (some {})) ∧
      (path ≠ "" → '/' ∉ path.toList →
        saveTo {} fs path words = .error (.permissionsNotSet IoFault.missing.message)) := by
  refine ⟨?_, fun fs' hsave => ?_, fun hpath hbare => ?_⟩
  · rw [exists_saveTo_iff, and_iff_right fitting_default]
  · exact loadFrom_of_saveTo fitting_default rfl hsave
  · exact saveTo_of_bare {} fs hpath hbare

/-- With a point and a slash before its name, the file is made. -/
theorem name_behind_point_is_initial : ∃ fs', saveTo {} home "./relay.toml" = .ok fs' ∧
    loadFrom fs' "./relay.toml" (fun _ => none) = .ok (some {}) := by
  have hinitial := initial_configuration_is_saved_below_slash home "./relay.toml" {}
  have hwritable : home.Writable (.ofText "./relay.toml") :=
    ⟨by decide, by decide, by decide, by decide, by decide, by decide⟩
  obtain ⟨fs', hsave⟩ := hinitial.1.mpr ⟨hwritable, by decide⟩
  exact ⟨fs', hsave, hinitial.2.1 fs' hsave⟩

/-- By its bare name, the same file is not made, though nothing is there and its directory is. -/
theorem bare_name_is_not_initial :
    home.Writable (.ofText "relay.toml") ∧ home.isThere (.ofText "relay.toml") = false ∧
      home.HasDirectory ["home"] ∧
      saveTo {} home "relay.toml" =
        .error (.permissionsNotSet "No such file or directory (os error 2)") :=
  ⟨⟨by decide, by decide, by decide, by decide, by decide, by decide⟩, by decide,
    ⟨0o755, by decide⟩,
    saveTo_of_bare {} home (by decide) (by decide)⟩

end CommandRelay.Config
