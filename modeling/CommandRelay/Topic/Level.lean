import CommandRelay.Text.Blank
import CommandRelay.Text.Split

/-!
# Topic levels

A topic is a text whose levels are separated by slashes; levels may be empty.  `levels` takes a
topic apart and `ofLevels` puts levels together again; the two undo each other (`ofLevels_levels`,
`levels_ofLevels`).  `join` builds a topic from parts that may carry slashes of their own.
-/

namespace CommandRelay.Topic

/-- The levels of a topic; there is always at least one. -/
def levels (topic : String) : List String := (Text.split '/' topic.toList).map String.ofList

/-- The topic with the given levels. -/
def ofLevels (ls : List String) : String := String.ofList (Text.unsplit '/' (ls.map String.toList))

/-- Whether a character separates levels. -/
def isSlash (c : Char) : Bool := c == '/'

/-- A part without slashes at either end. -/
def trimSlashes (part : List Char) : List Char := Text.stripWhile isSlash part

/-- A part without slashes at its end. -/
def trimSlashesEnd (part : List Char) : List Char := Text.dropEndWhile isSlash part

/-- The topic built from parts: slashes at the ends of a part go, and so do parts that are empty
then. -/
def join (parts : List String) : String :=
  String.ofList <|
    Text.unsplit '/' ((parts.map fun p => trimSlashes p.toList).filter (!·.isEmpty))

theorem ofLevels_levels (topic : String) : ofLevels (levels topic) = topic := by
  simp [ofLevels, levels, Function.comp_def, Text.unsplit_split]

theorem levels_ofLevels {ls : List String} (hne : ls ≠ []) (h : ∀ l ∈ ls, '/' ∉ l.toList) :
    levels (ofLevels ls) = ls := by
  have : ∀ l ∈ ls.map String.toList, '/' ∉ l := by
    intro l hl
    obtain ⟨s, hs, rfl⟩ := List.mem_map.1 hl
    exact h s hs
  simp [levels, ofLevels, Text.split_unsplit (by simpa using hne) this, Function.comp_def]

end CommandRelay.Topic
