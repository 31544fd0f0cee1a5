import CommandRelay.Launch.Directive

/-!
# Log filters

A filter is a list of directives.  Of those that are about an event the most special one decides
whether it is shown; a later one replaces an earlier one that is about the same events.  Where no
directive can be read all errors are shown, but an empty filter shows nothing.
-/

namespace CommandRelay.Launch

/-- A filter. -/
abbrev Filter := List Directive

namespace Filter

/-- The filter with some directives, or with one level for everything if there are none. -/
def ofDirectives (fallback : Level) (ds : List Directive) : Filter :=
  if ds.isEmpty then [{ level := fallback }] else ds

/-- Whether the reading of a directive had to cut inside a character. -/
def isTorn : Except Misread Directive → Bool
  | .error .torn => true
  | .error .malformed | .ok _ => false

/-- Reads a filter.  If some of its directives are malformed the others count. -/
def ofText (s : String) : Except Misread Filter := do
  let parts := (Text.split ',' s.toList).filter (· ≠ [])
  let readings := parts.map fun p => Directive.ofText (String.ofList p)
  if readings.any isTorn then .error .torn
  let read := readings.filterMap Except.toOption
  return ofDirectives (if read.length = parts.length then .off else .error) read

/-- The directive that decides over an event of a part of the program. -/
def decisive? (f : Filter) (target : String) (fields : List String) : Option Directive :=
  (f.filter (·.isAbout target fields)).foldl (fun best d =>
    match best with
    | some b => if d.outranks b then some d else some b
    | none => some d) none

/-- Whether an event of a part of the program is shown.  Its message counts as a field. -/
def shows (f : Filter) (target : String) (e : Event) : Bool :=
  match f.decisive? target ("message" :: e.details.map (·.1)) with
  | some d => (Level.ofSeverity e.severity).rank ≤ d.level.rank
  | none => false

end Filter

end CommandRelay.Launch
