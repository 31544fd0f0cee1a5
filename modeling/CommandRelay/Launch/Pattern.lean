/-!
# Patterns

A directive may ask for the value of a field by a regular expression.  Only whether that is well
formed matters here: groups and classes are closed, and what is to be repeated stands before a sign
of repetition.  Counted repetitions do not occur, because a closing brace ends the pattern.
-/

namespace CommandRelay.Launch.Pattern

/-- Where a reader of a pattern stands. -/
structure State where
  /-- The number of open groups. -/
  groups : Nat := 0
  /-- The number of open classes, which can be nested. -/
  classes : Nat := 0
  /-- Whether nothing has been said in the innermost class. -/
  classOpened : Bool := false
  /-- Whether there is something to repeat. -/
  repeatable : Bool := false
  /-- Whether a backslash has been read. -/
  escaping : Bool := false

/-- Whether a character can stand behind a backslash: any ASCII one but digits, angle brackets and
letters without a meaning. -/
def isEscape (c : Char) : Bool :=
  c.toNat < 0x80 && c != '<' && c != '>' &&
    (!c.isAlphanum || "aftnrvxuUpPdDsSwWAz".toList.contains c)

/-- Reads one character; nothing if it makes the pattern malformed. -/
def step (s : State) (c : Char) : Option State :=
  if s.escaping then
    if isEscape c then some { s with escaping := false, repeatable := true, classOpened := false }
    else none
  else if c = '\\' then some { s with escaping := true }
  else if 0 < s.classes then
    if c = '[' then some { s with classes := s.classes + 1, classOpened := true }
    else if c = '^' && s.classOpened then some s
    else if c = ']' && !s.classOpened then
      some { s with classes := s.classes - 1, repeatable := true }
    else some { s with classOpened := false }
  else match c with
    | '(' => some { s with groups := s.groups + 1, repeatable := false }
    | ')' =>
      if s.groups = 0 then none else some { s with groups := s.groups - 1, repeatable := true }
    | '[' => some { s with classes := 1, classOpened := true }
    | '|' => some { s with repeatable := false }
    | '*' | '+' | '?' => if s.repeatable then some s else none
    | '{' => none
    | _ => some { s with repeatable := true }

/-- Whether a pattern is well formed. -/
def isWellFormed (cs : List Char) : Bool :=
  (cs.foldlM step {}).any fun s => s.groups = 0 && s.classes = 0 && !s.escaping

end CommandRelay.Launch.Pattern
