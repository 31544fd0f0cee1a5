import CommandRelay.Topic.Level

/-!
# Topic filters

A filter is a topic in which the level `+` stands for any one level and the level `#` for all levels
from there on, none included.
-/

namespace CommandRelay.Topic

/-- Whether filter levels match topic levels. -/
def matchLevels : (filter topic : List String) → Bool
  | [], [] => true
  | f :: _, [] => f == "#"
  | [], _ :: _ => false
  | f :: fs, t :: ts => f == "#" || ((f == "+" || f == t) && matchLevels fs ts)

/-- Whether a filter matches a topic. -/
def accepts (filter topic : String) : Bool :=
  matchLevels (levels filter) (levels topic)

end CommandRelay.Topic
