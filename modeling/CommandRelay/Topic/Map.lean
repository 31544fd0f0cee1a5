import CommandRelay.Json.Canonical

/-!
# Topic maps

The topics of one side of the relay under their keys, each key once and in ascending order.
-/

namespace CommandRelay

/-- Topics under their keys. -/
structure TopicMap where
  entries : List (String × String)
  ascending : Json.Ascending entries
  deriving DecidableEq

namespace TopicMap

/-- The map that a list of keys and topics spells; of two topics for one key the later one counts.
-/
def ofList (entries : List (String × String)) : TopicMap :=
  ⟨Json.mapping entries, Json.ascending_mapping entries⟩

instance : Inhabited TopicMap := ⟨ofList []⟩

/-- The topic under a key. -/
def find? (m : TopicMap) (key : String) : Option String := Json.field? m.entries key

/-- The topic under a key, where an empty topic counts as none. -/
def topic? (m : TopicMap) (key : String) : Option String := (m.find? key).filter (· ≠ "")

end TopicMap

end CommandRelay
