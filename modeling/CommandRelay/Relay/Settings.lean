import CommandRelay.Delivery
import CommandRelay.Topic.Map
import CommandRelay.Wording

/-!
# Settings of the relay

The topics on both sides, how answers are delivered, how long a command may take, and where failures
are reported that can not be answered; and the words of the decoder that a report passes on.
-/

namespace CommandRelay.Relay

/-- What handlers go by. -/
structure Settings where
  externalTopics : TopicMap := default
  internalTopics : TopicMap := default
  delivery : Delivery := {}
  requestTimeout : Duration := ⟨0⟩
  fallbackTopic : Option String := none
  wording : Wording := {}

namespace Settings

/-- The topic map of a side. -/
def topics (s : Settings) : Side → TopicMap
  | .external => s.externalTopics
  | .internal => s.internalTopics

/-- The topic under a key; an empty topic counts as missing. -/
def topic? (s : Settings) (side : Side) (key : String) : Option String :=
  (s.topics side).topic? key

/-- The fallback topic; an empty one counts as missing. -/
def fallback? (s : Settings) : Option String := s.fallbackTopic.filter (· ≠ "")

end Settings

end CommandRelay.Relay
