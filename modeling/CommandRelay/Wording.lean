/-!
# The words of the decoders

The decoders of JSON and TOML are not part of the relay, and what they say of a document that they
refuse they say in words of their own.  The relay passes the words on, in its log and to whoever
sent a message; so they are given from outside, and whatever holds holds for all of them.
-/

namespace CommandRelay

/-- What the decoders say.  Where nobody gives their words, they say nothing. -/
structure Wording where
  /-- What is said of octets that are no envelope. -/
  envelope : List UInt8 → String := fun _ => ""
  /-- What is said of a text that is no configuration, or that has a value refused for its
  meaning. -/
  configuration : String → String := fun _ => ""
  /-- What is said of an integer that does not fit a document. -/
  integer : String := ""

end CommandRelay
