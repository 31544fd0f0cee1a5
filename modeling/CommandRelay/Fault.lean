import CommandRelay.Duration
import CommandRelay.Json.Document
import CommandRelay.Text.Blank

/-!
# Faults

Everything that can go wrong while a message is relayed or the relay is set up, one constructor for
each cause, and its text in `Fault.message`.  A collaborator that the relay is given from outside
may fail for reasons of its own; those are `reported` with their kind and words.  A decoder gives
its reason in words of its own, too.
-/

namespace CommandRelay

/-- What a command does with a device resource. -/
inductive Method where
  | get
  | set
  deriving DecidableEq, Repr

/-- The canonical word of a method. -/
def Method.word : Method → String
  | .get => "get"
  | .set => "set"

/-- Which of the two sides of the relay a topic map belongs to. -/
inductive Side where
  | external
  | internal
  deriving DecidableEq, Repr

/-- The word for a side. -/
def Side.word : Side → String
  | .external => "external"
  | .internal => "internal"

/-- The kinds of fault. -/
inductive FaultKind where
  | decode | encode | config | topicScheme | validation | routing | timeout | transport | publish
  deriving DecidableEq, Repr

/-- Why something went wrong. -/
inductive Fault where
  /-- A reason in the words of whoever reports it. -/
  | reported (kind : FaultKind) (reason : String)
  /-- The octets of a message are no envelope, for a reason in the words of the decoder. -/
  | undecodable (reason : String := "")
  /-- A command topic needs at least three levels. -/
  | tooFewLevels (topic : String) (levels : Nat)
  | unknownMethod (word : String)
  /-- A query parameter has a name without a visible character. -/
  | blankParameter
  | parameterNotText (name : String) (value : Json)
  /-- A reserved query parameter is neither `true` nor `false`. -/
  | reservedParameter (name value : String)
  | parameterNotInteger (name : String) (value : Json)
  | negativeOffset (offset : Int)
  | limitTooSmall (limit : Int)
  | unknownDevice (device : String)
  | unknownCommand (command device : String)
  | unsupportedMethod (command device : String) (method : Method)
  /-- A request without an ID can not be correlated with its response. -/
  | noRequestId
  | alreadyInFlight (requestId : String)
  | noListener (topic : String)
  | timedOut (requestId : String) (after : Duration)
  /-- The waiter of a request went before a response came. -/
  | channelClosed (requestId : String)
  /-- The client of the internal link did not take a request. -/
  | notSent (service topic reason : String)
  /-- A command was not answered, for a reason of the internal bus. -/
  | commandFailed (cause : Fault)
  | notSubscribed (filter reason : String)
  | notPublished (topic reason : String)
  /-- A topic map lacks a topic, or the topic is empty. -/
  | missingTopic (key : String) (side : Side)
  /-- The internal link can not receive responses without their prefix. -/
  | missingResponsePrefix
  | invalidQos (level : Nat)
  | zeroTimeout
  | blankHost (table : String)
  | zeroPort (table : String)
  | duplicateDevice (name : String)
  | configNotRead (path reason : String)
  /-- The text of a configuration file is not a configuration, for a reason in the words of the
  decoder. -/
  | configMalformed (reason : String := "")
  /-- A value in a configuration file was refused for its meaning.  The decoder reports the cause in
  words of its own. -/
  | configRefused (cause : Fault) (reason : String := "")
  | configNotSerialized (reason : String)
  | directoryNotCreated (reason : String)
  | permissionsNotSet (reason : String)
  | configNotWritten (path reason : String)
  deriving DecidableEq, Repr

namespace Keys

/-- The topic filter under which command requests arrive. -/
def commandRequest : String := "CommandRequestTopic"

/-- The topic filter under which catalogue queries arrive. -/
def queryRequest : String := "CommandQueryRequestTopic"

/-- Where command responses go: externally the start of their topics, internally that of the topics
on which services answer. -/
def commandResponse : String := "CommandResponseTopicPrefix"

/-- The topic of answers to catalogue queries. -/
def queryResponse : String := "QueryResponseTopic"

/-- The start of the topics on which services receive commands. -/
def deviceRequest : String := "DeviceCommandRequestTopicPrefix"

end Keys

namespace FaultKind

/-- What stands before the reason in the text of a fault. -/
def preamble : FaultKind → String
  | .decode => "failed to decode message envelope: "
  | .encode => "failed to encode message envelope: "
  | .config => "configuration error: "
  | .topicScheme => "invalid topic scheme: "
  | .validation | .routing | .timeout | .transport | .publish => ""

end FaultKind

namespace Fault

/-- The kind of a fault. -/
def kind : Fault → FaultKind
  | .reported kind _ => kind
  | .undecodable _ => .decode
  | .tooFewLevels _ _ => .topicScheme
  | .unknownMethod _ | .blankParameter | .parameterNotText _ _ | .reservedParameter _ _
  | .parameterNotInteger _ _ | .negativeOffset _ | .limitTooSmall _ => .validation
  | .unknownDevice _ | .unknownCommand _ _ | .unsupportedMethod _ _ _ => .routing
  | .noRequestId | .alreadyInFlight _ | .noListener _ | .channelClosed _ | .notSent _ _ _
  | .commandFailed _ | .notSubscribed _ _ => .transport
  | .timedOut _ _ => .timeout
  | .notPublished _ _ => .publish
  | .missingTopic _ _ | .missingResponsePrefix | .invalidQos _ | .zeroTimeout | .blankHost _
  | .zeroPort _ | .duplicateDevice _ | .configNotRead _ _ | .configMalformed _
  | .configRefused _ _ | .configNotSerialized _ | .directoryNotCreated _ | .permissionsNotSet _
  | .configNotWritten _ _ => .config

/-- The reason of a fault, without what its kind puts before it. -/
def reason : Fault → String
  | .reported _ reason => reason
  | .undecodable reason => reason
  | .tooFewLevels topic levels =>
    s!"'{topic}' has {levels} level(s), expected request topic scheme " ++
      "'#/<device-name>/<command-name>/<method>'"
  | .unknownMethod word => s!"unknown request method: {word}, only 'get' or 'set' is allowed"
  | .blankParameter => "invalid query parameter: empty parameter name"
  | .parameterNotText name value =>
    s!"invalid query parameter {name}: expected a string value, got {value.render}"
  | .reservedParameter name value =>
    s!"invalid query parameter, {name} has to be 'true' or 'false', got '{value}'"
  | .parameterNotInteger name value =>
    s!"invalid query parameter {name}: {value.render} is not an integer"
  | .negativeOffset offset =>
    "invalid query parameter offset: " ++ String.ofList (Text.decimalInt offset) ++
      " must not be negative"
  | .limitTooSmall limit =>
    "invalid query parameter limit: " ++ String.ofList (Text.decimalInt limit) ++
      " must be -1 or greater"
  | .unknownDevice device => s!"device '{device}' not found"
  | .unknownCommand command device => s!"command '{command}' not found on device '{device}'"
  | .unsupportedMethod command device method =>
    s!"command '{command}' on device '{device}' does not support '{method.word}'"
  | .noRequestId => "request ID is required to correlate a response"
  | .alreadyInFlight requestId => s!"request '{requestId}' is already in flight"
  | .noListener topic => s!"no device service is listening on '{topic}'"
  | .timedOut requestId after =>
    s!"timed out after {after.toText} waiting for response to request '{requestId}'"
  | .channelClosed requestId => s!"response channel for request '{requestId}' closed"
  | .notSent service topic reason =>
    s!"failed to send request to service '{service}' on '{topic}': {reason}"
  | .commandFailed cause =>
    "Failed to send DeviceCommand request with internal MessageBus: " ++ cause.kind.preamble ++
      cause.reason
  | .notSubscribed filter reason => s!"could not subscribe to topic '{filter}': {reason}"
  | .notPublished topic reason => s!"could not publish to topic '{topic}': {reason}"
  | .missingTopic key side => s!"{key} not provided in {side.word} topics"
  | .missingResponsePrefix => s!"{Keys.commandResponse} not provided in message_bus.topics"
  | .invalidQos level => s!"invalid QoS level {level}, expected 0, 1 or 2"
  | .zeroTimeout => "request_timeout_ms must be greater than zero"
  | .blankHost table => s!"{table}.host must not be empty"
  | .zeroPort table => s!"{table}.port must not be 0"
  | .duplicateDevice name => s!"device '{name}' is listed more than once"
  | .configNotRead path reason => s!"failed to read config at {path}: {reason}"
  | .configMalformed reason | .configRefused _ reason => s!"failed to parse config: {reason}"
  | .configNotSerialized reason => s!"failed to serialize config: {reason}"
  | .directoryNotCreated reason => s!"failed to create config directory: {reason}"
  | .permissionsNotSet reason => s!"failed to set config directory permissions: {reason}"
  | .configNotWritten path reason => s!"failed to write config at {path}: {reason}"

/-- The full text of a fault. -/
def message (f : Fault) : String := f.kind.preamble ++ f.reason

end Fault

end CommandRelay
