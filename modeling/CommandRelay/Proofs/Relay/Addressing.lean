import CommandRelay.Proofs.Relay.Gatekeeping
import CommandRelay.Proofs.Topic.Joining

/-!
# What a routed command addresses

A command comes in on a topic that ends in device, command and method, and goes out on an internal
topic built from prefix, service and the same three.  The two are not read in the same way: the
topic of a command keeps its empty levels, a topic that is built drops them.  So the internal topic
addresses the command exactly if device and command have names.

1. **`levels_requestTopic`** — the levels of an internal topic.
2. **`address_requestTopic_iff`, `requestTopic_eq_iff`** — what it addresses, and when two commands
   share one.
3. **The theorem** — `routed_topic_addresses_named_command`, and right after it a command without a
   name that goes astray.
-/

namespace CommandRelay.Catalogue

open Topic

/-- The names of device and command that leave a level in a topic that is built. -/
def namesOf (device command : String) : List String := [device, command].filter (· ≠ "")

/-- Names that are not empty are all kept. -/
theorem namesOf_of_ne {device command : String} (hd : device ≠ "") (hc : command ≠ "") :
    namesOf device command = [device, command] := by
  simp [namesOf, hd, hc]

theorem word_injective : Function.Injective Method.word := by
  intro m m' h
  cases m <;> cases m' <;> first | rfl | exact absurd h (by decide)

/-- A route goes to a service, on the topic of the command below it. -/
theorem topic_of_resolve {devices : Catalogue} {base device command : String} {m : Method}
    {r : Route} (h : devices.resolve base device command m = .ok r) :
    r.topic = requestTopic base r.service device command m := by
  obtain ⟨d, -, -, rfl⟩ := resolve_eq_ok_iff_owns.mp h
  rfl

section

variable {device command : String} (hd : '/' ∉ device.toList) (hc : '/' ∉ command.toList)
  (base service : String) (m : Method)

include hd hc

/-- Prefix and service come first, then the names there are, then the method. -/
theorem levels_requestTopic : levels (requestTopic base service device command m) =
    keptLevels [base, service] ++ namesOf device command ++ [m.word] := by
  have hword : '/' ∉ m.word.toList ∧ m.word ≠ "" := by cases m <;> decide
  have hown : keptLevels [device, command, m.word] = namesOf device command ++ [m.word] := by
    rw [keptLevels_of_notMem (by simp [hd, hc, hword.1])]
    show ([device, command] ++ [m.word]).filter (· ≠ "") = _
    rw [List.filter_append, namesOf]
    simp [hword.2]
  have hall : keptLevels [base, service, device, command, m.word] =
      keptLevels [base, service] ++ namesOf device command ++ [m.word] := by
    rw [List.append_assoc, ← hown, ← keptLevels_append]
    rfl
  rw [requestTopic, levels_join, hall]
  intro hnone
  rw [keptLevels, hnone] at hall
  simp at hall

/-- An internal topic addresses its command exactly if nothing was dropped. -/
theorem address_requestTopic_iff :
    address (requestTopic base service device command m) = .ok ⟨device, command, m.word⟩ ↔
      device ≠ "" ∧ command ≠ "" := by
  rw [Relay.address_eq_ok_iff, levels_requestTopic hd hc]
  constructor
  · rintro ⟨front, hfront⟩
    have hnames : keptLevels [base, service] ++ namesOf device command =
        front ++ [device] ++ [command] := by
      have hsplit : keptLevels [base, service] ++ namesOf device command ++ [m.word] =
          front ++ [device] ++ [command] ++ [m.word] := by simpa using hfront
      exact List.append_cancel_right hsplit
    -- The level before the method is not empty, and then neither is the one before it.
    have hcommand : command ≠ "" := by
      have hlast := getLast?_keptLevels_append [base, service] [device, command]
        (by simp [hd, hc])
      rw [← namesOf, hnames] at hlast
      simpa using hlast
    have hdevice : keptLevels [base, service] ++ [device].filter (· ≠ "") = front ++ [device] := by
      have hsplit : namesOf device command = [device].filter (· ≠ "") ++ [command] := by
        show ([device] ++ [command]).filter (· ≠ "") = _
        rw [List.filter_append]
        simp [hcommand]
      rw [hsplit, ← List.append_assoc] at hnames
      exact List.append_cancel_right hnames
    have hlast := getLast?_keptLevels_append [base, service] [device] (by simp [hd])
    rw [hdevice] at hlast
    exact ⟨by simpa using hlast, hcommand⟩
  · rintro ⟨hdevice, hcommand⟩
    rw [namesOf_of_ne hdevice hcommand]
    exact ⟨keptLevels [base, service], by simp⟩

/-- Two commands of a service share an internal topic exactly if they have the same method and the
same names, no matter where a name is missing. -/
theorem requestTopic_eq_iff {device' command' : String} (hd' : '/' ∉ device'.toList)
    (hc' : '/' ∉ command'.toList) (m' : Method) :
    requestTopic base service device command m = requestTopic base service device' command' m' ↔
      namesOf device command = namesOf device' command' ∧ m = m' := by
  constructor
  · intro h
    have hlevels := congrArg levels h
    rw [levels_requestTopic hd hc, levels_requestTopic hd' hc'] at hlevels
    obtain ⟨hnames, hword⟩ := List.append_inj' hlevels rfl
    exact ⟨List.append_cancel_left hnames, word_injective (List.singleton_injective hword)⟩
  · rintro ⟨hnames, rfl⟩
    rw [← ofLevels_levels (requestTopic _ _ device _ _), levels_requestTopic hd hc, hnames,
      ← levels_requestTopic hd' hc', ofLevels_levels]

end

/-- The names in an address are levels. -/
theorem slash_notMem_of_address {topic : String} {a : Address} (h : address topic = .ok a) :
    '/' ∉ a.device.toList ∧ '/' ∉ a.command.toList := by
  obtain ⟨front, hlevels⟩ := Relay.address_eq_ok_iff.mp h
  have hmem : ∀ l ∈ [a.device, a.command, a.method], l ∈ levels topic := by
    intro l hl
    rw [hlevels]
    exact List.mem_append_right _ hl
  exact ⟨slash_notMem_of_mem_levels (hmem _ (by simp)),
    slash_notMem_of_mem_levels (hmem _ (by simp))⟩

/-- **The internal topic of a command addresses it if it has names.**  In every catalogue and under
every prefix, a command with a route goes out on the topic of its service, device, command and
method.  What that topic addresses is the command, with its method in lower case, exactly if neither
the device nor the command is an empty level.  Two commands of one service share a topic exactly if
they have the same method and, empty ones left out, the same names: never if they have names and
differ. -/
theorem routed_topic_addresses_named_command (devices : Catalogue) (base topic : String)
    (a : Address) (m : Method) (r : Route) (ha : address topic = .ok a)
    (hm : Method.parse a.method = .ok m)
    (hr : devices.resolve base a.device a.command m = .ok r) :
    a.method.toList.map Char.toLower = m.word.toList ∧
    r.topic = join [base, r.service, a.device, a.command, m.word] ∧
    (address r.topic = .ok ⟨a.device, a.command, m.word⟩ ↔ a.device ≠ "" ∧ a.command ≠ "") ∧
    ∀ topic' a' m' r', address topic' = .ok a' →
      devices.resolve base a'.device a'.command m' = .ok r' → r'.service = r.service →
      (r.topic = r'.topic ↔
        [a.device, a.command].filter (· ≠ "") = [a'.device, a'.command].filter (· ≠ "") ∧ m = m') ∧
      (a.device ≠ "" → a.command ≠ "" → a'.device ≠ "" → a'.command ≠ "" →
        r.topic = r'.topic → a.device = a'.device ∧ a.command = a'.command ∧ m = m') := by
  obtain ⟨hd, hc⟩ := slash_notMem_of_address ha
  have htopic := topic_of_resolve hr
  refine ⟨Relay.parse_eq_ok_iff.mp hm, htopic,
    by rw [htopic]; exact address_requestTopic_iff hd hc base r.service m, ?_⟩
  intro topic' a' m' r' ha' hr' hservice
  obtain ⟨hd', hc'⟩ := slash_notMem_of_address ha'
  have hshared := requestTopic_eq_iff hd hc base r.service m hd' hc' m'
  rw [← htopic, ← hservice, ← topic_of_resolve hr'] at hshared
  refine ⟨hshared, fun hdevice hcommand hdevice' hcommand' hsame => ?_⟩
  obtain ⟨hnames, hmethod⟩ := hshared.mp hsame
  rw [namesOf_of_ne hdevice hcommand, namesOf_of_ne hdevice' hcommand'] at hnames
  obtain ⟨hdevice, hnames⟩ := List.cons.inj hnames
  exact ⟨hdevice, (List.cons.inj hnames).1, hmethod⟩

/-- A catalogue with a device that takes every command, and one of the same service without a
name. -/
def turningShop : Catalogue :=
  [{ name := "lathe", service := "turning" }, { name := "", service := "turning" }]

/-- The theorem for two commands of one device that differ in their method. -/
theorem reading_and_writing_are_told_apart :
    (address "site/lathe/speed/GET" = .ok ⟨"lathe", "speed", "GET"⟩ ∧
      Method.parse "GET" = .ok .get ∧
      turningShop.resolve "internal" "lathe" "speed" .get =
        .ok ⟨"turning", "internal/turning/lathe/speed/get"⟩) ∧
    address "internal/turning/lathe/speed/get" = .ok ⟨"lathe", "speed", "get"⟩ ∧
    "internal/turning/lathe/speed/get" ≠ "internal/turning/lathe/speed/set" := by
  have hget : turningShop.resolve "internal" "lathe" "speed" .get =
      .ok ⟨"turning", "internal/turning/lathe/speed/get"⟩ := by decide
  have hset : turningShop.resolve "internal" "lathe" "speed" .set =
      .ok ⟨"turning", "internal/turning/lathe/speed/set"⟩ := by decide
  obtain ⟨-, -, haddress, hothers⟩ := routed_topic_addresses_named_command turningShop "internal"
    "site/lathe/speed/GET" ⟨"lathe", "speed", "GET"⟩ .get _ (by decide) (by decide) hget
  obtain ⟨-, hnamed⟩ := hothers "site/lathe/speed/set" ⟨"lathe", "speed", "set"⟩ .set _
    (by decide) hset rfl
  refine ⟨⟨by decide, by decide, hget⟩, haddress.mpr ⟨by decide, by decide⟩, fun hsame => ?_⟩
  obtain ⟨-, -, hmethod⟩ := hnamed (by decide) (by decide) (by decide) (by decide) hsame
  cases hmethod

/-- A command without a name goes out on a topic that addresses the device as a command, of a device
with the name of the service; and it shares that topic with a command of another device. -/
theorem nameless_command_goes_astray :
    address "site/lathe//get" = .ok ⟨"lathe", "", "get"⟩ ∧
    turningShop.resolve "internal" "lathe" "" .get =
      .ok ⟨"turning", "internal/turning/lathe/get"⟩ ∧
    address "internal/turning/lathe/get" = .ok ⟨"turning", "lathe", "get"⟩ ∧
    address "site//lathe/get" = .ok ⟨"", "lathe", "get"⟩ ∧
    turningShop.resolve "internal" "" "lathe" .get =
      .ok ⟨"turning", "internal/turning/lathe/get"⟩ := by
  decide

end CommandRelay.Catalogue
