import CommandRelay.Proofs.Relay.Addressing
import CommandRelay.Proofs.Relay.DeadLetters
import CommandRelay.Proofs.Text.Trimming

/-!
# Replies mirror commands

A client knows the topic of its reply without asking: it is the end of its own topic, copied behind
the prefix of replies.  What the end is can be told on the text alone.

1. **`EndsIn`** — the end of a text that holds a number of separators: what stands behind the last
   separator but so many, or all of the text if it has no more.  There is one such end exactly if
   there are enough separators.
2. **Addresses and replies** — the end with two slashes spells the address (`address_of_endsIn`),
   and the levels of a reply are those of the prefix with the address behind them (`levels_reply`).
3. **The theorem** — `reply_mirrors_command`.
-/

namespace CommandRelay

/-! ## The end of a text -/

namespace Text

variable {sep : Char} {n : Nat} {cs part part' : List Char}

/-- A text ends in a part with a number of separators: the part is all of the text, or one more
separator stands before it. -/
def EndsIn (sep : Char) (n : Nat) (cs part : List Char) : Prop :=
  part.count sep = n ∧ (cs = part ∨ ∃ front, cs = front ++ sep :: part)

/-- What stands between the separators of an end are the last parts of the text. -/
theorem EndsIn.split_eq (h : EndsIn sep n cs part) :
    ∃ front, split sep cs = front ++ split sep part := by
  obtain ⟨-, rfl | ⟨front, rfl⟩⟩ := h
  · exact ⟨[], rfl⟩
  · exact ⟨split sep front, split_append_sep front part⟩

/-- Two ends with equally many separators are the same. -/
theorem EndsIn.unique (h : EndsIn sep n cs part) (h' : EndsIn sep n cs part') : part = part' := by
  obtain ⟨front, hfront⟩ := h.split_eq
  obtain ⟨front', hfront'⟩ := h'.split_eq
  have hlength : (split sep part).length = (split sep part').length := by
    rw [length_split, length_split, h.1, h'.1]
  obtain ⟨-, hparts⟩ := List.append_inj' (hfront.symm.trans hfront') hlength
  rw [← unsplit_split sep part, hparts, unsplit_split]

/-- With so many separators in it, a text has an end with so many. -/
theorem exists_endsIn (h : n ≤ cs.count sep) : ∃ part, EndsIn sep n cs part := by
  induction cs with
  | nil =>
    obtain rfl : n = 0 := Nat.le_zero.mp h
    exact ⟨[], rfl, .inl rfl⟩
  | cons c cs ih =>
    by_cases hall : (c :: cs).count sep = n
    · exact ⟨c :: cs, hall, .inl rfl⟩
    -- There are more than enough separators, so one of them can go with the first character.
    have hrest : n ≤ cs.count sep := by
      have hstep : (c :: cs).count sep ≤ cs.count sep + 1 := by
        rw [List.count_cons]
        split <;> omega
      omega
    obtain ⟨part, hcount, hwhole | ⟨front, hfront⟩⟩ := ih hrest
    · have hc : c = sep := by
        by_contra hc
        rw [List.count_cons_of_ne hc, hwhole] at hall
        exact hall hcount
      exact ⟨part, hcount, .inr ⟨[], by rw [hwhole, hc, List.nil_append]⟩⟩
    · exact ⟨part, hcount, .inr ⟨c :: front, by rw [hfront, List.cons_append]⟩⟩

end Text

namespace Relay

open Topic Text

variable {topic topic' tail : String} {a a' : Address}

/-! ## Addresses and replies -/

/-- The end of a topic with two slashes spells its address. -/
theorem address_of_endsIn (h : EndsIn '/' 2 topic.toList tail.toList) :
    ∃ a, address topic = .ok a ∧ a.device ++ "/" ++ a.command ++ "/" ++ a.method = tail := by
  obtain ⟨front, hfront⟩ := h.split_eq
  have hlength : (levels tail).length = 3 := by rw [length_levels, h.1]
  obtain ⟨device, command, method, hthree⟩ := List.length_eq_three.mp hlength
  refine ⟨⟨device, command, method⟩, address_eq_ok_iff.mpr ⟨front.map String.ofList, ?_⟩, ?_⟩
  · rw [← hthree, levels, hfront, List.map_append]
    rfl
  · rw [← ofLevels_three, ← hthree, ofLevels_levels]

/-- Nothing of an address has a slash in it. -/
theorem notMem_of_address (h : address topic = .ok a) :
    ∀ level ∈ [a.device, a.command, a.method], '/' ∉ level.toList := by
  intro level hlevel
  obtain ⟨front, hlevels⟩ := address_eq_ok_iff.mp h
  have hmem : level ∈ levels topic := by
    rw [hlevels]
    exact List.mem_append_right _ hlevel
  exact slash_notMem_of_mem_levels hmem

/-- The last three levels of a topic are its address. -/
theorem rtake_levels (h : address topic = .ok a) :
    (levels topic).rtake 3 = [a.device, a.command, a.method] := by
  obtain ⟨front, hlevels⟩ := address_eq_ok_iff.mp h
  rw [hlevels, List.rtake, List.length_append]
  simp

/-- The levels of a reply are those of its prefix, and then the address. -/
theorem levels_reply (base : String) (h : address topic = .ok a) :
    levels (reply base a) = levels (String.ofList (trimSlashesEnd base.toList)) ++
      [a.device, a.command, a.method] := by
  have hown : [a.device, a.command, a.method].flatMap levels =
      [a.device, a.command, a.method] := by
    rw [List.flatMap_congr fun level hlevel => levels_of_notMem (notMem_of_address h level hlevel)]
    simp
  rw [reply, levels_ofLevels_eq_flatMap (List.cons_ne_nil _ _), List.flatMap_cons, hown]

/-- A reply addresses what its command addressed. -/
theorem address_reply (base : String) (h : address topic = .ok a) :
    address (reply base a) = .ok a :=
  address_eq_ok_iff.mpr ⟨_, levels_reply base h⟩

/-- Replies under one prefix tell addresses apart. -/
theorem reply_eq_iff (base : String) (h : address topic = .ok a) (h' : address topic' = .ok a') :
    reply base a = reply base a' ↔ a = a' := by
  constructor
  · intro hsame
    have haddress := address_reply base h
    rw [hsame, address_reply base h'] at haddress
    exact (Except.ok.inj haddress).symm
  · rintro rfl
    rfl

/-- A reply is the prefix without slashes at its end, a slash, and the address as it was spelled. -/
theorem reply_eq (base : String) (a : Address) : ∃ (stem : String) (n : Nat),
    base.toList = stem.toList ++ List.replicate n '/' ∧ stem.toList.getLast? ≠ some '/' ∧
    reply base a = stem ++ "/" ++ (a.device ++ "/" ++ a.command ++ "/" ++ a.method) := by
  obtain ⟨back, hbase, hback, hlast⟩ := dropEndWhile_splits isSlash base.toList
  refine ⟨String.ofList (trimSlashesEnd base.toList), back.length, ?_, ?_, ?_⟩
  · have hslashes : back = List.replicate back.length '/' :=
      List.eq_replicate_of_mem fun c hc => by simpa [isSlash] using hback c hc
    rw [String.toList_ofList, trimSlashesEnd, ← hslashes]
    exact hbase
  · rw [String.toList_ofList]
    intro hslash
    exact absurd (hlast '/' hslash) (by decide)
  · rw [reply, ofLevels_cons _ (List.cons_ne_nil _ _), ofLevels_three]

/-! ## All topics -/

/-- **Replies mirror commands.**  A topic with fewer than two slashes is refused, with the number of
its levels.  Any other topic has an end with two slashes, and only one.  Its device, command and
method are what stands between these slashes, empty ones and the case of letters kept; its reply
goes out on that end behind the prefix, which loses only the slashes at its own end, and addresses
the same three again.  So under one prefix the replies of two commands go out on one topic exactly
if the last three levels of the two are equal. -/
theorem reply_mirrors_command (base topic : String) :
    (∀ f, address topic = .error f ↔
      topic.toList.count '/' < 2 ∧ f = .tooFewLevels topic (topic.toList.count '/' + 1)) ∧
    (2 ≤ topic.toList.count '/' → ∃! tail : String, EndsIn '/' 2 topic.toList tail.toList) ∧
    (∀ tail : String, EndsIn '/' 2 topic.toList tail.toList →
      ∃ (a : Address) (stem : String) (n : Nat), address topic = .ok a ∧
        '/' ∉ a.device.toList ∧ '/' ∉ a.command.toList ∧ '/' ∉ a.method.toList ∧
        a.device ++ "/" ++ a.command ++ "/" ++ a.method = tail ∧
        base.toList = stem.toList ++ List.replicate n '/' ∧ stem.toList.getLast? ≠ some '/' ∧
        reply base a = stem ++ "/" ++ tail ∧ address (reply base a) = .ok a) ∧
    ∀ other a a', address topic = .ok a → address other = .ok a' →
      (reply base a = reply base a' ↔ (levels topic).rtake 3 = (levels other).rtake 3) := by
  refine ⟨fun f => ?_, fun h => ?_, fun tail h => ?_, fun other a a' h h' => ?_⟩
  · rw [address_eq_error_iff, length_levels, Nat.succ_lt_succ_iff]
  · obtain ⟨part, hpart⟩ := exists_endsIn h
    refine ⟨String.ofList part, by simpa using hpart, fun other hother => ?_⟩
    rw [← hother.unique hpart, String.ofList_toList]
  · obtain ⟨a, ha, htail⟩ := address_of_endsIn h
    obtain ⟨hdevice, hcommand, hmethod⟩ : '/' ∉ a.device.toList ∧ '/' ∉ a.command.toList ∧
        '/' ∉ a.method.toList := by
      simpa using notMem_of_address ha
    obtain ⟨stem, n, hbase, hlast, hreply⟩ := reply_eq base a
    rw [htail] at hreply
    exact ⟨a, stem, n, ha, hdevice, hcommand, hmethod, htail, hbase, hlast, hreply,
      address_reply base ha⟩
  · -- Both sides say that device, command and method are the same.
    rw [reply_eq_iff base h h', rtake_levels h, rtake_levels h']
    obtain ⟨device, command, method⟩ := a
    obtain ⟨device', command', method'⟩ := a'
    simp

/-- The theorem for a command of a device without a name: its empty level is kept, two slashes at
the end of the prefix are not, and a command that comes in elsewhere is answered on the same
topic. -/
theorem nameless_device_is_mirrored :
    EndsIn '/' 2 "site/commands//speed/Get".toList "/speed/Get".toList ∧
    address "site/commands//speed/Get" = .ok ⟨"", "speed", "Get"⟩ ∧
    (∃ stem : String, "replies//".toList = stem.toList ++ ['/', '/'] ∧
      reply "replies//" ⟨"", "speed", "Get"⟩ = stem ++ "/" ++ "/speed/Get") ∧
    address (reply "replies//" ⟨"", "speed", "Get"⟩) = .ok ⟨"", "speed", "Get"⟩ ∧
    address "//speed/Get" = .ok ⟨"", "speed", "Get"⟩ ∧
    (levels "site/commands//speed/Get").rtake 3 = (levels "//speed/Get").rtake 3 := by
  have hends : EndsIn '/' 2 "site/commands//speed/Get".toList "/speed/Get".toList :=
    ⟨by decide, .inr ⟨"site/commands".toList, by decide⟩⟩
  have haddress : address "site/commands//speed/Get" = .ok ⟨"", "speed", "Get"⟩ := by decide
  have hother : address "//speed/Get" = .ok ⟨"", "speed", "Get"⟩ := by decide
  obtain ⟨-, -, hmirrored, hshared⟩ :=
    reply_mirrors_command "replies//" "site/commands//speed/Get"
  obtain ⟨a, -, -, ha, -, -, -, -, -, -, -, hback⟩ := hmirrored _ hends
  obtain rfl : (⟨"", "speed", "Get"⟩ : Address) = a := Except.ok.inj (haddress.symm.trans ha)
  exact ⟨hends, haddress, ⟨"replies", by decide, by decide⟩, hback, hother,
    (hshared _ _ _ haddress hother).mp rfl⟩

end Relay

end CommandRelay
