import CommandRelay.Bus.Channel

/-!
# What a reader of a channel finds

A channel remembers no more than the messages it keeps and how many were ever sent.  `Records` says
which messages those are, told by the list of all that were sent: the last ones, as many as the
channel has room for.  For a reader this means: of the messages that it has not looked at, the last
ones are there to be read (`Records.unread`) and the others are counted as lost (`Records.lost`),
whatever other readers do.
-/

namespace CommandRelay.Bus.Channel

variable {α : Type} {c : Channel α} {log : List α}

/-- A channel keeps the last of the messages that were sent. -/
structure Records (c : Channel α) (log : List α) : Prop where
  sent : c.sent = log.length
  kept : c.kept = log.drop (log.length - c.capacity)

/-- A new channel records nothing. -/
theorem records_ofCapacity (n : Nat) : (ofCapacity n : Channel α).Records [] :=
  ⟨rfl, List.drop_nil.symm⟩

namespace Records

/-- A message that is sent comes last in the record. -/
theorem send (h : c.Records log) (message : α) : (c.send message).Records (log ++ [message]) := by
  refine ⟨?_, ?_⟩
  · rw [List.length_append]
    exact congrArg (· + 1) h.sent
  · -- What is dropped now and what was dropped before are the first messages of the longer list.
    have hlog : log.length - c.capacity ≤ log.length := Nat.sub_le _ _
    have hkept : c.kept ++ [message] = (log ++ [message]).drop (log.length - c.capacity) := by
      rw [h.kept, List.drop_append_of_le_length hlog]
    show (c.kept ++ [message]).drop ((c.kept ++ [message]).length - c.capacity) =
      (log ++ [message]).drop ((log ++ [message]).length - c.capacity)
    rw [hkept, List.drop_drop, List.length_drop, List.length_append, List.length_singleton]
    congr 1
    omega

/-- The oldest message that is kept is told by the length of the record and the room. -/
theorem oldest (h : c.Records log) : c.oldest = log.length - c.capacity := by
  rw [Channel.oldest, h.sent, h.kept, List.length_drop]
  omega

/-- The messages that are lost are those for which there was no room behind the place. -/
theorem lost (h : c.Records log) (place : Nat) :
    c.lost place = (log.drop place).length - c.capacity := by
  rw [Channel.lost, h.oldest, List.length_drop]
  omega

/-- The messages to be read are the last ones behind the place, as many as there is room for. -/
theorem unread (h : c.Records log) (place : Nat) :
    c.unread place = (log.drop place).drop ((log.drop place).length - c.capacity) := by
  rw [Channel.unread, h.oldest, h.kept, List.drop_drop, List.drop_drop, List.length_drop]
  congr 1
  omega

/-- Where a reader goes on is what it has to read. -/
theorem drop_start (h : c.Records log) (place : Nat) :
    log.drop (max place c.oldest) = c.unread place := by
  rw [h.unread, h.oldest, List.drop_drop, List.length_drop]
  congr 1
  omega

end Records

end CommandRelay.Bus.Channel
