import CommandRelay.Envelope.Basic

/-!
# Paging parameters

A listing of the whole catalogue takes an offset and a limit from the query parameters.  Each is a
text that spells a 64-bit integer, with blanks around it and a sign allowed; the limit -1 means no
limit.
-/

namespace CommandRelay.Paging

/-- The 64-bit integer that a text spells between blanks. -/
def integer? (s : String) : Option Int :=
  match Text.signed? (Text.stripWhile Text.isBlank s.toList) with
  | some n => if Text.FitsSigned n then some n else none
  | none => none

/-- The integer that a parameter spells, or a default where there is no such parameter. -/
def parameter (p : Params) (name : String) (default : Int) : Except Fault Int :=
  match p.get? name with
  | none => .ok default
  | some v =>
    match v.asText?.bind integer? with
    | some n => .ok n
    | none => .error (.parameterNotInteger name v)

/-- A page of a listing. -/
structure Page where
  offset : Nat
  /-- How many entries the page holds at most; all of them where there is no limit. -/
  limit : Option Nat
  deriving DecidableEq, Repr

/-- The page that query parameters ask for. -/
def page (p : Params) : Except Fault Page := do
  let offset ← parameter p "offset" 0
  let limit ← parameter p "limit" (-1)
  if offset < 0 then .error (.negativeOffset offset)
  else if limit < -1 then .error (.limitTooSmall limit)
  else .ok { offset := offset.toNat, limit := if limit = -1 then none else some limit.toNat }

/-- The entries of a list that are on a page. -/
def Page.of {α : Type} (p : Page) (entries : List α) : List α :=
  match p.limit with
  | none => entries.drop p.offset
  | some n => (entries.drop p.offset).take n

end CommandRelay.Paging
