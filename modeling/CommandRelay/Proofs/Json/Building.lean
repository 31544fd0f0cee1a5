import Mathlib
import CommandRelay.Json.Document

/-!
# Documents from their tokens

`Document.tokens` writes a document as tokens, the items of a container with commas between them.
The builder takes exactly these tokens and goes on behind them with the document complete
(`build_tokens`), so every document is read back from its tokens.
-/

namespace CommandRelay.Json

mutual

/-- The tokens of a document. -/
def Document.tokens : Document → List Token
  | .null => [.null]
  | .bool Bool.true => [.true]
  | .bool Bool.false => [.false]
  | .number n => [.number n]
  | .text units => [.text units]
  | .list [] => [.openList, .closeList]
  | .list (d :: ds) => .openList :: d.tokens ++ itemTokens ds ++ [.closeList]
  | .object [] => [.openObject, .closeObject]
  | .object ((k, d) :: fields) =>
    .openObject :: .text k :: .colon :: d.tokens ++ fieldTokens fields ++ [.closeObject]

/-- The tokens of further items of a list, each behind a comma. -/
def itemTokens : List Document → List Token
  | [] => []
  | d :: ds => .comma :: d.tokens ++ itemTokens ds

/-- The tokens of further fields of an object, each behind a comma. -/
def fieldTokens : List (List TextUnit × Document) → List Token
  | [] => []
  | (k, d) :: fields => .comma :: .text k :: .colon :: d.tokens ++ fieldTokens fields

end

/-- What becomes of the tokens behind a step. -/
def Progress.resume : Progress → List Token → Option (Document × List Token)
  | .done d, ts => some (d, ts)
  | .more stack next, ts => build stack next ts

/-- A token is one step, and what follows is built on it. -/
theorem build_cons (stack : List Frame) (next : Expecting) (t : Token) (ts : List Token) :
    build stack next (t :: ts) = (buildStep stack next t).bind (·.resume ts) := by
  rw [build]
  cases buildStep stack next t with
  | none => rfl
  | some p => cases p <;> rfl

/-- A document does not start like the end of a list, so the first item is a value like all
others. -/
theorem build_firstItem (d : Document) (stack : List Frame) (rest : List Token) :
    build stack .firstItem (d.tokens ++ rest) = build stack .value (d.tokens ++ rest) := by
  cases d with
  | null => rfl
  | bool b => cases b <;> rfl
  | number n => rfl
  | text units => rfl
  | list items => cases items <;> rfl
  | object fields => cases fields <;> rfl

mutual

/-- The builder takes the tokens of a document and goes on with it complete. -/
theorem build_tokens : (d : Document) → (stack : List Frame) → (rest : List Token) →
    build stack .value (d.tokens ++ rest) = (completed stack d).resume rest
  | .null, _, _ => build_cons _ _ _ _
  | .bool true, _, _ => build_cons _ _ _ _
  | .bool false, _, _ => build_cons _ _ _ _
  | .number _, _, _ => build_cons _ _ _ _
  | .text _, _, _ => build_cons _ _ _ _
  | .list [], _, _ => by
    rw [Document.tokens, List.cons_append, build_cons]
    exact build_cons _ _ _ _
  | .list (d :: ds), stack, rest => by
    rw [Document.tokens]
    simp only [List.cons_append, List.append_assoc]
    rw [build_cons]
    show build (.list [] :: stack) .firstItem _ = _
    rw [build_firstItem, build_tokens d]
    exact build_itemTokens ds [] d stack rest
  | .object [], _, _ => by
    rw [Document.tokens, List.cons_append, build_cons]
    exact build_cons _ _ _ _
  | .object ((k, d) :: fields), stack, rest => by
    rw [Document.tokens]
    simp only [List.cons_append, List.append_assoc]
    rw [build_cons]
    show build stack (.firstKey []) _ = _
    rw [build_cons]
    show build stack (.colon [] k) _ = _
    rw [build_cons]
    show build (.object [] k :: stack) .value _ = _
    rw [build_tokens d]
    exact build_fieldTokens fields [] k d stack rest

/-- The builder takes further items up to the end of the list. -/
theorem build_itemTokens : (ds items : List Document) → (last : Document) → (stack : List Frame) →
    (rest : List Token) →
    build (.list items :: stack) (.separator last) (itemTokens ds ++ ([.closeList] ++ rest)) =
      (completed stack (.list (items.reverse ++ last :: ds))).resume rest
  | [], items, last, stack, rest => by
    rw [itemTokens, List.nil_append, List.cons_append, build_cons]
    show (completed stack (.list (last :: items).reverse)).resume _ = _
    rw [List.reverse_cons]
    rfl
  | d :: ds, items, last, stack, rest => by
    rw [itemTokens, List.cons_append, List.cons_append, build_cons, List.append_assoc]
    show build (.list (last :: items) :: stack) .value _ = _
    rw [build_tokens d]
    show build (.list (last :: items) :: stack) (.separator d) _ = _
    rw [build_itemTokens ds, List.reverse_cons, List.append_assoc]
    rfl

/-- The builder takes further fields up to the end of the object. -/
theorem build_fieldTokens : (fs fields : List (List TextUnit × Document)) → (key : List TextUnit) →
    (last : Document) → (stack : List Frame) → (rest : List Token) →
    build (.object fields key :: stack) (.separator last)
        (fieldTokens fs ++ ([.closeObject] ++ rest)) =
      (completed stack (.object (fields.reverse ++ (key, last) :: fs))).resume rest
  | [], fields, key, last, stack, rest => by
    rw [fieldTokens, List.nil_append, List.cons_append, build_cons]
    show (completed stack (.object ((key, last) :: fields).reverse)).resume _ = _
    rw [List.reverse_cons]
    rfl
  | (k, d) :: fs, fields, key, last, stack, rest => by
    rw [fieldTokens]
    simp only [List.cons_append, List.append_assoc]
    rw [build_cons]
    show build stack (.key ((key, last) :: fields)) _ = _
    rw [build_cons]
    show build stack (.colon ((key, last) :: fields) k) _ = _
    rw [build_cons]
    show build (.object ((key, last) :: fields) k :: stack) .value _ = _
    rw [build_tokens d]
    show build (.object ((key, last) :: fields) k :: stack) (.separator d) _ = _
    have hrest := build_fieldTokens fs ((key, last) :: fields) k d stack rest
    rw [List.reverse_cons, List.append_assoc] at hrest
    exact hrest

end

/-- Every document is read back from its tokens. -/
theorem ofTokens?_tokens (d : Document) (rest : List Token) :
    Document.ofTokens? (d.tokens ++ rest) = some (d, rest) :=
  build_tokens d [] rest

end CommandRelay.Json
