import CommandRelay.Datum

/-!
# Request methods

A command is either read or written.  A topic may spell the method in any case; the canonical word
is in lower case.  As JSON a method is its word, or an object whose only field is that word with
null.
-/

namespace CommandRelay

namespace Method

/-- Both methods. -/
def all : List Method := [.get, .set]

/-- The method that a word names in any case of its ASCII letters. -/
def ofWord? (word : String) : Option Method :=
  all.find? fun m => Text.equalIgnoringCase word m.word

/-- The method that a topic level names. -/
def parse (word : String) : Except Fault Method :=
  match ofWord? word with
  | some m => .ok m
  | none => .error (.unknownMethod word)

/-- The method as JSON. -/
def toJson (m : Method) : Json := .text m.word

/-- The method with exactly that word. -/
def ofExactWord? (word : String) : Option Method :=
  all.find? fun m => m.word == word

/-- Reads a method. -/
def read : Datum → Reading Method
  | .text s | .table [(some s, .null)] =>
    match ofExactWord? s with
    | some m => .ok m
    | none => .error .shape
  | _ => .error .shape

end Method

end CommandRelay
