import RouteProbe.Number.Decimal
import RouteProbe.Text.Integer
import RouteProbe.Text.Quoted

/-!
# Values

A log event carries values of any kind under names, and a setting is offered as
such a value before it is checked.  A value has two texts: the plain one, which a
message shows, and the quoted one, which stands inside lists and objects and
tells a text from the number that it spells.
-/

namespace RouteProbe

open Text

/-- The kinds of error that an event can carry as a value. -/
inductive ErrorKind where
  | value
  | key
  | system
  deriving Repr, DecidableEq

/-- The name of a kind of error. -/
def ErrorKind.name : ErrorKind → String
  | .value => "ValueError"
  | .key => "KeyError"
  | .system => "OSError"

/-- A value of a log event or of a setting. -/
inductive Value where
  | null
  | flag (b : Bool)
  | int (n : Int)
  | real (x : Number.Binary64)
  | text (s : String)
  | bytes (bs : List UInt8)
  | error (kind : ErrorKind) (message : String)
  | list (vs : List Value)
  | object (ms : List (String × Value))
  deriving Repr, Inhabited

/-- Members of an object, or of an event, in order. -/
abbrev Members := List (String × Value)

namespace Value

/-- The text of an error: a key error quotes its message. -/
def errorText (kind : ErrorKind) (message : String) : List Char :=
  match kind with
  | .key => quoted message.toList
  | _ => message.toList

mutual

/-- The quoted text of a value. -/
def quotedText : Value → List Char
  | .null => ['N', 'o', 'n', 'e']
  | .flag true => ['T', 'r', 'u', 'e']
  | .flag false => ['F', 'a', 'l', 's', 'e']
  | .int n => intText n
  | .real x => x.text
  | .text s => quoted s.toList
  | .bytes bs => quotedBytes bs
  | .error k m => k.name.toList ++ '(' :: quoted m.toList ++ [')']
  | .list vs => '[' :: quotedItems vs ++ [']']
  | .object ms => '\x7b' :: quotedMembers ms ++ ['\x7d']

/-- Values between brackets. -/
def quotedItems : List Value → List Char
  | [] => []
  | v :: vs => quotedText v ++ quotedMoreItems vs

/-- Values after the first, each with the comma before it. -/
def quotedMoreItems : List Value → List Char
  | [] => []
  | v :: vs => ',' :: ' ' :: quotedText v ++ quotedMoreItems vs

/-- Members between braces. -/
def quotedMembers : List (String × Value) → List Char
  | [] => []
  | m :: ms => quotedMember m ++ quotedMoreMembers ms

/-- Members after the first, each with the comma before it. -/
def quotedMoreMembers : List (String × Value) → List Char
  | [] => []
  | m :: ms => ',' :: ' ' :: quotedMember m ++ quotedMoreMembers ms

/-- A member: its name in quotes, and its value. -/
def quotedMember : String × Value → List Char
  | (k, v) => quoted k.toList ++ ':' :: ' ' :: quotedText v

end

/-- The plain text of a value: texts and errors show what they say. -/
def plainText : Value → List Char
  | .text s => s.toList
  | .error k m => errorText k m
  | v => v.quotedText

/-- The value counts as true: it is not empty and not zero. -/
def isTrue : Value → Bool
  | .null => false
  | .flag b => b
  | .int n => n ≠ 0
  | .real (.finite _ m _) => m ≠ 0
  | .real _ => true
  | .text s => !s.isEmpty
  | .bytes bs => !bs.isEmpty
  | .error _ _ => true
  | .list vs => !vs.isEmpty
  | .object ms => !ms.isEmpty

/-- The word for the kind of a value in a message about a wrong one. -/
def kindName : Value → String
  | .null => "NoneType"
  | .flag _ => "bool"
  | .int _ => "int"
  | .real _ => "float"
  | .text _ => "str"
  | .bytes _ => "bytes"
  | .error k _ => k.name
  | .list _ => "list"
  | .object _ => "dict"

@[simp] theorem plainText_text (s : String) : (Value.text s).plainText = s.toList := rfl

end Value

namespace Members

/-- The value under a name. -/
def get? (ms : Members) (k : String) : Option Value :=
  (ms.find? fun m => m.1 == k).map (·.2)

/-- A name is present. -/
def has (ms : Members) (k : String) : Bool := ms.any fun m => m.1 == k

/-- Sets the value under a name: in its place if it is there, at the end if not. -/
def put (ms : Members) (k : String) (v : Value) : Members :=
  if ms.has k then ms.map fun m => if m.1 == k then (k, v) else m else ms ++ [(k, v)]

/-- Drops a name. -/
def erase (ms : Members) (k : String) : Members := ms.filter fun m => m.1 != k

/-- Sets several names in turn. -/
def update (ms new : Members) : Members := new.foldl (fun acc m => acc.put m.1 m.2) ms

/-- Members by the order of their names. -/
def sorted (ms : Members) : Members := ms.mergeSort fun a b => !(b.1 < a.1)

/-- Adds members, where those that are there already stay. -/
def complete (ms more : Members) : Members :=
  more.foldl (fun acc m => if acc.has m.1 then acc else acc ++ [m]) ms

@[simp] theorem update_nil (ms : Members) : ms.update [] = ms := rfl

@[simp] theorem has_nil (k : String) : Members.has [] k = false := rfl

end Members
end RouteProbe
