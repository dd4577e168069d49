import FrameDetect.Json.Number
import FrameDetect.Json.Text
import FrameDetect.Json.Value

/-!
# Reading JSON values

The reader goes through a text once.  Values that are kept may nest to a limited depth, values that
are skipped to any.
-/

namespace FrameDetect.Json

/-- Whether a character may stand between the parts of a JSON text. -/
def isSpace (c : Char) : Bool := c == ' ' || c == '\t' || c == '\n' || c == '\r'

/-- The text from its first character that is no space. -/
def skipSpace (cs : List Char) : List Char := cs.dropWhile isSpace

/-- The text after a word, which is compared letter by letter. -/
def readWord : List Char → List Char → Except Fault (List Char)
  | [], cs => .ok cs
  | _ :: _, [] => .error .ended
  | w :: word, c :: rest => if w = c then readWord word rest else .error .malformed

/-- The text after a colon. -/
def readColon (cs : List Char) : Except Fault (List Char) :=
  match skipSpace cs with
  | ':' :: rest => .ok rest
  | [] => .error .ended
  | _ => .error .malformed

/-- A value that holds no others. -/
inductive Scalar where
  | null
  | boolean (value : Bool)
  | number (value : Number)
  | text (value : String)

def Scalar.found : Scalar → Found
  | .null => .null
  | .boolean value => .boolean value
  | .number value => value.found
  | .text value => .text value

def Scalar.value : Scalar → Value
  | .null => .null
  | .boolean value => .boolean value
  | .number (.integer value) => .integer value
  | .number (.real value) => .real value
  | .text value => .text value

/-- A value that holds no others, at the start of a text. -/
def readScalar : List Char → Result Scalar
  | [] => .error .ended
  | 'n' :: rest => (readWord ['u', 'l', 'l'] rest).map (.null, ·)
  | 't' :: rest => (readWord ['r', 'u', 'e'] rest).map (.boolean true, ·)
  | 'f' :: rest => (readWord ['a', 'l', 's', 'e'] rest).map (.boolean false, ·)
  | '"' :: rest => (readText rest).map fun (text, rest) => (.text text, rest)
  | '-' :: rest => (readNumber true rest).map fun (n, rest) => (.number n, rest)
  | c :: rest =>
    if c.isDigit then (readNumber false (c :: rest)).map fun (n, rest) => (.number n, rest)
    else .error .malformed

/-- Where the next item of a list starts, or the text after the list. -/
inductive NextItem where
  | item (rest : List Char)
  | close (rest : List Char)

/-- Goes to the next item of a list.  A comma stands before each item but the first. -/
def nextItem (first : Bool) (cs : List Char) : Except Fault NextItem :=
  match skipSpace cs with
  | [] => .error .ended
  | ']' :: rest => .ok (.close rest)
  | c :: rest =>
    if first then .ok (.item (c :: rest))
    else if c = ',' then
      match skipSpace rest with
      | [] => .error .ended
      | ']' :: _ => .error .malformed
      | rest => .ok (.item rest)
    else .error .malformed

/-- Where the name of the next member of an object goes on after its quote, or the text after the
object. -/
inductive NextMember where
  | name (rest : List Char)
  | close (rest : List Char)

/-- Goes to the next member of an object.  A comma stands before each member but the first. -/
def nextMember (first : Bool) (cs : List Char) : Except Fault NextMember :=
  match skipSpace cs with
  | [] => .error .ended
  | '\x7d' :: rest => .ok (.close rest)
  | c :: rest =>
    if first then if c = '"' then .ok (.name rest) else .error .malformed
    else if c = ',' then
      match skipSpace rest with
      | [] => .error .ended
      | '"' :: rest => .ok (.name rest)
      | _ => .error .malformed
    else .error .malformed

mutual

/-- A value after spaces, where `depth` more levels of nesting are allowed. -/
def readNested (depth : Nat) (cs : List Char) : Nat → Result Value
  | 0 => .error .ended
  | fuel + 1 =>
    match skipSpace cs with
    | '[' :: rest =>
      if depth = 0 then .error .malformed
      else (readItems (depth - 1) true [] rest fuel).map fun (items, rest) => (.list items, rest)
    | '\x7b' :: rest =>
      if depth = 0 then .error .malformed
      else (readMembers (depth - 1) true [] rest fuel).map fun (members, rest) =>
        (.object members, rest)
    | rest => (readScalar rest).map fun (scalar, rest) => (scalar.value, rest)

/-- The items of a list, after some that were read, the latest first. -/
def readItems (depth : Nat) (first : Bool) (done : List Value) (cs : List Char) :
    Nat → Except Fault (List Value × List Char)
  | 0 => .error .ended
  | fuel + 1 => do
    match ← nextItem first cs with
    | .close rest => return (done.reverse, rest)
    | .item rest =>
      let (item, rest) ← readNested depth rest fuel
      readItems depth false (item :: done) rest fuel

/-- The members of an object, added to some that were read. -/
def readMembers (depth : Nat) (first : Bool) (done : List (String × Value)) (cs : List Char) :
    Nat → Except Fault (List (String × Value) × List Char)
  | 0 => .error .ended
  | fuel + 1 => do
    match ← nextMember first cs with
    | .close rest => return (done, rest)
    | .name rest =>
      let (name, rest) ← readText rest
      let rest ← readColon rest
      let (value, rest) ← readNested depth rest fuel
      readMembers depth false (insertMember name value done) rest fuel

end

/-- The levels of lists and objects in a value that is kept. -/
def nestingLimit : Nat := 127

/-- Nothing but spaces may follow the value of a text. -/
def finish {α : Type} : α × List Char → Except Fault α
  | (value, rest) => if (skipSpace rest).isEmpty then .ok value else .error .malformed

/-- The value that a text holds.  Every step of the reader takes a character, so twice as many steps
as there are characters suffice. -/
def read (text : String) : Except Fault Value := do
  let cs := text.toList
  finish (← readNested nestingLimit cs (2 * cs.length + 2))

/-- What encloses a value that is skipped. -/
inductive Bracket where
  | list
  | object
deriving DecidableEq

/-- What to look for next while a value is skipped. -/
inductive SkipState where
  /-- A value. -/
  | value
  /-- The first part of a list or an object, or its end. -/
  | opened
  /-- What follows a value. -/
  | closed

/-- The text after the name of a member, whose quote is past, and the colon. -/
def skipName (cs : List Char) : Except Fault (List Char) :=
  match skipSpace cs with
  | [] => .error .ended
  | '"' :: rest => do readColon (← skipText rest)
  | _ => .error .malformed

/-- The text after a value that holds no others. -/
def skipScalar : List Char → Except Fault (List Char)
  | [] => .error .ended
  | 'n' :: rest => readWord ['u', 'l', 'l'] rest
  | 't' :: rest => readWord ['r', 'u', 'e'] rest
  | 'f' :: rest => readWord ['a', 'l', 's', 'e'] rest
  | '"' :: rest => skipText rest
  | '-' :: rest => skipNumber rest
  | c :: rest => if c.isDigit then skipNumber (c :: rest) else .error .malformed

/-- The text after a value, where `stack` holds the brackets that are open, the inmost first. -/
def skipFrom (stack : List Bracket) (state : SkipState) (cs : List Char) :
    Nat → Except Fault (List Char)
  | 0 => .error .ended
  | fuel + 1 =>
    match state, stack with
    | .value, _ =>
      match skipSpace cs with
      | '[' :: rest => skipFrom (.list :: stack) .opened rest fuel
      | '\x7b' :: rest => skipFrom (.object :: stack) .opened rest fuel
      | rest => do skipFrom stack .closed (← skipScalar rest) fuel
    | _, [] => .ok cs
    | .opened, bracket :: outer =>
      match skipSpace cs, bracket with
      | [], _ => .error .ended
      | ']' :: rest, .list | '\x7d' :: rest, .object => skipFrom outer .closed rest fuel
      | rest, .list => skipFrom stack .value rest fuel
      | rest, .object => do skipFrom stack .value (← skipName rest) fuel
    | .closed, bracket :: outer =>
      match skipSpace cs, bracket with
      | [], _ => .error .ended
      | ']' :: rest, .list | '\x7d' :: rest, .object => skipFrom outer .closed rest fuel
      | ',' :: rest, .list => skipFrom stack .value rest fuel
      | ',' :: rest, .object => do skipFrom stack .value (← skipName rest) fuel
      | _, _ => .error .malformed

/-- The text after a value of any depth. -/
def skipValue (cs : List Char) : Except Fault (List Char) :=
  skipFrom [] .value cs (2 * cs.length + 2)

end FrameDetect.Json
