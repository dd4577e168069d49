import FrameDetect.Decimal.Style
import FrameDetect.Json.Value

/-!
# Writing JSON values

A value is written either without any space or over several lines, two spaces for each level.
-/

namespace FrameDetect.Json

open FrameDetect.Decimal (jsonDouble jsonSingle)

/-- Four hexadecimal digits. -/
def hex4 (n : Nat) : List Char :=
  let digits := Nat.toDigits 16 n
  List.replicate (4 - digits.length) '0' ++ digits

/-- A character of a string. -/
def escapeChar (c : Char) : List Char :=
  if c = '"' then ['\\', '"']
  else if c = '\\' then ['\\', '\\']
  else if c = '\x08' then ['\\', 'b']
  else if c = '\x0c' then ['\\', 'f']
  else if c = '\n' then ['\\', 'n']
  else if c = '\r' then ['\\', 'r']
  else if c = '\t' then ['\\', 't']
  else if c.toNat < 32 then '\\' :: 'u' :: hex4 c.toNat
  else [c]

/-- A string with its quotes. -/
def textLiteral (text : String) : String :=
  String.ofList ('"' :: text.toList.flatMap escapeChar ++ ['"'])

/-- How the parts of lists and objects are set apart. -/
structure Spacing where
  /-- What stands before each part and the closing bracket, given the level. -/
  lineBreak : Nat → String
  /-- What follows the colon after a name. -/
  afterColon : String

/-- No space at all. -/
def compactSpacing : Spacing := ⟨fun _ => "", ""⟩

/-- Each part on a line of its own. -/
def prettySpacing : Spacing := ⟨fun level => "\n" ++ String.ofList (List.replicate (2 * level) ' '), " "⟩

/-- Parts between brackets, where nothing stands between the brackets if there are no parts. -/
def bracketed (spacing : Spacing) (level : Nat) (opening closing : String) (parts : List String) :
    String :=
  if parts.isEmpty then opening ++ closing
  else
    let apart := spacing.lineBreak (level + 1)
    opening ++ apart ++ ("," ++ apart).intercalate parts ++ spacing.lineBreak level ++ closing

mutual

/-- A value at a level. -/
def Value.write (spacing : Spacing) (level : Nat) : Value → String
  | .null => "null"
  | .boolean value => if value then "true" else "false"
  | .integer value => toString value
  | .real value => jsonDouble value
  | .single value => jsonSingle value
  | .text value => textLiteral value
  | .list items => bracketed spacing level "[" "]" (writeItems spacing (level + 1) items)
  | .object members =>
    bracketed spacing level "\x7b" "\x7d" (writeMembers spacing (level + 1) members)

/-- The items of a list. -/
def writeItems (spacing : Spacing) (level : Nat) : List Value → List String
  | [] => []
  | item :: rest => item.write spacing level :: writeItems spacing level rest

/-- The members of an object, each with its name. -/
def writeMembers (spacing : Spacing) (level : Nat) : List (String × Value) → List String
  | [] => []
  | (name, value) :: rest =>
    (textLiteral name ++ ":" ++ spacing.afterColon ++ value.write spacing level) ::
      writeMembers spacing level rest

end

/-- A value on one line, without spaces. -/
def Value.compact (value : Value) : String := value.write compactSpacing 0

/-- A value over several lines. -/
def Value.pretty (value : Value) : String := value.write prettySpacing 0

end FrameDetect.Json
