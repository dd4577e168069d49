/-!
# JSON values

A value as it is read from a text or written to one.  Members of an object are kept in the order of
their names, each name once.
-/

namespace FrameDetect.Json

/-- A JSON value. -/
inductive Value where
  | null
  | boolean (value : Bool)
  | integer (value : Int)
  | real (value : Float)
  /-- A number of single precision, written with as few digits as single precision needs. -/
  | single (value : Float32)
  | text (value : String)
  | list (items : List Value)
  | object (members : List (String × Value))

/-- Sets the member of a name, where members are sorted by their names. -/
def insertMember (name : String) (value : Value) : List (String × Value) → List (String × Value)
  | [] => [(name, value)]
  | (other, old) :: rest =>
    if name = other then (name, value) :: rest
    else if name < other then (name, value) :: (other, old) :: rest
    else (other, old) :: insertMember name value rest

/-- An object with members sorted by their names; of members with one name the last counts. -/
def Value.sorted (members : List (String × Value)) : Value :=
  .object (members.foldl (fun sorted (name, value) => insertMember name value sorted) [])

/-- The member of a name. -/
def member? (name : String) (members : List (String × Value)) : Option Value :=
  members.lookup name

end FrameDetect.Json
