/-!
# Paths

A path is a text of parts with slashes between them.  Empty parts and parts `.` lead nowhere, except
that a path may start at `.`, which then is a part of its own.
-/

namespace FrameDetect.Storage

/-- The texts between the slashes. -/
def pieces (path : String) : List String :=
  (path.toList.splitOn '/').map String.ofList

/-- Whether a path starts at the root. -/
def isAbsolute (path : String) : Bool := path.toList.head? == some '/'

/-- Whether a path can only name a directory. -/
def namesDirectory (path : String) : Bool :=
  (pieces path).getLast?.any fun last => last == "" || last == "." || last == ".."

/-- The pieces that lead anywhere. -/
def leading (pieces : List String) : List String :=
  pieces.filter fun piece => piece != "" && piece != "."

/-- The parts along which a path leads. -/
def steps (path : String) : List String := leading (pieces path)

/-- The parts that a path is written with. -/
def parts (path : String) : List String :=
  match pieces path with
  | "." :: rest => "." :: leading rest
  | _ => steps path

/-- The characters of a path, from its last one on, without an end that leads nowhere. -/
def withoutIdleEnd : List Char → List Char
  | '/' :: before => withoutIdleEnd before
  | '.' :: '/' :: before => withoutIdleEnd before
  | cs => cs

/-- The path without its last part, if it has one. -/
def parent? (path : String) : Option String :=
  match withoutIdleEnd path.toList.reverse with
  | [] => none
  | cs =>
    match cs.dropWhile (· != '/') with
    | [] => some ""
    | before =>
      match withoutIdleEnd before with
      | [] => some "/"
      | before => some (String.ofList before.reverse)

/-- What follows the last point in the last part, if something else stands before the point. -/
def extension? (path : String) : Option String :=
  match (parts path).getLast? with
  | none => none
  | some last =>
    if last = ".." then none
    else
      let (after, before) := last.toList.reverse.span (· != '.')
      match before with
      | _ :: _ :: _ => some (String.ofList after.reverse)
      | _ => none

end FrameDetect.Storage
