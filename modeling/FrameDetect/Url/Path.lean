import FrameDetect.Url.Encoding

/-!
# Paths in URLs

A path is made of segments.  Segments that stand for the place itself or the place above, encoded or
not, are carried out; above the letter of a drive there is no place.
-/

namespace FrameDetect.Url

/-- Whether a text starts with the letter of a drive, which a backslash may follow. -/
def startsWithDrive (cs : List Char) : Bool :=
  match cs with
  | letter :: mark :: rest =>
    letter.isAlpha && (mark = ':' || mark = '|') && (rest.isEmpty || rest.head? == some '\\')
  | _ => false

/-- Whether a text is the letter of a drive. -/
def isDrive (cs : List Char) : Bool := cs.length = 2 && startsWithDrive cs

/-- The letter of a drive with a colon; other texts are left as they are. -/
def plainDrive (cs : List Char) : List Char := if isDrive cs then cs.take 1 ++ [':'] else cs

/-- A segment with its codes for points replaced by points. -/
def plainPoints : List Char → List Char
  | '%' :: '2' :: 'e' :: rest | '%' :: '2' :: 'E' :: rest => '.' :: plainPoints rest
  | c :: rest => c :: plainPoints rest
  | [] => []

/-- The segments of the place above, the latest first. -/
def above (done : List (List Char)) : List (List Char) :=
  if done.head?.any startsWithDrive then done else done.drop 1

/-- Adds an encoded segment to those before it, the latest first.  A path that ends in a segment which
is carried out ends in a slash.  The path of a file may start with the letter of a drive. -/
def addSegment (file : Bool) (done : List (List Char)) (segment : List Char) (last : Bool) :
    List (List Char) :=
  match plainPoints segment with
  | ['.', '.'] => if last then [] :: above done else above done
  | ['.'] => if last then [] :: done else done
  | _ => (if file && done.isEmpty then plainDrive segment else segment) :: done

/-- Adds segments to those before them, the latest first. -/
def addSegments (file : Bool) (done : List (List Char)) : List (List Char) → List (List Char)
  | [] => done
  | [last] => addSegment file done (encode pathSet last) true
  | segment :: rest =>
    addSegments file (addSegment file done (encode pathSet segment) false) rest

/-- A text with slashes for its backslashes. -/
def withSlashes (cs : List Char) : List Char := cs.map fun c => if c = '\\' then '/' else c

/-- The path of a text that follows a slash. -/
def pathText (special : Bool) (cs : List Char) : List Char :=
  let unified := if special then withSlashes cs else cs
  '/' :: ['/'].intercalate (addSegments false [] (unified.splitOn '/')).reverse

/-- The segments of a text that follows a slash in the URL of a file. -/
def fileSegments (cs : List Char) : List (List Char) :=
  (addSegments true [] ((withSlashes cs).splitOn '/')).reverse

end FrameDetect.Url
