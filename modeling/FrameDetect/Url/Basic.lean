/-!
# URLs

The parts of a URL, each as it is written.
-/

namespace FrameDetect

/-- A uniform resource locator. -/
structure Url where
  scheme : String
  /-- What follows two slashes: user, host and port. -/
  authority : Option String
  path : String
  query : Option String
  fragment : Option String
deriving Repr, DecidableEq

/-- A part after the mark that introduces it. -/
def Url.marked (mark : String) : Option String → String
  | some part => mark ++ part
  | none => ""

/-- The text of a URL.  A path that starts with two slashes is kept apart from an authority. -/
def Url.text (url : Url) : String :=
  let apart := if url.authority.isNone && url.path.startsWith "//" then "/." else ""
  url.scheme ++ ":" ++ marked "//" url.authority ++ apart ++ url.path ++ marked "?" url.query ++
    marked "#" url.fragment

end FrameDetect
