import FrameDetect.Domain.Label
import FrameDetect.Url.Address
import FrameDetect.Url.Encoding

/-!
# Hosts in URLs

The host of a special scheme is a domain or an address; of any other scheme it is an address of
version 6 or a text of which only control characters are encoded.
-/

namespace FrameDetect.Url

/-- The characters that no host may hold. -/
def isForbidden (c : Char) : Bool :=
  c.toNat = 0 || [' ', '\t', '\n', '\r', '#', '/', ':', '<', '>', '?', '@', '[', '\\', ']', '^', '|'].contains c

/-- The characters that no domain may hold. -/
def isForbiddenInDomain (c : Char) : Bool := isForbidden c || c = '%' || c.toNat < 0x20 || c.toNat = 0x7F

/-- An address of version 6 between brackets. -/
def bracketed? (cs : List Char) : Option (List Char) :=
  match cs.reverse with
  | ']' :: inner => (version6? inner.reverse).map version6Text
  | _ => none

/-- The host of a scheme that is not special. -/
def opaqueHost? (cs : List Char) : Option (List Char) :=
  match cs with
  | '[' :: rest => bracketed? rest
  | _ => if cs.any isForbidden then none else some (encode [] cs)

/-- The host of a special scheme. -/
def domain? (cs : List Char) : Option (List Char) :=
  match cs with
  | '[' :: rest => bracketed? rest
  | _ => do
    let bytes := decode (String.ofList cs).toUTF8.toList
    let text ← String.fromUTF8? ⟨bytes.toArray⟩
    let domain ← Domain.ascii? text.toList
    if domain.isEmpty ∨ domain.any isForbiddenInDomain then none
    else if endsInNumber domain then (version4? domain).map version4Text
    else some domain

end FrameDetect.Url
