import FrameDetect.Text.Integer
import FrameDetect.Text.Utf8
import FrameDetect.Url.Basic
import FrameDetect.Url.Encoding

/-!
# Settings of a URL

The devices of the program are configured by the query of a URL.  A query is a list of settings, each a name
and a value, in the encoding of forms: a plus sign is a space, and codes stand for bytes.  Settings are applied in
order, so that of settings with one name the last counts; the first value that cannot be read ends it.
-/

namespace FrameDetect.Url

/-! ## Queries -/

/-- A name or a value as text. -/
def formText (cs : List Char) : String :=
  let spaced := cs.map fun c => if c = '+' then ' ' else c
  Text.decodeLossy (decode (String.ofList spaced).toUTF8.toList)

/-- One setting; without an equals sign its value is empty. -/
def setting (cs : List Char) : String × String :=
  let (name, rest) := cs.span (· != '=')
  (formText name, formText (rest.drop 1))

/-- The settings in a query, the empty ones left out. -/
def settings (url : Url) : List (String × String) :=
  match url.query with
  | none => []
  | some query => ((query.toList.splitOn '&').filter fun part => !part.isEmpty).map setting

/-! ## Values -/

/-- A setting whose value cannot be read. -/
structure SettingFault where
  name : String
  reason : String
deriving Repr, DecidableEq

def SettingFault.message (fault : SettingFault) : String :=
  s!"参数 {fault.name} 无效: {fault.reason}"

/-- The number in a setting. -/
def numberSetting {α : Type} (name : String) (read : Except Text.IntegerFault α) :
    Except SettingFault α :=
  read.mapError fun fault => ⟨name, fault.message⟩

/-- Applies settings in order.  Where `apply` does not know a name, `unknown` is told. -/
def applySettings {m : Type → Type} [Monad m] {σ : Type}
    (apply : σ → String → String → Except SettingFault (Option σ))
    (unknown : String → String → m Unit) (state : σ) :
    List (String × String) → m (Except SettingFault σ)
  | [] => return .ok state
  | (name, value) :: rest => do
    match apply state name value with
    | .error fault => return .error fault
    | .ok (some state) => applySettings apply unknown state rest
    | .ok none =>
      unknown name value
      applySettings apply unknown state rest

end FrameDetect.Url
