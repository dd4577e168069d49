import FrameDetect.Json.Printer
import Mathlib.Tactic.SplitIfs

/-!
# Text without control characters

JSON without space between its parts holds no control character, whatever characters the strings in it
hold: those below the blank are escaped, and all the rest is digits, letters and signs.  So there is no
line end in it, and none in its bytes either.
-/

namespace FrameDetect.Text

/-- Characters from the blank on. -/
def Plain (cs : List Char) : Prop := ∀ c ∈ cs, 32 ≤ c.toNat

section
variable {cs ds : List Char} {c : Char} {a b : String}

instance : Decidable (Plain cs) := List.decidableBAll (fun c : Char => 32 ≤ c.toNat) cs

theorem plain_nil : Plain [] := nofun

theorem Plain.append (h : Plain cs) (h' : Plain ds) : Plain (cs ++ ds) :=
  List.forall_mem_append.2 ⟨h, h'⟩

theorem Plain.cons (hc : 32 ≤ c.toNat) (h : Plain cs) : Plain (c :: cs) :=
  List.forall_mem_cons.2 ⟨hc, h⟩

theorem Plain.sublist (h : Plain cs) (hsub : ds.Sublist cs) : Plain ds := fun c hc => h c (hsub.mem hc)

theorem plain_replicate (hc : 32 ≤ c.toNat) (n : Nat) : Plain (List.replicate n c) := by
  intro d hd
  rw [List.eq_of_mem_replicate hd]
  exact hc

theorem Plain.concat (h : Plain a.toList) (h' : Plain b.toList) : Plain (a ++ b).toList := by
  rw [String.toList_append]
  exact h.append h'

theorem Plain.ofList (h : Plain cs) : Plain (String.ofList cs).toList := by
  rwa [String.toList_ofList]

theorem plain_intercalate {separator : String} {parts : List String} (h : Plain separator.toList)
    (hparts : ∀ part ∈ parts, Plain part.toList) : Plain (separator.intercalate parts).toList := by
  induction parts with
  | nil =>
    rw [String.intercalate_nil]
    exact plain_nil
  | cons part rest ih =>
    obtain ⟨hpart, hrest⟩ := List.forall_mem_cons.1 hparts
    by_cases hnil : rest = []
    · rw [hnil, String.intercalate_singleton]
      exact hpart
    · rw [String.intercalate_cons_of_ne_nil hnil]
      exact (hpart.concat h).concat (ih hrest)

end

/-! ## Numbers -/

theorem le_ite {p : Prop} [Decidable p] {c d : Char} (hc : 32 ≤ c.toNat) (hd : 32 ≤ d.toNat) :
    32 ≤ (if p then c else d).toNat := by
  split
  · exact hc
  · exact hd

theorem le_digitChar (n : Nat) : 32 ≤ n.digitChar.toNat := by
  unfold Nat.digitChar
  iterate 16 refine le_ite (by decide) ?_
  decide

theorem plain_toDigitsCore (base fuel n : Nat) {ds : List Char} (h : Plain ds) :
    Plain (Nat.toDigitsCore base fuel n ds) := by
  induction fuel generalizing n ds with
  | zero => exact h
  | succ fuel ih =>
    have hd : Plain ((n % base).digitChar :: ds) := h.cons (le_digitChar _)
    rw [Nat.toDigitsCore]
    split
    · exact hd
    · exact ih _ hd

theorem plain_toDigits (base n : Nat) : Plain (Nat.toDigits base n) :=
  plain_toDigitsCore base (n + 1) n plain_nil

theorem plain_repr (n : Nat) : Plain (toString n).toList := (plain_toDigits 10 n).ofList

theorem plain_int (n : Int) : Plain (toString n).toList := by
  cases n with
  | ofNat n => exact plain_repr n
  | negSucc n => exact Plain.concat (by decide) (plain_repr (n + 1))

/-! ## Decimals -/

section
open FrameDetect.Decimal

theorem plain_withPoint {digits : List Char} (h : Plain digits) (places : Nat) :
    Plain (withPoint digits places) := by
  have hpadded : Plain (List.replicate (places + 1 - digits.length) '0' ++ digits) :=
    (plain_replicate (by decide) _).append h
  refine (hpadded.sublist (List.take_sublist _ _)).append ?_
  split
  · exact plain_nil
  · exact (hpadded.sublist (List.drop_sublist _ _)).cons (by decide)

/-- A style that writes no control characters of its own. -/
structure PlainStyle (style : Style) : Prop where
  wholeSuffix : Plain style.wholeSuffix.toList
  notANumber : Plain style.notANumber.toList
  infinity : ∀ negative, Plain (style.infinity negative).toList

variable {style : Style}

theorem plain_positionalText (h : PlainStyle style) (d : Scientific) :
    Plain (positionalText style d).toList := by
  unfold positionalText
  dsimp only
  split
  · exact ((plain_toDigits 10 _).append (plain_replicate (by decide) _)).ofList.concat h.wholeSuffix
  · exact (plain_withPoint (plain_toDigits 10 _) _).ofList

theorem plain_exponentText (d : Scientific) (lead : Int) : Plain (exponentText d lead).toList := by
  have hsign : Plain (if lead < 0 then "-" else "+").toList := by split <;> decide
  have hdigits := (plain_withPoint (plain_toDigits 10 d.digits)
    ((Nat.toDigits 10 d.digits).length - 1)).ofList
  exact ((hdigits.concat (by decide)).concat hsign).concat (plain_repr _)

theorem plain_scientific (h : PlainStyle style) (d : Scientific) : Plain (d.text style).toList := by
  unfold Scientific.text
  dsimp only
  split
  · exact plain_positionalText h d
  · exact plain_exponentText d _

theorem plain_render (h : PlainStyle style) (shortest : Tie → Nat → Int → Scientific)
    (x : Float.Model.UnpackedFloat) : Plain (render style shortest x).toList := by
  have hsign : Plain (if Number.isNegative x then "-" else "").toList := by split <;> decide
  cases x with
  | notANumber => exact h.notANumber
  | infinity => exact h.infinity _
  | zero => exact hsign.concat (plain_positionalText h _)
  | finite => exact hsign.concat (plain_scientific h _)

theorem plainStyle_json (least greatest : Int) : PlainStyle (jsonStyle least greatest) := by
  have hnull : Plain "null".toList := by decide
  have hsuffix : Plain ".0".toList := by decide
  exact ⟨hsuffix, hnull, fun _ => hnull⟩

end

/-! ## JSON -/

section
open FrameDetect.Json

theorem plain_hex4 (n : Nat) : Plain (hex4 n) :=
  (plain_replicate (by decide) _).append (plain_toDigits 16 n)

/-- What stands for a character of a string, even for a line end. -/
theorem plain_escapeChar (c : Char) : Plain (escapeChar c) := by
  unfold escapeChar
  -- seven characters have an escape of their own, and the other control characters are written in digits
  split_ifs with _ _ _ _ _ _ _ hcontrol
  iterate 7 decide
  · exact Plain.cons (by decide) (Plain.cons (by decide) (plain_hex4 c.toNat))
  · exact plain_nil.cons (Nat.not_lt.1 hcontrol)

theorem plain_textLiteral (text : String) : Plain (textLiteral text).toList := by
  have hescaped : Plain (text.toList.flatMap escapeChar) := by
    intro c hc
    obtain ⟨d, -, hd⟩ := List.mem_flatMap.1 hc
    exact plain_escapeChar d c hd
  exact ((hescaped.cons (by decide)).append (by decide)).ofList

theorem plain_bracketed (level : Nat) {opening closing : String} {parts : List String}
    (hopening : Plain opening.toList) (hclosing : Plain closing.toList)
    (hparts : ∀ part ∈ parts, Plain part.toList) :
    Plain (bracketed compactSpacing level opening closing parts).toList := by
  have hempty : Plain "".toList := plain_nil
  have hcomma : Plain ("," ++ "").toList := by decide
  unfold bracketed
  split_ifs
  · exact hopening.concat hclosing
  · exact (((hopening.concat hempty).concat (plain_intercalate hcomma hparts)).concat hempty).concat hclosing

mutual

/-- A value on one line holds no control character. -/
theorem plain_write (level : Nat) : ∀ value : Value, Plain (value.write compactSpacing level).toList
  | .null => by
    rw [Value.write]
    decide
  | .boolean value => by
    rw [Value.write]
    cases value <;> decide
  | .integer value => by
    rw [Value.write]
    exact plain_int value
  | .real value => by
    rw [Value.write]
    exact plain_render (plainStyle_json _ _) _ _
  | .single value => by
    rw [Value.write]
    exact plain_render (plainStyle_json _ _) _ _
  | .text value => by
    rw [Value.write]
    exact plain_textLiteral value
  | .list items => by
    rw [Value.write]
    exact plain_bracketed level (by decide) (by decide) (plain_writeItems (level + 1) items)
  | .object members => by
    rw [Value.write]
    exact plain_bracketed level (by decide) (by decide) (plain_writeMembers (level + 1) members)

theorem plain_writeItems (level : Nat) :
    ∀ items : List Value, ∀ part ∈ writeItems compactSpacing level items, Plain part.toList
  | [] => by
    rw [writeItems]
    nofun
  | item :: rest => by
    rw [writeItems]
    exact List.forall_mem_cons.2 ⟨plain_write level item, plain_writeItems level rest⟩

theorem plain_writeMembers (level : Nat) :
    ∀ members : List (String × Value), ∀ part ∈ writeMembers compactSpacing level members,
      Plain part.toList
  | [] => by
    rw [writeMembers]
    nofun
  | (name, value) :: rest => by
    rw [writeMembers]
    have hname : Plain (textLiteral name ++ ":" ++ "").toList :=
      ((plain_textLiteral name).concat (by decide)).concat plain_nil
    exact List.forall_mem_cons.2 ⟨hname.concat (plain_write level value), plain_writeMembers level rest⟩

end

theorem plain_compact (value : Value) : Plain value.compact.toList := plain_write 0 value

end

/-! ## Bytes -/

theorem le_ofNat {n : Nat} (h : 32 ≤ n) (h' : n < 256) : 32 ≤ UInt8.ofNat n := by
  rw [UInt8.le_iff_toNat_le, UInt8.toNat_ofNat', Nat.mod_eq_of_lt h']
  exact h

/-- A character of one byte is that byte, and the bytes of all others are from 128 on. -/
theorem le_of_mem_utf8EncodeChar {c : Char} (h : 32 ≤ c.toNat) : ∀ b ∈ String.utf8EncodeChar c, 32 ≤ b := by
  have hc : 32 ≤ c.val.toNat := h
  intro b hb
  unfold String.utf8EncodeChar at hb
  dsimp only at hb
  split_ifs at hb <;> simp only [List.mem_cons, List.not_mem_nil, or_false] at hb
  · subst hb
    exact le_ofNat hc (by omega)
  · rcases hb with rfl | rfl <;> exact le_ofNat (by omega) (by omega)
  · rcases hb with rfl | rfl | rfl <;> exact le_ofNat (by omega) (by omega)
  · rcases hb with rfl | rfl | rfl | rfl <;> exact le_ofNat (by omega) (by omega)

/-- Text without control characters has no byte that would be one. -/
theorem Plain.le_of_mem_bytes {text : String} (h : Plain text.toList) :
    ∀ b ∈ text.toUTF8.data.toList, 32 ≤ b := by
  intro b hb
  rw [String.toUTF8_eq_toByteArray, ← String.utf8Encode_toList, List.utf8Encode, List.data_toByteArray,
    List.toList_toArray, List.mem_flatMap] at hb
  obtain ⟨c, hc, hb⟩ := hb
  exact le_of_mem_utf8EncodeChar (h c hc) b hb

end FrameDetect.Text
