import Mathlib.Data.List.DropRight
import FrameDetect.Proofs.Basic
import FrameDetect.Proofs.Json.Numbers
import FrameDetect.Proofs.Json.Strings

/-!
# The grammar of kept values

What a text holds, as relations between a text, what stands at its start, and the rest.  The reader follows them step by
step: what it reads is what they say, and what they say it reads, with no more steps than it is given.  Of the members
of an object it keeps the last of each name.
-/

namespace FrameDetect.Json

variable {depth fuel : ℕ} {first : Bool} {cs rest start inner word : List Char} {scalar : Scalar} {value : Value}
variable {name : String}

/-! ## Spaces and words -/

theorem length_skipSpace_le (cs : List Char) : (skipSpace cs).length ≤ cs.length :=
  (List.dropWhile_suffix isSpace).length_le

theorem skipSpace_skipSpace (cs : List Char) : skipSpace (skipSpace cs) = skipSpace cs :=
  List.dropWhile_idempotent ..

theorem readWord_eq_ok_iff : readWord word cs = .ok rest ↔ cs = word ++ rest := by
  induction word generalizing cs with
  | nil => simp [readWord]
  | cons w word ih =>
    cases cs with
    | nil => simp [readWord]
    | cons c cs =>
      rw [readWord]
      by_cases hw : w = c
      · simp [hw, ih]
      · simp [hw, Ne.symm hw]

theorem readColon_eq_ok_iff : readColon cs = .ok rest ↔ skipSpace cs = ':' :: rest := by
  unfold readColon
  split
  · simp_all
  · simp_all
  · simp_all

/-! ## Values that hold no others -/

/-- A text goes on with a value that holds no others, and then with the rest.  Real numbers are those that the reader
makes of what is no integer. -/
inductive ScalarText : List Char → Scalar → List Char → Prop
  | null {rest : List Char} : ScalarText ('n' :: 'u' :: 'l' :: 'l' :: rest) .null rest
  | yes {rest : List Char} : ScalarText ('t' :: 'r' :: 'u' :: 'e' :: rest) (.boolean true) rest
  | no {rest : List Char} : ScalarText ('f' :: 'a' :: 'l' :: 's' :: 'e' :: rest) (.boolean false) rest
  | text {body : List Char} {text : String} {rest : List Char} :
    Chars none body text.toList rest → ScalarText ('"' :: body) (.text text) rest
  | integer {cs : List Char} {n : ℤ} {rest : List Char} :
    IntegerText cs n rest → ScalarText cs (.number (.integer n)) rest
  | real {cs : List Char} {x : Float} {rest : List Char} :
    readScalar cs = .ok (.number (.real x), rest) → ScalarText cs (.number (.real x)) rest

theorem ScalarText.of_number {number : Number} (h : readScalar cs = .ok (.number number, rest)) :
    ScalarText cs (.number number) rest := by
  cases number with
  | integer n => exact .integer (readScalar_eq_integer_iff.1 h)
  | real x => exact .real h

theorem readScalar_eq_ok_iff : readScalar cs = .ok (scalar, rest) ↔ ScalarText cs scalar rest := by
  constructor
  · intro h
    have hread := h
    rw [readScalar.eq_def] at h
    split at h
    · cases h
    · obtain ⟨after, hword, h⟩ := exists_of_map_eq_ok h
      cases h
      rw [readWord_eq_ok_iff.1 hword]
      exact .null
    · obtain ⟨after, hword, h⟩ := exists_of_map_eq_ok h
      cases h
      rw [readWord_eq_ok_iff.1 hword]
      exact .yes
    · obtain ⟨after, hword, h⟩ := exists_of_map_eq_ok h
      cases h
      rw [readWord_eq_ok_iff.1 hword]
      exact .no
    · obtain ⟨⟨text, after⟩, htext, h⟩ := exists_of_map_eq_ok h
      cases h
      exact .text (readText_eq_ok_iff.1 htext)
    · obtain ⟨⟨number, after⟩, -, h⟩ := exists_of_map_eq_ok h
      cases h
      exact ScalarText.of_number hread
    · split at h
      · obtain ⟨⟨number, after⟩, -, h⟩ := exists_of_map_eq_ok h
        cases h
        exact ScalarText.of_number hread
      · cases h
  · intro h
    cases h with
    | null | yes | no => rfl
    | text htext =>
      rw [readScalar, readText_eq_ok_iff.2 htext]
      rfl
    | integer hinteger => exact readScalar_eq_integer_iff.2 hinteger
    | real hreal => exact hreal

theorem ScalarText.length_lt (h : ScalarText cs scalar rest) : rest.length < cs.length := by
  cases h with
  | null | yes | no =>
    simp only [List.length_cons]
    omega
  | text htext => exact htext.length_lt.trans (Nat.lt_succ_self _)
  | integer hinteger => exact length_lt_of_readScalar (readScalar_eq_integer_iff.2 hinteger)
  | real hreal => exact length_lt_of_readScalar hreal

/-- No value that holds no others starts with a bracket. -/
theorem ScalarText.ne_bracket {c : Char} (h : ScalarText (c :: cs) scalar rest) :
    c ≠ '[' ∧ c ≠ '\x7b' ∧ c ≠ ']' := by
  have hread := readScalar_eq_ok_iff.2 h
  refine ⟨?_, ?_, ?_⟩
  all_goals
    rintro rfl
    simp [readScalar] at hread

/-! ## Parts -/

/-- A value, the items of a list or the members of an object; of these two it is told whether they are the first. -/
inductive Part where
  | value (value : Value)
  | items (first : Bool) (items : List Value)
  | members (first : Bool) (pairs : List (String × Value))

/-- Where the next item or member starts: the first at once, others after a comma. -/
inductive Separated : Bool → List Char → List Char → Prop
  | first {cs : List Char} : Separated true cs cs
  | comma {cs start : List Char} : skipSpace cs = ',' :: start → Separated false cs start

/-- A text goes on with a part, and then with the rest, where so many more levels of lists and objects are allowed. -/
inductive Spells : ℕ → List Char → Part → List Char → Prop
  | scalar {depth : ℕ} {cs : List Char} {scalar : Scalar} {rest : List Char} :
    ScalarText (skipSpace cs) scalar rest → Spells depth cs (.value scalar.value) rest
  | list {depth : ℕ} {cs inner : List Char} {items : List Value} {rest : List Char} :
    skipSpace cs = '[' :: inner → Spells depth inner (.items true items) rest →
      Spells (depth + 1) cs (.value (.list items)) rest
  | object {depth : ℕ} {cs inner : List Char} {pairs : List (String × Value)} {rest : List Char} :
    skipSpace cs = '\x7b' :: inner → Spells depth inner (.members true pairs) rest →
      Spells (depth + 1) cs (.value (Value.sorted pairs)) rest
  | noItem {depth : ℕ} {first : Bool} {cs rest : List Char} :
    skipSpace cs = ']' :: rest → Spells depth cs (.items first []) rest
  | item {depth : ℕ} {first : Bool} {cs start next : List Char} {item : Value} {items : List Value}
    {rest : List Char} :
    Separated first cs start → Spells depth start (.value item) next → Spells depth next (.items false items) rest →
      Spells depth cs (.items first (item :: items)) rest
  | noMember {depth : ℕ} {first : Bool} {cs rest : List Char} :
    skipSpace cs = '\x7d' :: rest → Spells depth cs (.members first []) rest
  | member {depth : ℕ} {first : Bool} {cs start body after inner next : List Char} {name : String} {value : Value}
    {pairs : List (String × Value)} {rest : List Char} :
    Separated first cs start → skipSpace start = '"' :: body → Chars none body name.toList after →
      skipSpace after = ':' :: inner → Spells depth inner (.value value) next →
        Spells depth next (.members false pairs) rest → Spells depth cs (.members first ((name, value) :: pairs)) rest

theorem Separated.length_le (h : Separated first cs start) : start.length ≤ cs.length := by
  cases h with
  | first => exact le_rfl
  | comma hcomma =>
    have hle := length_skipSpace_le cs
    rw [hcomma, List.length_cons] at hle
    omega

theorem length_lt_of_skipSpace_eq_cons {c : Char} (h : skipSpace cs = c :: rest) : rest.length < cs.length := by
  have hle := length_skipSpace_le cs
  rwa [h, List.length_cons] at hle

/-- A part takes a character at least. -/
theorem Spells.length_lt {part : Part} (h : Spells depth cs part rest) : rest.length < cs.length := by
  induction h with
  | @scalar _ cs _ _ hscalar => exact hscalar.length_lt.trans_le (length_skipSpace_le cs)
  | list hcs _ ih => exact ih.trans (length_lt_of_skipSpace_eq_cons hcs)
  | object hcs _ ih => exact ih.trans (length_lt_of_skipSpace_eq_cons hcs)
  | noItem hcs => exact length_lt_of_skipSpace_eq_cons hcs
  | item hseparated _ _ ihitem ihitems => exact (ihitems.trans ihitem).trans_le hseparated.length_le
  | noMember hcs => exact length_lt_of_skipSpace_eq_cons hcs
  | member hseparated hstart hname hcolon _ _ ihvalue ihpairs =>
    have hbody := length_lt_of_skipSpace_eq_cons hstart
    have hinner := length_lt_of_skipSpace_eq_cons hcolon
    have hafter := hname.length_lt
    have hle := hseparated.length_le
    omega

/-! ## The next item or member -/

theorem nextItem_eq_close_iff : nextItem first cs = .ok (.close rest) ↔ skipSpace cs = ']' :: rest := by
  unfold nextItem
  split
  · simp_all
  · simp_all
  · next c after hclose heq =>
    rw [heq]
    refine iff_of_false ?_ (fun h => hclose (List.cons.inj h).1)
    split
    · nofun
    · split
      · split
        · nofun
        · nofun
        · nofun
      · nofun

theorem nextItem_of_separated (h : Separated first cs start) {c : Char} (hstart : skipSpace start = c :: rest)
    (hc : c ≠ ']') : nextItem first cs = .ok (.item (skipSpace start)) := by
  cases h with
  | first =>
    rw [nextItem, hstart]
    simp
  | comma hcomma =>
    rw [nextItem, hcomma]
    simp [hstart, hc]

theorem exists_of_nextItem (h : nextItem first cs = .ok (.item rest)) :
    ∃ start, Separated first cs start ∧ rest = skipSpace start := by
  unfold nextItem at h
  split at h
  · cases h
  · cases h
  · next c after hclose heq =>
    split at h
    · next hfirst =>
      cases h
      rw [hfirst]
      exact ⟨cs, .first, heq.symm⟩
    · next hfirst =>
      split at h
      · next hcomma =>
        rw [Bool.not_eq_true] at hfirst
        rw [hcomma] at heq
        rw [hfirst]
        split at h
        · cases h
        · cases h
        · cases h
          exact ⟨after, .comma heq, rfl⟩
      · cases h

theorem nextMember_eq_close_iff : nextMember first cs = .ok (.close rest) ↔ skipSpace cs = '\x7d' :: rest := by
  unfold nextMember
  split
  · simp_all
  · simp_all
  · next c after hclose heq =>
    rw [heq]
    refine iff_of_false ?_ (fun h => hclose (List.cons.inj h).1)
    split
    · split
      · nofun
      · nofun
    · split
      · split
        · nofun
        · nofun
        · nofun
      · nofun

theorem nextMember_of_separated (h : Separated first cs start) (hstart : skipSpace start = '"' :: rest) :
    nextMember first cs = .ok (.name rest) := by
  cases h with
  | first =>
    rw [nextMember, hstart]
    simp
  | comma hcomma =>
    rw [nextMember, hcomma]
    simp [hstart]

theorem exists_of_nextMember (h : nextMember first cs = .ok (.name rest)) :
    ∃ start, Separated first cs start ∧ skipSpace start = '"' :: rest := by
  unfold nextMember at h
  split at h
  · cases h
  · cases h
  · next c after hclose heq =>
    split at h
    · next hfirst =>
      split at h
      · next hquote =>
        cases h
        rw [hquote] at heq
        rw [hfirst]
        exact ⟨cs, .first, heq⟩
      · cases h
    · next hfirst =>
      split at h
      · next hcomma =>
        rw [Bool.not_eq_true] at hfirst
        rw [hcomma] at heq
        rw [hfirst]
        split at h
        · cases h
        · next hstart =>
          cases h
          exact ⟨after, .comma heq, hstart⟩
        · cases h
      · cases h

/-! ## Reading parts -/

/-- Spaces before a value do not matter. -/
theorem readNested_skipSpace (depth : ℕ) (cs : List Char) (fuel : ℕ) :
    readNested depth (skipSpace cs) fuel = readNested depth cs fuel := by
  cases fuel with
  | zero => rw [readNested, readNested]
  | succ fuel => rw [readNested, readNested, skipSpace_skipSpace]

theorem readNested_of_scalarText (h : ScalarText (skipSpace cs) scalar rest) :
    readNested depth cs (fuel + 1) = .ok (scalar.value, rest) := by
  rw [readNested]
  split
  · next heq =>
    rw [heq] at h
    exact absurd rfl h.ne_bracket.1
  · next heq =>
    rw [heq] at h
    exact absurd rfl h.ne_bracket.2.1
  · rw [readScalar_eq_ok_iff.2 h]
    rfl

theorem readNested_of_list (h : skipSpace cs = '[' :: inner) :
    readNested (depth + 1) cs (fuel + 1) =
      (readItems depth true [] inner fuel).map fun (items, rest) => (.list items, rest) := by
  rw [readNested, h]
  rfl

theorem readNested_of_object (h : skipSpace cs = '\x7b' :: inner) :
    readNested (depth + 1) cs (fuel + 1) =
      (readMembers depth true [] inner fuel).map fun (members, rest) => (.object members, rest) := by
  rw [readNested, h]
  rfl

/-- An item is read, and then the others. -/
theorem readItems_of_item {done : List Value} {c : Char} {after next : List Char} (hseparated : Separated first cs start)
    (hstart : skipSpace start = c :: after) (hc : c ≠ ']') (hread : readNested depth start fuel = .ok (value, next)) :
    readItems depth first done cs (fuel + 1) = readItems depth false (value :: done) next fuel := by
  rw [readItems, nextItem_of_separated hseparated hstart hc]
  show (readNested depth (skipSpace start) fuel).bind _ = _
  rw [readNested_skipSpace, hread]
  rfl

/-- A member is read, and then the others. -/
theorem readMembers_of_member {done : List (String × Value)} {name : String} {body after next : List Char}
    (hseparated : Separated first cs start) (hstart : skipSpace start = '"' :: body)
    (hname : Chars none body name.toList after) (hcolon : skipSpace after = ':' :: inner)
    (hread : readNested depth inner fuel = .ok (value, next)) :
    readMembers depth first done cs (fuel + 1) = readMembers depth false (insertMember name value done) next fuel := by
  rw [readMembers, nextMember_of_separated hseparated hstart]
  show (readText body).bind _ = _
  rw [readText_eq_ok_iff.2 hname]
  show (readColon after).bind _ = _
  rw [readColon_eq_ok_iff.2 hcolon]
  show (readNested depth inner fuel).bind _ = _
  rw [hread]
  rfl

/-- A value starts with something else than what ends a list. -/
theorem Spells.exists_cons (h : Spells depth cs (.value value) rest) :
    ∃ c after, skipSpace cs = c :: after ∧ c ≠ ']' := by
  cases h with
  | scalar hscalar =>
    have hlt := hscalar.length_lt
    cases hcs : skipSpace cs with
    | nil => simp [hcs] at hlt
    | cons c after =>
      rw [hcs] at hscalar
      exact ⟨c, after, rfl, hscalar.ne_bracket.2.2⟩
  | list hcs _ => exact ⟨_, _, hcs, by decide⟩
  | object hcs _ => exact ⟨_, _, hcs, by decide⟩

/-- Adds members to others, one after the other. -/
def insertAll (pairs done : List (String × Value)) : List (String × Value) :=
  pairs.foldl (fun sorted (name, value) => insertMember name value sorted) done

/-- The reader makes a part of what a text goes on with. -/
def Reads (depth : ℕ) (cs : List Char) (fuel : ℕ) (rest : List Char) : Part → Prop
  | .value value => readNested depth cs fuel = .ok (value, rest)
  | .items first items => ∀ done, readItems depth first done cs fuel = .ok (done.reverse ++ items, rest)
  | .members first pairs => ∀ done, readMembers depth first done cs fuel = .ok (insertAll pairs done, rest)

/-- The steps that a part takes before its first character. -/
def Part.ahead : Part → ℕ
  | .value _ => 0
  | .items _ _ => 1
  | .members _ _ => 1

/-- What the grammar says is read, in no more than two steps for each character. -/
theorem Spells.reads {part : Part} (h : Spells depth cs part rest)
    (hfuel : 2 * cs.length + part.ahead ≤ fuel + 2 * rest.length) : Reads depth cs fuel rest part := by
  have hlt := h.length_lt
  obtain ⟨fuel, rfl⟩ := Nat.exists_eq_succ_of_ne_zero (show fuel ≠ 0 by omega)
  induction h generalizing fuel with
  | scalar hscalar => exact readNested_of_scalarText hscalar
  | @list depth cs inner items rest hcs hitems ih =>
    have hinner := length_lt_of_skipSpace_eq_cons hcs
    have hlt' := hitems.length_lt
    obtain ⟨fuel, rfl⟩ := Nat.exists_eq_succ_of_ne_zero (show fuel ≠ 0 by omega)
    have hread := ih hlt' fuel (by simp only [Part.ahead] at *; omega) []
    show readNested (depth + 1) cs (fuel + 2) = _
    rw [readNested_of_list hcs, hread]
    rfl
  | @object depth cs inner pairs rest hcs hmembers ih =>
    have hinner := length_lt_of_skipSpace_eq_cons hcs
    have hlt' := hmembers.length_lt
    obtain ⟨fuel, rfl⟩ := Nat.exists_eq_succ_of_ne_zero (show fuel ≠ 0 by omega)
    have hread := ih hlt' fuel (by simp only [Part.ahead] at *; omega) []
    show readNested (depth + 1) cs (fuel + 2) = _
    rw [readNested_of_object hcs, hread]
    rfl
  | noItem hcs =>
    intro done
    rw [readItems, nextItem_eq_close_iff.2 hcs, List.append_nil]
    rfl
  | @item depth first cs start next item items rest hseparated hitem hitems ihitem ihitems =>
    have hle := hseparated.length_le
    have hlt' := hitem.length_lt
    have hlt'' := hitems.length_lt
    obtain ⟨fuel, rfl⟩ := Nat.exists_eq_succ_of_ne_zero (show fuel ≠ 0 by omega)
    obtain ⟨c, after, hstart, hc⟩ := hitem.exists_cons
    have hread := ihitem hlt' fuel (by simp only [Part.ahead] at *; omega)
    have hreads := ihitems hlt'' fuel (by simp only [Part.ahead] at *; omega)
    intro done
    rw [readItems_of_item hseparated hstart hc hread, hreads]
    simp
  | noMember hcs =>
    intro done
    rw [readMembers, nextMember_eq_close_iff.2 hcs]
    rfl
  | @member depth first cs start body after inner next name value pairs rest hseparated hstart hname hcolon hvalue hpairs
      ihvalue ihpairs =>
    have hle := hseparated.length_le
    have hbody := length_lt_of_skipSpace_eq_cons hstart
    have hafter := hname.length_lt
    have hinner := length_lt_of_skipSpace_eq_cons hcolon
    have hlt' := hvalue.length_lt
    have hlt'' := hpairs.length_lt
    obtain ⟨fuel, rfl⟩ := Nat.exists_eq_succ_of_ne_zero (show fuel ≠ 0 by omega)
    have hread := ihvalue hlt' fuel (by simp only [Part.ahead] at *; omega)
    have hreads := ihpairs hlt'' fuel (by simp only [Part.ahead] at *; omega)
    intro done
    rw [readMembers_of_member hseparated hstart hname hcolon hread, hreads]
    rfl

/-! ## What is read -/

/-- A value that is read is one of the grammar, if the items and members in it are. -/
theorem Spells.of_readNested
    (hitems : ∀ depth cs items rest, readItems depth true [] cs fuel = .ok (items, rest) →
      Spells depth cs (.items true items) rest)
    (hmembers : ∀ depth cs members rest, readMembers depth true [] cs fuel = .ok (members, rest) →
      ∃ pairs, Spells depth cs (.members true pairs) rest ∧ members = insertAll pairs [])
    (h : readNested depth cs (fuel + 1) = .ok (value, rest)) : Spells depth cs (.value value) rest := by
  rw [readNested] at h
  split at h
  · next hcs =>
    cases depth with
    | zero => cases h
    | succ depth =>
      obtain ⟨⟨items, after⟩, hread, h⟩ := exists_of_map_eq_ok h
      cases h
      exact .list hcs (hitems depth _ items rest hread)
  · next hcs =>
    cases depth with
    | zero => cases h
    | succ depth =>
      obtain ⟨⟨members, after⟩, hread, h⟩ := exists_of_map_eq_ok h
      cases h
      obtain ⟨pairs, hpairs, rfl⟩ := hmembers depth _ members rest hread
      exact .object hcs hpairs
  · obtain ⟨⟨scalar, after⟩, hread, h⟩ := exists_of_map_eq_ok h
    cases h
    exact .scalar (readScalar_eq_ok_iff.1 hread)

/-- What is read is as the grammar says. -/
theorem Spells.of_read (fuel : ℕ) :
    (∀ depth cs value rest, readNested depth cs fuel = .ok (value, rest) → Spells depth cs (.value value) rest) ∧
    (∀ depth first done cs items rest, readItems depth first done cs fuel = .ok (items, rest) →
      ∃ more, Spells depth cs (.items first more) rest ∧ items = done.reverse ++ more) ∧
    (∀ depth first done cs members rest, readMembers depth first done cs fuel = .ok (members, rest) →
      ∃ pairs, Spells depth cs (.members first pairs) rest ∧ members = insertAll pairs done) := by
  induction fuel with
  | zero =>
    refine ⟨?_, ?_, ?_⟩
    · intro depth cs value rest h
      rw [readNested] at h
      cases h
    · intro depth first done cs items rest h
      rw [readItems] at h
      cases h
    · intro depth first done cs members rest h
      rw [readMembers] at h
      cases h
  | succ fuel ih =>
    obtain ⟨ihvalue, ihitems, ihmembers⟩ := ih
    refine ⟨?_, ?_, ?_⟩
    · intro depth cs value rest h
      refine Spells.of_readNested ?_ ?_ h
      · intro depth cs items rest h
        obtain ⟨more, hmore, rfl⟩ := ihitems depth true [] cs items rest h
        exact hmore
      · intro depth cs members rest h
        exact ihmembers depth true [] cs members rest h
    · intro depth first done cs items rest h
      rw [readItems] at h
      obtain ⟨next, hnext, h⟩ := exists_of_bind_eq_ok h
      cases next with
      | close after =>
        cases h
        exact ⟨[], .noItem (nextItem_eq_close_iff.1 hnext), by simp⟩
      | item after =>
        obtain ⟨start, hseparated, rfl⟩ := exists_of_nextItem hnext
        obtain ⟨⟨item, after⟩, hitem, h⟩ := exists_of_bind_eq_ok h
        rw [readNested_skipSpace] at hitem
        obtain ⟨more, hmore, rfl⟩ := ihitems depth false (item :: done) after items rest h
        exact ⟨item :: more, .item hseparated (ihvalue depth start item after hitem) hmore, by simp⟩
    · intro depth first done cs members rest h
      rw [readMembers] at h
      obtain ⟨next, hnext, h⟩ := exists_of_bind_eq_ok h
      cases next with
      | close after =>
        cases h
        exact ⟨[], .noMember (nextMember_eq_close_iff.1 hnext), rfl⟩
      | name after =>
        obtain ⟨start, hseparated, hstart⟩ := exists_of_nextMember hnext
        obtain ⟨⟨name, after⟩, hname, h⟩ := exists_of_bind_eq_ok h
        obtain ⟨inner, hcolon, h⟩ := exists_of_bind_eq_ok h
        obtain ⟨⟨value, next⟩, hvalue, h⟩ := exists_of_bind_eq_ok h
        obtain ⟨pairs, hpairs, rfl⟩ := ihmembers depth false (insertMember name value done) next members rest h
        exact ⟨(name, value) :: pairs, .member hseparated hstart (readText_eq_ok_iff.1 hname)
          (readColon_eq_ok_iff.1 hcolon) (ihvalue depth inner value next hvalue) hpairs, rfl⟩

/-- A text is read just if it holds a value and nothing but spaces after it. -/
theorem read_eq_ok_iff {text : String} :
    read text = .ok value ↔
      ∃ rest, Spells nestingLimit text.toList (.value value) rest ∧ skipSpace rest = [] := by
  constructor
  · intro h
    obtain ⟨⟨value', rest⟩, hread, h⟩ := exists_of_bind_eq_ok h
    change (if (skipSpace rest).isEmpty = true then Except.ok value' else .error Fault.malformed) = _ at h
    split at h
    · next hrest =>
      cases h
      exact ⟨rest, (Spells.of_read _).1 _ _ _ _ hread, List.isEmpty_iff.1 hrest⟩
    · cases h
  · rintro ⟨rest, hspells, hrest⟩
    have hread : readNested nestingLimit text.toList (2 * text.toList.length + 2) = .ok (value, rest) :=
      hspells.reads (by simp only [Part.ahead]; omega)
    show (readNested nestingLimit text.toList (2 * text.toList.length + 2)).bind finish = _
    rw [hread]
    show (if (skipSpace rest).isEmpty then _ else _) = _
    rw [hrest]
    rfl

/-! ## Objects -/

/-- A text that holds an object and nothing but spaces around it, with its members in the order in which they are
written. -/
def ObjectText (text : String) (pairs : List (String × Value)) : Prop :=
  ∃ inner rest, skipSpace text.toList = '\x7b' :: inner ∧ Spells (nestingLimit - 1) inner (.members true pairs) rest ∧
    skipSpace rest = []

theorem member?_cons (other : String) (members : List (String × Value)) :
    member? name ((other, value) :: members) = if name = other then some value else member? name members := by
  rw [member?, List.lookup_cons]
  by_cases hname : name = other
  · simp [hname]
  · rw [if_neg hname, beq_false_of_ne hname]
    rfl

/-- A member that is set is that of its name, whether or not there was one, and leaves the others alone. -/
theorem member?_insertMember (other : String) (members : List (String × Value)) :
    member? name (insertMember other value members) = if name = other then some value else member? name members := by
  induction members with
  | nil => exact member?_cons other []
  | cons member rest ih =>
    obtain ⟨third, old⟩ := member
    rw [insertMember]
    by_cases hother : other = third
    · rw [if_pos hother, member?_cons, member?_cons, ← hother]
      by_cases hname : name = other
      · rw [if_pos hname, if_pos hname]
      · rw [if_neg hname, if_neg hname, if_neg hname]
    · rw [if_neg hother]
      by_cases hlt : other < third
      · rw [if_pos hlt, member?_cons]
      · rw [if_neg hlt, member?_cons, member?_cons, ih]
        by_cases hname : name = third
        · rw [if_pos hname, if_neg (fun h => hother (h.symm.trans hname)), if_pos hname]
        · rw [if_neg hname, if_neg hname]

/-- The last member of a name counts. -/
theorem member?_insertAll (name : String) (pairs done : List (String × Value)) :
    member? name (insertAll pairs done) = (latest? name pairs).or (member? name done) := by
  induction pairs generalizing done with
  | nil => rfl
  | cons pair rest ih =>
    obtain ⟨other, value⟩ := pair
    show member? name (insertAll rest (insertMember other value done)) = _
    rw [ih, member?_insertMember]
    by_cases hname : other = name
    · rw [hname, if_pos rfl, latest?_cons_self]
      cases latest? name rest <;> rfl
    · rw [if_neg (Ne.symm hname), latest?_cons_of_ne hname]

theorem Scalar.value_ne_object (scalar : Scalar) (members : List (String × Value)) : scalar.value ≠ .object members := by
  cases scalar with
  | number number => cases number <;> nofun
  | _ => nofun

theorem Spells.exists_of_object {members : List (String × Value)}
    (h : Spells depth cs (.value (.object members)) rest) :
    ∃ inner pairs, skipSpace cs = '\x7b' :: inner ∧ Spells (depth - 1) inner (.members true pairs) rest ∧
      members = insertAll pairs [] := by
  generalize hvalue : Value.object members = value at h
  cases h with
  | scalar _ => exact absurd hvalue.symm (Scalar.value_ne_object _ members)
  | list _ _ => cases hvalue
  | object hcs hpairs => exact ⟨_, _, hcs, hpairs, Value.object.inj hvalue⟩

/-- A text is read as an object just if it holds one. -/
theorem read_eq_object_iff {text : String} {members : List (String × Value)} :
    read text = .ok (.object members) ↔ ∃ pairs, ObjectText text pairs ∧ members = insertAll pairs [] := by
  rw [read_eq_ok_iff]
  constructor
  · rintro ⟨rest, hspells, hrest⟩
    obtain ⟨inner, pairs, hinner, hpairs, hmembers⟩ := hspells.exists_of_object
    exact ⟨pairs, ⟨inner, rest, hinner, hpairs, hrest⟩, hmembers⟩
  · rintro ⟨pairs, ⟨inner, rest, hinner, hpairs, hrest⟩, rfl⟩
    exact ⟨rest, .object hinner hpairs, hrest⟩

end FrameDetect.Json
