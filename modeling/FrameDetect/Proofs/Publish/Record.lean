import FrameDetect.Machine
import FrameDetect.Publish.Journal
import FrameDetect.Proofs.Basic
import FrameDetect.Proofs.Storage.Appending
import FrameDetect.Proofs.Text.Plain

/-!
# The record of a journal

A journal may be declared, sent events and withdrawn in any order and as often as one likes.  Its file
only grows: it holds what was there at the start, and then a line for each event that was taken, in the
order of the events.  An event is taken just while the journal is declared.
-/

namespace FrameDetect.Publish

open FrameDetect.Storage (Tree)
open FrameDetect.Text (plain_compact)
open FrameDetect.Time (Timestamp)

/-- The line of an event in the file. -/
def Event.recordLine (event : Event) (time : Timestamp) : ByteArray :=
  ((event.record time).compact ++ "\n").toUTF8

/-- A line ends with the only line end in it, whatever the label is and even if the numbers are not finite. -/
theorem Event.recordLine_eq (event : Event) (time : Timestamp) :
    ∃ body : List UInt8, (event.recordLine time).data.toList = body ++ [10] ∧ 10 ∉ body := by
  refine ⟨(event.record time).compact.toUTF8.data.toList, ?_, ?_⟩
  · have hend : "\n".toByteArray.data = #[10] := by decide
    rw [recordLine, String.toUTF8_eq_toByteArray, String.toUTF8_eq_toByteArray, String.toByteArray_append,
      ByteArray.data_append, Array.toList_append, hend]
  · intro hmem
    have hle := (plain_compact (event.record time)).le_of_mem_bytes 10 hmem
    exact absurd hle (by decide)

/-! ## What the storage does -/

section
variable {machine : Machine} {f : Tree → Except Storage.Fault Tree} {files : Tree}

theorem change_ok (h : f machine.files = .ok files) :
    Machine.change f machine = (.ok (), { machine with files }) := by
  simp only [Machine.change, modifyGet, MonadStateOf.modifyGet, StateT.modifyGet, h]
  rfl

theorem change_error {fault : Storage.Fault} (h : f machine.files = .error fault) :
    Machine.change f machine = (.error fault, machine) := by
  simp only [Machine.change, modifyGet, MonadStateOf.modifyGet, StateT.modifyGet, h]
  rfl

/-- The directories above a file are made without a change to any file. -/
theorem makeParent_eq (path : String) (machine : Machine) :
    ∃ answer files, makeParent (m := StateM Machine) path machine = (answer, { machine with files }) ∧
      ∀ path, files.content path = machine.files.content path := by
  cases hparent : Storage.parent? path with
  | none =>
    refine ⟨.ok (), machine.files, ?_, fun _ => rfl⟩
    rw [makeParent, hparent]
    rfl
  | some parent =>
    by_cases hempty : parent.isEmpty = true
    · refine ⟨.ok (), machine.files, ?_, fun _ => rfl⟩
      rw [makeParent, hparent]
      show (if parent.isEmpty = true then _ else _ : StateM Machine _) machine = _
      rw [if_pos hempty]
      rfl
    · have hmake : makeParent (m := StateM Machine) path = makeDirectories parent := by
        rw [makeParent, hparent]
        exact if_neg hempty
      rw [hmake]
      cases hdirectories : machine.files.makeDirectories parent with
      | error fault => exact ⟨.error fault, machine.files, change_error hdirectories, fun _ => rfl⟩
      | ok files =>
        exact ⟨.ok (), files, change_ok hdirectories, Tree.content_makeDirectories hdirectories⟩

end

/-! ## What a journal does -/

namespace Journal

variable {j : Journal} {old : ByteArray}

theorem declare_of_declared (h : j.declared = true) (machine : Machine) :
    j.declare (m := StateM Machine) machine = ((.ok (), j), machine) := by
  rw [declare, if_pos h]
  rfl

theorem declare_of_not_declared (h : j.declared = false) (machine : Machine) :
    (∃ fault files, j.declare (m := StateM Machine) machine =
        ((.error (.storage fault), j), { machine with files }) ∧
      ∀ path, files.content path = machine.files.content path) ∨
    ∃ files lines, j.declare (m := StateM Machine) machine =
        ((.ok (), { j with declared := true }), { machine with files, lines }) ∧
      files.Holds j.path (machine.files.content j.path) := by
  obtain ⟨answer, files, hmake, hcontent⟩ := makeParent_eq j.path machine
  rw [declare, if_neg (by simp [h]), bind_eq_of_eq hmake]
  cases answer with
  | error fault => exact .inl ⟨fault, files, rfl, hcontent⟩
  | ok =>
    cases happend : files.append j.path .empty with
    | error fault =>
      have hfail : appendBytes (m := StateM Machine) j.path .empty { machine with files } = _ :=
        change_error happend
      exact .inl ⟨fault, files, bind_eq_of_eq hfail _, hcontent⟩
    | ok files' =>
      have hopen : appendBytes (m := StateM Machine) j.path .empty { machine with files } = _ :=
        change_ok happend
      have hholds := Tree.holds_of_append happend
      rw [hcontent, ByteArray.append_empty] at hholds
      exact .inr ⟨files', _, bind_eq_of_eq hopen _, hholds⟩

theorem notify_of_not_declared (h : j.declared = false) (event : Event) (machine : Machine) :
    j.notify (m := StateM Machine) event machine = (.error .notDeclared, machine) := by
  rw [notify, h]
  rfl

theorem notify_of_declared (h : j.declared = true) (event : Event) (machine : Machine)
    (hfile : machine.files.Holds j.path old) :
    ∃ files, j.notify (m := StateM Machine) event machine = (.ok (), { machine with files }) ∧
      files.Holds j.path (old ++ event.recordLine machine.timestamp) := by
  obtain ⟨files, happend⟩ := hfile.append (event.recordLine machine.timestamp)
  have hholds := Tree.holds_of_append happend
  rw [hfile.content] at hholds
  have htime : timestamp (m := StateM Machine) machine = (machine.timestamp, machine) := rfl
  have hadd : appendBytes (m := StateM Machine) j.path (event.recordLine machine.timestamp) machine = _ :=
    change_ok happend
  refine ⟨files, ?_, hholds⟩
  rw [notify, h]
  exact (bind_eq_of_eq htime _).trans (bind_eq_of_eq hadd _)

theorem undeclare_eq (j : Journal) (machine : Machine) :
    ∃ lines, j.undeclare (m := StateM Machine) machine =
      ({ j with declared := false }, { machine with lines }) := by
  cases hdeclared : j.declared with
  | true =>
    refine ⟨machine.lines.push (.info, s!"撤销检测事件声明: {j.path}"), ?_⟩
    rw [undeclare, hdeclared]
    rfl
  | false =>
    refine ⟨machine.lines, ?_⟩
    rw [undeclare, hdeclared]
    rfl

end Journal

/-! ## Requests -/

inductive Request where
  | declare
  | notify (event : Event)
  | undeclare

/-- What a journal does when it is asked. -/
def Request.make (j : Journal) : Request → StateM Machine (Except JournalFault Unit × Journal)
  | .declare => j.declare
  | .notify event => return (← j.notify event, j)
  | .undeclare => return (.ok (), ← j.undeclare)

/-- A request of the past: when it was made and what the answer was. -/
structure Answered where
  request : Request
  time : Timestamp
  answer : Except JournalFault Unit

/-- What a request adds to the file. -/
def Answered.line? : Answered → Option ByteArray
  | ⟨.notify event, time, .ok ()⟩ => some (event.recordLine time)
  | _ => none

/-- A declaration has succeeded, and the journal has not been withdrawn since. -/
def Declared (history : List Answered) : Prop :=
  Since (fun entry => entry.request = .declare ∧ entry.answer = .ok ())
    (fun entry => entry.request ≠ .undeclare) history

/-- A journal in use, with the requests so far, the first one first. -/
structure Usage where
  journal : Journal
  machine : Machine
  history : List Answered

namespace Usage

/-- A journal that has not been asked anything. -/
def fresh (path : String) (machine : Machine) : Usage := ⟨.ofPath path, machine, []⟩

/-- The answer, the journal and the machine after a request at a time. -/
def result (u : Usage) (request : Request) (time : Timestamp) :
    (Except JournalFault Unit × Journal) × Machine :=
  request.make u.journal { u.machine with timestamp := time }

def answer (u : Usage) (request : Request) (time : Timestamp) : Except JournalFault Unit :=
  (u.result request time).1.1

/-- The journal in use after one more request. -/
def ask (u : Usage) (request : Request) (time : Timestamp) : Usage :=
  let ((answer, journal), machine) := u.result request time
  ⟨journal, machine, u.history ++ [⟨request, time, answer⟩]⟩

def askAll (u : Usage) (requests : List (Request × Timestamp)) : Usage :=
  requests.foldl (fun u (request, time) => u.ask request time) u

/-- The lines that were added. -/
def lines (u : Usage) : List ByteArray := u.history.filterMap Answered.line?

end Usage

/-! ## Whether a journal is declared -/

section
variable {history : List Answered} {now : Timestamp} {answer : Except JournalFault Unit}

theorem declared_concat_declare : Declared (history ++ [⟨.declare, now, .ok ()⟩]) :=
  (since_concat_iff ..).2 (.inl ⟨rfl, rfl⟩)

theorem declared_concat_failure {fault : JournalFault} :
    Declared (history ++ [⟨.declare, now, .error fault⟩]) ↔ Declared history := by
  simp [Declared, since_concat_iff]

theorem declared_concat_notify {event : Event} :
    Declared (history ++ [⟨.notify event, now, answer⟩]) ↔ Declared history := by
  simp [Declared, since_concat_iff]

theorem not_declared_concat_undeclare : ¬Declared (history ++ [⟨.undeclare, now, answer⟩]) := by
  simp [Declared, since_concat_iff]

end

/-! ## What every request keeps -/

namespace Usage

/-- What holds of a journal in use, whose file held some bytes at the start. -/
structure Sound (path : String) (first : ByteArray) (u : Usage) : Prop where
  samePath : u.journal.path = path
  declared : u.journal.declared = true ↔ Declared u.history
  content : u.machine.files.content path = u.lines.foldl (· ++ ·) first
  holds : u.journal.declared = true → u.machine.files.Holds path (u.machine.files.content path)

variable {path : String} {first : ByteArray} {u : Usage} {request : Request} {time : Timestamp}
  {answer : Except JournalFault Unit} {j : Journal} {machine : Machine}

theorem ask_eq (h : u.result request time = ((answer, j), machine)) :
    u.ask request time = ⟨j, machine, u.history ++ [⟨request, time, answer⟩]⟩ := by
  rw [ask, h]

theorem lines_concat (u : Usage) (j : Journal) (machine : Machine) (entry : Answered) :
    lines ⟨j, machine, u.history ++ [entry]⟩ = u.lines ++ entry.line?.toList := by
  simp only [lines, List.filterMap_append, List.filterMap_cons, List.filterMap_nil]
  cases entry.line? <;> rfl

theorem sound_fresh (path : String) (machine : Machine) :
    (fresh path machine).Sound path (machine.files.content path) :=
  ⟨rfl, ⟨nofun, fun h => absurd h not_since_nil⟩, rfl, nofun⟩

/-- A request that adds to the file just the line that belongs to it. -/
theorem Sound.extend (h : u.Sound path first) {entry : Answered} (hpath : j.path = path)
    (hdeclared : j.declared = true ↔ Declared (u.history ++ [entry]))
    (hcontent : machine.files.content path = u.machine.files.content path ++ entry.line?.getD .empty)
    (hholds : j.declared = true → machine.files.Holds path (machine.files.content path)) :
    Sound path first ⟨j, machine, u.history ++ [entry]⟩ := by
  refine ⟨hpath, hdeclared, ?_, hholds⟩
  rw [lines_concat, List.foldl_append, ← h.content]
  cases hline : entry.line? with
  | none =>
    rw [hline] at hcontent
    exact hcontent.trans ByteArray.append_empty
  | some line =>
    rw [hline] at hcontent
    exact hcontent

theorem Sound.declare (h : u.Sound path first) (time : Timestamp) :
    (u.ask .declare time).Sound path first := by
  have hpath := h.samePath
  subst hpath
  cases hold : u.journal.declared with
  | true =>
    have hresult : u.result .declare time = _ := Journal.declare_of_declared hold _
    rw [ask_eq hresult]
    exact h.extend rfl (iff_of_true hold declared_concat_declare) ByteArray.append_empty.symm h.holds
  | false =>
    obtain ⟨fault, files, hanswer, hsame⟩ | ⟨files, lines, hanswer, hfile⟩ :=
      Journal.declare_of_not_declared hold { u.machine with timestamp := time }
    · have hresult : u.result .declare time = _ := hanswer
      rw [ask_eq hresult]
      exact h.extend rfl (h.declared.trans declared_concat_failure.symm)
        ((hsame _).trans ByteArray.append_empty.symm) (fun hopen => by simp [hold] at hopen)
    · have hresult : u.result .declare time = _ := hanswer
      rw [ask_eq hresult]
      refine h.extend rfl (iff_of_true rfl declared_concat_declare)
        (hfile.content.trans ByteArray.append_empty.symm) fun _ => ?_
      rwa [hfile.content]

theorem result_notify_of_not_declared (h : u.journal.declared = false) (event : Event) (time : Timestamp) :
    u.result (.notify event) time =
      ((.error .notDeclared, u.journal), { u.machine with timestamp := time }) :=
  bind_eq_of_eq (Journal.notify_of_not_declared h event _) _

theorem Sound.result_notify (h : u.Sound path first) (hopen : u.journal.declared = true) (event : Event)
    (time : Timestamp) :
    ∃ files, u.result (.notify event) time =
        ((.ok (), u.journal), { u.machine with timestamp := time, files }) ∧
      files.Holds path (u.machine.files.content path ++ event.recordLine time) := by
  have hpath := h.samePath
  subst hpath
  obtain ⟨files, hanswer, hfile⟩ :=
    Journal.notify_of_declared hopen event { u.machine with timestamp := time } (h.holds hopen)
  exact ⟨files, bind_eq_of_eq hanswer _, hfile⟩

theorem Sound.notify (h : u.Sound path first) (event : Event) (time : Timestamp) :
    (u.ask (.notify event) time).Sound path first := by
  cases hopen : u.journal.declared with
  | true =>
    obtain ⟨files, hresult, hfile⟩ := h.result_notify hopen event time
    rw [ask_eq hresult]
    refine h.extend h.samePath (h.declared.trans declared_concat_notify.symm) hfile.content fun _ => ?_
    rwa [hfile.content]
  | false =>
    rw [ask_eq (result_notify_of_not_declared hopen event time)]
    exact h.extend h.samePath (h.declared.trans declared_concat_notify.symm)
      ByteArray.append_empty.symm h.holds

theorem Sound.undeclare (h : u.Sound path first) (time : Timestamp) :
    (u.ask .undeclare time).Sound path first := by
  obtain ⟨lines, hanswer⟩ := Journal.undeclare_eq u.journal { u.machine with timestamp := time }
  have hresult : u.result .undeclare time = ((.ok (), { u.journal with declared := false }), _) :=
    bind_eq_of_eq hanswer _
  rw [ask_eq hresult]
  exact h.extend h.samePath (iff_of_false nofun not_declared_concat_undeclare)
    ByteArray.append_empty.symm nofun

theorem Sound.ask (h : u.Sound path first) : ∀ request time, (u.ask request time).Sound path first
  | .declare, time => h.declare time
  | .notify event, time => h.notify event time
  | .undeclare, time => h.undeclare time

theorem Sound.askAll (h : u.Sound path first) (requests : List (Request × Timestamp)) :
    (u.askAll requests).Sound path first := by
  induction requests generalizing u with
  | nil => exact h
  | cons head rest ih => exact ih (h.ask head.1 head.2)

/-- What a journal promises about its file, whose bytes were some others at the start. -/
structure Keeps (path : String) (first : ByteArray) (u : Usage) : Prop where
  /-- An event is taken just while the journal is declared. -/
  takes : ∀ event time, u.answer (.notify event) time = .ok () ↔ Declared u.history
  /-- An event that comes at another time changes no file. -/
  refuses : ¬Declared u.history → ∀ event time,
    u.answer (.notify event) time = .error .notDeclared ∧
      (u.ask (.notify event) time).machine.files = u.machine.files
  /-- A declaration, the first one or another, cuts nothing off, and neither does its failure. -/
  redeclares : ∀ time, (u.ask .declare time).machine.files.content path = u.machine.files.content path
  content : u.machine.files.content path = u.lines.foldl (· ++ ·) first
  /-- Each line has one line end, which is its last byte. -/
  lines : ∀ line ∈ u.lines, ∃ body : List UInt8, line.data.toList = body ++ [10] ∧ 10 ∉ body
  /-- The content is what a reader of the file sees, if the file is there. -/
  reads : ∀ bytes, u.machine.files.read path = .ok bytes → u.machine.files.content path = bytes
  /-- The file is there while the journal is declared. -/
  present : Declared u.history → ∃ bytes, u.machine.files.read path = .ok bytes

theorem lines_ask_declare (u : Usage) (time : Timestamp) : (u.ask .declare time).lines = u.lines := by
  rw [ask, lines_concat]
  exact List.append_nil _

theorem line_end_of_mem_lines {line : ByteArray} (h : line ∈ u.lines) :
    ∃ body : List UInt8, line.data.toList = body ++ [10] ∧ 10 ∉ body := by
  obtain ⟨⟨request, time, answer⟩, -, hline⟩ := List.mem_filterMap.1 h
  unfold Answered.line? at hline
  split at hline
  · cases hline
    exact Event.recordLine_eq _ _
  · cases hline

theorem Sound.refuses (h : u.Sound path first) (hclosed : ¬Declared u.history) (event : Event)
    (time : Timestamp) :
    u.answer (.notify event) time = .error .notDeclared ∧
      (u.ask (.notify event) time).machine.files = u.machine.files := by
  have hshut : u.journal.declared = false := Bool.eq_false_iff.2 (mt h.declared.1 hclosed)
  have hresult := result_notify_of_not_declared hshut event time
  rw [answer, ask_eq hresult, hresult]
  exact ⟨rfl, rfl⟩

theorem Sound.takes (h : u.Sound path first) (event : Event) (time : Timestamp) :
    u.answer (.notify event) time = .ok () ↔ Declared u.history := by
  by_cases hopen : Declared u.history
  · obtain ⟨files, hresult, -⟩ := h.result_notify (h.declared.2 hopen) event time
    rw [answer, hresult]
    exact iff_of_true rfl hopen
  · rw [(h.refuses hopen event time).1]
    exact iff_of_false nofun hopen

/-- Whatever a journal is asked, its file keeps what it held and gets a line for each event that is taken. -/
theorem journal_appends_lines (path : String) (machine : Machine) (requests : List (Request × Timestamp)) :
    ((fresh path machine).askAll requests).Keeps path (machine.files.content path) := by
  have h := (sound_fresh path machine).askAll requests
  refine ⟨h.takes, h.refuses, ?redeclares, h.content, ?lines, ?reads, ?present⟩
  case redeclares =>
    intro time
    rw [(h.declare time).content, h.content, lines_ask_declare]
  case lines => exact fun _ => line_end_of_mem_lines
  case reads => exact fun _ => Tree.content_of_read
  case present =>
    intro hopen
    exact ⟨_, (h.holds (h.declared.2 hopen)).read⟩

-- On a machine without files a journal can be declared, and declared again after it was withdrawn.
example : ((fresh "e" ⟨⟨[], []⟩, #[], ⟨0⟩, ⟨0⟩⟩).askAll
    [(.declare, ⟨0⟩), (.undeclare, ⟨1⟩), (.declare, ⟨2⟩)]).journal.declared = true := by
  cbv

end Usage

end FrameDetect.Publish
