import FrameDetect.Proofs.Basic
import FrameDetect.Storage.Tree

/-!
# Adding to files

What a file holds can be told from its place, which a path and the working directory settle.  Bytes that
are added to a file come after those that are there, and the file can then be read and added to again.
Directories that are made leave every file as it is.
-/

namespace FrameDetect.Storage

namespace Tree

/-- Where a path leads, whether anything is there or not. -/
def placeOf (tree : Tree) (path : String) : Place :=
  (steps path).foldl step (if isAbsolute path then [] else tree.workingDirectory)

/-- The bytes of a file at a place; none if there is no file. -/
def contentAt (tree : Tree) (place : Place) : ByteArray :=
  match tree.entry? place with
  | some (.file bytes) => bytes
  | _ => .empty

/-- What the file of a path holds. -/
def content (tree : Tree) (path : String) : ByteArray := tree.contentAt (tree.placeOf path)

variable {tree tree' : Tree} {path : String} {place other origin above : Place} {entry : Entry}
  {bytes old : ByteArray}

/-! ## One entry -/

theorem lookup_filter_ne (entries : List (Place × Entry)) (h : other ≠ place) :
    (entries.filter fun (key, _) => key != place).lookup other = entries.lookup other := by
  induction entries with
  | nil => rfl
  | cons head rest ih =>
    obtain ⟨key, value⟩ := head
    by_cases hkey : key = place
    · subst hkey
      rw [List.filter_cons_of_neg (by simp), ih, List.lookup_cons, beq_false_of_ne h]
    · rw [List.filter_cons_of_pos (by simpa using hkey), List.lookup_cons, List.lookup_cons, ih]

theorem entry?_set (h : place ≠ []) (other : Place) :
    Tree.entry? (tree.set place entry) other =
      if other = place then some entry else tree.entry? other := by
  by_cases hsame : other = place
  · subst hsame
    rw [if_pos rfl, Tree.entry?, if_neg (by simpa using h), set, List.lookup_cons_self]
  · rw [if_neg hsame, Tree.entry?, Tree.entry?, set, List.lookup_cons, beq_false_of_ne hsame,
      lookup_filter_ne _ hsame]

/-- The root is a directory. -/
theorem ne_nil_of_free (h : tree.entry? place ≠ some .directory) : place ≠ [] := by
  rintro rfl
  exact h rfl

/-! ## Along a path -/

theorem enter_eq_ok {piece : String} (h : tree.enter above piece = .ok place) :
    tree.entry? above = some .directory ∧ place = step above piece := by
  unfold enter at h
  split at h
  · split at h
    · cases h
    · cases h
      exact ⟨by assumption, rfl⟩
  · cases h
  · cases h

theorem walk_cons (tree : Tree) (origin : Place) (piece : String) (rest : List String) :
    tree.walk origin (piece :: rest) = tree.enter origin piece >>= fun next => tree.walk next rest :=
  List.foldlM_cons

theorem walk_append {before after : List String} (h : tree.walk origin before = .ok above) :
    tree.walk origin (before ++ after) = tree.walk above after := by
  rw [walk] at h
  rw [walk, List.foldlM_append, h]
  rfl

theorem walk_eq_ok {pieces : List String} (h : tree.walk origin pieces = .ok above) :
    above = pieces.foldl step origin := by
  induction pieces generalizing origin with
  | nil =>
    cases h
    rfl
  | cons piece rest ih =>
    rw [walk_cons] at h
    obtain ⟨next, henter, h⟩ := exists_of_bind_eq_ok h
    rw [List.foldl_cons, ← (enter_eq_ok henter).2]
    exact ih h

/-- A way that is open leads nowhere else when a file is put where no directory is. -/
theorem enter_set {piece : String} (h : tree.enter above piece = .ok place)
    (hfree : tree.entry? other ≠ some .directory) :
    (tree.set other entry).enter above piece = .ok place := by
  have hdirectory := (enter_eq_ok h).1
  have hne : above ≠ other := by
    rintro rfl
    exact hfree hdirectory
  have hsame : Tree.entry? (tree.set other entry) above = tree.entry? above := by
    rw [entry?_set (ne_nil_of_free hfree), if_neg hne]
  rw [enter] at h ⊢
  rwa [hsame]

theorem walk_set {pieces : List String} (h : tree.walk origin pieces = .ok above)
    (hfree : tree.entry? other ≠ some .directory) :
    (tree.set other entry).walk origin pieces = .ok above := by
  induction pieces generalizing origin with
  | nil => exact h
  | cons piece rest ih =>
    rw [walk_cons] at h ⊢
    obtain ⟨next, henter, h⟩ := exists_of_bind_eq_ok h
    rw [enter_set henter hfree]
    exact ih h

theorem start_eq_ok (h : tree.start path = .ok origin) :
    origin = if isAbsolute path then [] else tree.workingDirectory := by
  unfold start at h
  split at h
  · cases h
  · split at h
    · cases h
    · split at h
      · cases h
      · cases h
        rfl

/-- A path that does not end at a directory ends with the last of its pieces. -/
theorem pieces_eq_splitLast (h : namesDirectory path = false) :
    pieces path = (splitLast path).1 ++ [(splitLast path).2] ∧ (splitLast path).2 ≠ "" ∧
      (splitLast path).2 ≠ "." := by
  rcases List.eq_nil_or_concat (pieces path) with hnil | ⟨init, last, hpieces⟩
  · rw [pieces, List.map_eq_nil_iff] at hnil
    exact absurd hnil (List.splitOn_ne_nil _ _)
  · rw [List.concat_eq_append] at hpieces
    have hlast : (last ≠ "" ∧ last ≠ ".") ∧ last ≠ ".." := by simpa [namesDirectory, hpieces] using h
    have hsplit : splitLast path = (init, last) := by simp [splitLast, hpieces, hlast.1.1]
    rw [hsplit]
    exact ⟨hpieces, hlast.1⟩

theorem steps_eq_splitLast (h : namesDirectory path = false) :
    steps path = leading (splitLast path).1 ++ [(splitLast path).2] := by
  obtain ⟨hpieces, hempty, hhere⟩ := pieces_eq_splitLast h
  rw [steps, hpieces, leading, List.filter_append, leading,
    List.filter_cons_of_pos (by simp [hempty, hhere]), List.filter_nil]

/-! ## The file of a path -/

/-- How a path reaches the place of a file, which may not be there yet. -/
structure Reaches (tree : Tree) (path : String) (origin above place : Place) : Prop where
  start : tree.start path = .ok origin
  walk : tree.walk origin (leading (splitLast path).1) = .ok above
  enter : tree.enter above (splitLast path).2 = .ok place
  free : tree.entry? place ≠ some .directory
  file : namesDirectory path = false

namespace Reaches

theorem placeOf (h : tree.Reaches path origin above place) : tree.placeOf path = place := by
  rw [Tree.placeOf, ← start_eq_ok h.start, steps_eq_splitLast h.file, List.foldl_append,
    ← walk_eq_ok h.walk]
  exact (enter_eq_ok h.enter).2.symm

/-- The same way still leads there when the file is written. -/
theorem set (h : tree.Reaches path origin above place) (bytes : ByteArray) :
    (tree.set place (.file bytes)).Reaches path origin above place := by
  refine ⟨h.start, walk_set h.walk h.free, enter_set h.enter h.free, ?_, h.file⟩
  rw [entry?_set (ne_nil_of_free h.free), if_pos rfl]
  nofun

theorem target (h : tree.Reaches path origin above place) :
    tree.target path = .ok (place, tree.contentAt place) := by
  obtain ⟨hstart, hwalk, henter, hfree, hfile⟩ := h
  simp only [Tree.target, hstart, hwalk, hfile, henter, bind, Except.bind, contentAt]
  rcases hentry : tree.entry? place with _ | (bytes | _)
  · rfl
  · rfl
  · exact absurd hentry hfree

theorem read (h : tree.Reaches path origin above place) (hfile : tree.entry? place = some (.file bytes)) :
    tree.read path = .ok bytes := by
  have hwalk : tree.walk origin (steps path) = .ok place := by
    rw [steps_eq_splitLast h.file, walk_append h.walk, walk_cons, h.enter]
    rfl
  simp only [Tree.read, h.start, hwalk, hfile, h.file, bind, Except.bind]
  rfl

end Reaches

theorem reaches_of_target (h : tree.target path = .ok (place, old)) :
    ∃ origin above, tree.Reaches path origin above place := by
  unfold Tree.target at h
  -- a path that can only name a directory never gets as far as a place
  obtain ⟨origin, hstart, h⟩ := exists_of_bind_eq_ok h
  obtain ⟨above, hwalk, h⟩ := exists_of_bind_eq_ok h
  cases hfile : namesDirectory path with
  | true =>
    rw [hfile, if_pos rfl] at h
    obtain ⟨_, -, h⟩ := exists_of_bind_eq_ok h
    cases h
  | false =>
    rw [hfile, if_neg Bool.false_ne_true] at h
    obtain ⟨next, henter, h⟩ := exists_of_bind_eq_ok h
    have hplace : next = place ∧ tree.entry? next ≠ some .directory := by
      rcases hentry : tree.entry? next with _ | (bytes | _) <;> rw [hentry] at h <;> cases h
      · exact ⟨rfl, nofun⟩
      · exact ⟨rfl, nofun⟩
    obtain ⟨rfl, hfree⟩ := hplace
    exact ⟨origin, above, hstart, hwalk, henter, hfree, hfile⟩

/-- What can be read is the content. -/
theorem content_of_read (h : tree.read path = .ok bytes) : tree.content path = bytes := by
  unfold read at h
  obtain ⟨origin, hstart, h⟩ := exists_of_bind_eq_ok h
  obtain ⟨place, hwalk, h⟩ := exists_of_bind_eq_ok h
  rw [content, placeOf, ← start_eq_ok hstart, ← walk_eq_ok hwalk, contentAt]
  split at h
  · next found hentry =>
    rw [hentry]
    split at h
    · cases h
    · cases h
      rfl
  · cases h
  · cases h

/-! ## Adding -/

/-- A path leads to a file with some bytes. -/
def Holds (tree : Tree) (path : String) (bytes : ByteArray) : Prop :=
  ∃ origin above place, tree.Reaches path origin above place ∧ tree.entry? place = some (.file bytes)

theorem Holds.read (h : tree.Holds path bytes) : tree.read path = .ok bytes := by
  obtain ⟨origin, above, place, hreaches, hfile⟩ := h
  exact hreaches.read hfile

theorem Holds.content (h : tree.Holds path bytes) : tree.content path = bytes := content_of_read h.read

theorem append_of_reaches (h : tree.Reaches path origin above place) :
    tree.append path bytes = .ok (tree.set place (.file (tree.content path ++ bytes))) := by
  rw [append, h.target, Tree.content, h.placeOf]
  rfl

theorem holds_set (h : tree.Reaches path origin above place) (bytes : ByteArray) :
    (tree.set place (.file bytes)).Holds path bytes := by
  refine ⟨origin, above, place, h.set bytes, ?_⟩
  rw [entry?_set (ne_nil_of_free h.free), if_pos rfl]

/-- Bytes that are added come after those that are there. -/
theorem holds_of_append (h : tree.append path bytes = .ok tree') :
    tree'.Holds path (tree.content path ++ bytes) := by
  have h' := h
  unfold append at h'
  obtain ⟨⟨place, old⟩, htarget, -⟩ := exists_of_bind_eq_ok h'
  obtain ⟨origin, above, hreaches⟩ := reaches_of_target htarget
  rw [append_of_reaches hreaches] at h
  cases h
  exact holds_set hreaches _

theorem Holds.append (h : tree.Holds path old) (bytes : ByteArray) :
    ∃ tree', tree.append path bytes = .ok tree' := by
  obtain ⟨origin, above, place, hreaches, -⟩ := h
  exact ⟨_, append_of_reaches hreaches⟩

/-! ## Making directories -/

/-- A directory where nothing was before changes no file. -/
theorem contentAt_set_directory (h : tree.entry? place = none) (other : Place) :
    (tree.set place .directory).contentAt other = tree.contentAt other := by
  have hne : place ≠ [] := by
    rintro rfl
    cases h
  rw [contentAt, contentAt, entry?_set hne]
  by_cases hsame : other = place
  · rw [if_pos hsame, hsame, h]
  · rw [if_neg hsame]

theorem contentAt_makeAlong {pieces : List String} (h : tree.makeAlong origin pieces = .ok tree') :
    tree'.workingDirectory = tree.workingDirectory ∧ ∀ place, tree'.contentAt place = tree.contentAt place := by
  induction pieces generalizing tree origin with
  | nil =>
    cases h
    exact ⟨rfl, fun _ => rfl⟩
  | cons piece rest ih =>
    unfold makeAlong at h
    obtain ⟨next, -, h⟩ := exists_of_bind_eq_ok h
    rcases hentry : tree.entry? next with _ | (bytes | _) <;> rw [hentry] at h
    · -- only here something is written, where nothing was before
      obtain ⟨hworking, hcontent⟩ := ih h
      refine ⟨hworking, fun place => ?_⟩
      rw [hcontent, contentAt_set_directory hentry]
    · cases h
    · exact ih h

theorem content_makeDirectories {directory : String} (h : tree.makeDirectories directory = .ok tree')
    (path : String) : tree'.content path = tree.content path := by
  unfold makeDirectories at h
  obtain ⟨origin, -, h⟩ := exists_of_bind_eq_ok h
  obtain ⟨hworking, hcontent⟩ := contentAt_makeAlong h
  rw [content, placeOf, hworking, hcontent]
  rfl

end Tree

end FrameDetect.Storage
