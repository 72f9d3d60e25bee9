/-
The file tree behaves as a map. A file is a name in a directory; a path
means the file that its last name is, once its way leads to a directory.
Everything follows from one fact: neither writing a file nor creating a
directory takes a directory away, so whatever way led to a directory still
does.

That fact is a relation between two trees (`KeepsDirectories`). A step of a
way respects it, so the way does, and so does the look-up of a whole path.
A write or a new directory then changes one entry, and what any path means
afterwards is read off that entry.

The last part is about the directory that a program starts in: a plain name
that is not too long can be written there. So there is a tree in which what
is said of maps in general can be had.
-/
import FireNet.Files.Tree
import FireNet.Proofs.Files.Map
import FireNet.Proofs.Outcome

set_option autoImplicit false

namespace FireNet

-- =============================================================== names

/-- A plain name has only letters and digits. -/
theorem Plain.not_mem {name : String} {c : Char} (h : Plain name)
    (hc : c.isAlphanum = false) :
    c ∉ name.toList := by
  intro hmem
  rw [h.2 c hmem] at hc
  cases hc

/-- So it is no path of its own. -/
theorem Plain.startsWith_slash {name : String} (h : Plain name) :
    name.startsWith "/" = false := by
  rw [String.startsWith_string_eq_false_iff]
  intro hall
  obtain ⟨rest, hrest⟩ := hall
  apply h.not_mem (show '/'.isAlphanum = false from rfl)
  rw [← hrest]
  exact List.mem_cons_self

/-- A root that ends in a slash is a front with a slash behind it. -/
theorem exists_of_endsWith_slash {root : String}
    (h : root.endsWith "/" = true) :
    ∃ front : String, root = front ++ "/" := by
  have hslice : root.toSlice.endsWith "/" = true := h
  rw [String.Slice.endsWith_string_iff, String.copy_toSlice] at hslice
  obtain ⟨front, hfront⟩ := hslice
  refine ⟨String.ofList front, String.toList_inj.mp ?_⟩
  rw [String.toList_append, String.toList_ofList, hfront]

/-- Behind a plain name there is no slash. -/
theorem Plain.endsWith_slash {name : String} (h : Plain name) (front : String) :
    (front ++ name).endsWith "/" = false := by
  rw [Bool.eq_false_iff]
  intro hslash
  obtain ⟨rest, hrest⟩ := exists_of_endsWith_slash hslash
  have hlast := congrArg (fun s : String => s.toList.getLast?) hrest
  simp only [String.toList_append, List.getLast?_append] at hlast
  cases hname : name.toList.getLast? with
  | none => exact h.1 (List.getLast?_eq_none_iff.mp hname)
  | some c =>
      rw [hname] at hlast
      cases hlast
      exact h.not_mem rfl (List.mem_of_getLast? hname)

/-- The names on a path are those before and behind a slash. -/
theorem pathNames_append_slash (front back : String) :
    pathNames (front ++ "/" ++ back) = pathNames front ++ pathNames back := by
  have hlist : (front ++ "/" ++ back).toList
      = front.toList ++ '/' :: back.toList := by
    rw [String.toList_append, String.toList_append, List.append_assoc]
    rfl
  unfold pathNames
  rw [hlist, List.splitOn_eq_splitOnP, List.splitOn_eq_splitOnP,
    List.splitOn_eq_splitOnP,
    List.splitOnP_append_cons _ _ rfl, List.map_append, List.filter_append]

/-- A plain name is the one name on its path. -/
theorem Plain.pathNames {name : String} (h : Plain name) :
    pathNames name = [name] := by
  have hsingle : name.toList.splitOn '/' = [name.toList] := by
    rw [List.splitOn_eq_splitOnP]
    apply List.splitOnP_eq_singleton
    intro c hc
    rw [beq_eq_false_iff_ne]
    intro heq
    exact h.not_mem rfl (heq ▸ hc)
  have hnonempty : name.isEmpty = false := by
    rw [String.isEmpty_eq_false_iff]
    intro heq
    exact h.1 (by rw [heq]; rfl)
  rw [FireNet.pathNames, hsingle, List.map_cons, List.map_nil,
    String.ofList_toList,
    List.filter_cons_of_pos (by rw [hnonempty]; rfl), List.filter_nil]

/-- A plain name below a root is the last name of the path. -/
theorem pathNames_joinPath {root name : String} (h : Plain name) :
    pathNames (joinPath root name) = pathNames root ++ [name] := by
  unfold joinPath
  rw [if_neg (by rw [h.startsWith_slash]; decide)]
  split
  next hroot =>
    rw [Bool.or_eq_true] at hroot
    rcases hroot with hempty | hslash
    · rw [String.isEmpty_iff] at hempty
      rw [hempty, String.empty_append, h.pathNames]
      rfl
    · obtain ⟨front, hfront⟩ := exists_of_endsWith_slash hslash
      have hdir := pathNames_append_slash front ""
      rw [String.append_empty, show pathNames "" = [] from rfl,
        List.append_nil] at hdir
      rw [hfront, pathNames_append_slash, h.pathNames, hdir]
  next => rw [pathNames_append_slash, h.pathNames]

-- ========================================================== directories

namespace FileTree

/-- Directories of one tree are in the other. -/
def KeepsDirectories (t t' : FileTree) : Prop :=
  ∀ directory name number, t.find? directory name = some (.directory number) →
    t'.find? directory name = some (.directory number)

/-- After a file is put there, its name leads to it and every other name to
what it led to. -/
theorem find?_putFile {t : FileTree} {d directory : Nat} {n name : String}
    {bytes : Array UInt8} :
    (t.putFile d n bytes).find? directory name
      = if (d, n) = (directory, name) then some (.file bytes)
        else t.find? directory name := by
  unfold putFile find?
  rw [Std.HashMap.getElem?_insert]
  simp only [beq_iff_eq]

theorem find?_putDir {t : FileTree} {d directory : Nat} {n name : String} :
    (t.putDir d n).find? directory name
      = if (d, n) = (directory, name) then some (.directory t.fresh)
        else t.find? directory name := by
  unfold putDir find?
  rw [Std.HashMap.getElem?_insert]
  simp only [beq_iff_eq]

variable {t t' : FileTree}

/-- A name is looked up unless it is too long. -/
theorem look_eq_ok_iff {directory : Nat} {name : String}
    {entry : Option Entry} :
    t.look directory name = .ok entry
      ↔ name.utf8ByteSize ≤ 255 ∧ t.find? directory name = entry := by
  unfold look
  by_cases h : 255 < name.utf8ByteSize
  · have hlong : ¬name.utf8ByteSize ≤ 255 := by omega
    simp [h, hlong]
  · simp [h, Nat.not_lt.mp h]

/-- One name further: a dot stays, two dots go up, and any other name is
that of a directory. -/
theorem enter_eq_ok_iff {trail after : Trail} {name : String} :
    t.enter trail name = .ok after ↔
      (name = "." ∧ after = trail)
        ∨ (name ≠ "." ∧ name = ".." ∧ after = trail.up) ∨
      (name ≠ "." ∧ name ≠ ".." ∧ name.utf8ByteSize ≤ 255 ∧
        ∃ number, t.find? trail.current name = some (.directory number) ∧
          after = number :: trail) := by
  unfold enter
  by_cases hdot : name = "."
  · simp [hdot, pure, Except.pure, eq_comm]
  · by_cases hup : name = ".."
    · simp [hup, pure, Except.pure, eq_comm]
    · simp only [hdot, hup, if_false, Outcome.bind_eq_ok_iff,
        look_eq_ok_iff, false_and, false_or, ne_eq, not_false_eq_true, true_and]
      constructor
      · intro hall
        obtain ⟨entry, ⟨hsize, hentry⟩, hresult⟩ := hall
        refine ⟨hsize, ?_⟩
        split at hresult
        next number =>
          cases hresult
          exact ⟨number, hentry, rfl⟩
        next => cases hresult
        next => cases hresult
      · intro hall
        obtain ⟨hsize, number, hentry, hafter⟩ := hall
        refine ⟨some (.directory number), ⟨hsize, hentry⟩, ?_⟩
        rw [hafter]
        rfl

/-- A way into a directory stays while directories are kept. -/
theorem KeepsDirectories.enter (h : KeepsDirectories t t') {trail after : Trail}
    {name : String} (henter : t.enter trail name = .ok after) :
    t'.enter trail name = .ok after := by
  rw [enter_eq_ok_iff] at henter ⊢
  rcases henter with hdot | hup | ⟨hdot, hup, hsize, number, hentry, hafter⟩
  · exact .inl hdot
  · exact .inr (.inl hup)
  · exact .inr (.inr ⟨hdot, hup, hsize, number, h _ _ _ hentry, hafter⟩)

theorem KeepsDirectories.foldlM_enter (h : KeepsDirectories t t')
    {way : List String} {trail after : Trail}
    (hway : way.foldlM t.enter trail = .ok after) :
    way.foldlM t'.enter trail = .ok after := by
  induction way generalizing trail with
  | nil => exact hway
  | cons name rest ih =>
      rw [List.foldlM_cons] at hway ⊢
      cases henter : t.enter trail name with
      | error e =>
          rw [henter] at hway
          cases hway
      | ok next =>
          rw [henter] at hway
          rw [h.enter henter]
          exact ih hway

/-- So what a path leads to stays as well. -/
theorem KeepsDirectories.locate (h : KeepsDirectories t t') {r : Route}
    {place : Option (Nat × String)} (hlocate : t.locate r = .ok place) :
    t'.locate r = .ok place := by
  unfold FileTree.locate at hlocate ⊢
  cases hway : r.way.foldlM t.enter r.start with
  | error e =>
      rw [hway] at hlocate
      cases hlocate
  | ok parent =>
      rw [hway] at hlocate
      rw [h.foldlM_enter hway]
      exact hlocate

-- =============================================================== files

/-- The directory and the name of the file that a path means. -/
def file? (t : FileTree) (path : String) : Option (Nat × String) :=
  match route path with
  | .error _ => none
  | .ok r =>
    match t.locate r with
    | .ok (some (directory, name)) =>
      if r.slash = false ∧ name.utf8ByteSize ≤ 255 then some (directory, name)
        else none
    | _ => none

/-- The content of a file. -/
def content? (t : FileTree) (file : Nat × String) : Option (Array UInt8) :=
  match t.find? file.1 file.2 with
  | some (.file bytes) => some bytes
  | _ => none

variable {path : String} {directory : Nat} {name : String} {bytes : Array UInt8}

/-- A path leads to a file name by its last part, in the directory of the
rest. -/
theorem file?_eq_some_iff :
    t.file? path = some (directory, name) ↔ ∃ r, route path = .ok r ∧
      t.locate r = .ok (some (directory, name)) ∧ r.slash = false ∧
      name.utf8ByteSize ≤ 255 := by
  unfold file?
  cases route path with
  | error e => simp
  | ok r =>
      rcases hlocate : t.locate r with e | place
      · simp [hlocate]
      · cases place with
        | none => simp [hlocate]
        | some place =>
            by_cases hfits : r.slash = false ∧ place.2.utf8ByteSize ≤ 255
            · simp only [Except.ok.injEq, exists_eq_left', hlocate,
                Option.some.injEq, hfits, and_self, if_true]
              constructor
              · intro h
                cases h
                exact ⟨rfl, trivial, hfits.2⟩
              · intro h
                exact h.1
            · simp only [Except.ok.injEq, exists_eq_left', hlocate,
                Option.some.injEq, hfits, if_false]
              constructor
              · intro h
                cases h
              · intro hall
                obtain ⟨hplace, hslash, hsize⟩ := hall
                rw [hplace] at hfits
                exact absurd ⟨hslash, hsize⟩ hfits

theorem content?_eq_some_iff {file : Nat × String} :
    t.content? file = some bytes
      ↔ t.find? file.1 file.2 = some (.file bytes) := by
  unfold content?
  cases t.find? file.1 file.2 with
  | none => simp
  | some entry => cases entry <;> simp

theorem KeepsDirectories.file? (h : KeepsDirectories t t')
    (hfile : t.file? path = some (directory, name)) :
    t'.file? path = some (directory, name) := by
  rw [file?_eq_some_iff] at hfile ⊢
  obtain ⟨r, hroute, hlocate, hslash, hsize⟩ := hfile
  exact ⟨r, hroute, h.locate hlocate, hslash, hsize⟩

/-- A file that is there is read whole. -/
theorem read_of_content (hfile : t.file? path = some (directory, name))
    (hcontent : t.content? (directory, name) = some bytes) :
    t.read path = .ok bytes := by
  rw [file?_eq_some_iff] at hfile
  obtain ⟨r, hroute, hlocate, hslash, hsize⟩ := hfile
  rw [content?_eq_some_iff] at hcontent
  have hlook := look_eq_ok_iff.mpr ⟨hsize, hcontent⟩
  unfold read
  rw [Outcome.bind_eq_ok_iff]
  refine ⟨r, hroute, ?_⟩
  rw [Outcome.bind_eq_ok_iff]
  refine ⟨some (directory, name), hlocate, ?_⟩
  simp only [Outcome.bind_eq_ok_iff]
  refine ⟨some (.file bytes), hlook, ?_⟩
  simp only [hslash]
  rfl

/-- A file can be written where a path means one and no directory is. -/
theorem writable_eq_ok_iff :
    t.writable path = .ok (directory, name)
      ↔ t.file? path = some (directory, name) ∧
      ∀ number, t.find? directory name ≠ some (.directory number) := by
  unfold writable
  simp only [Outcome.bind_eq_ok_iff, file?_eq_some_iff]
  constructor
  · intro hall
    obtain ⟨r, hroute, place, hlocate, h⟩ := hall
    cases place with
    | none => cases h
    | some place =>
        obtain ⟨d, n⟩ := place
        cases hslash : r.slash with
        | true =>
            simp only [hslash, if_true, Outcome.bind_eq_ok_iff] at h
            obtain ⟨u, hthrow, -⟩ := h
            cases hthrow
        | false =>
            dsimp only at h
            rw [hslash, if_neg Bool.false_ne_true, Outcome.bind_eq_ok_iff] at h
            obtain ⟨entry, hlook, h⟩ := h
            obtain ⟨hsize, hentry⟩ := look_eq_ok_iff.mp hlook
            split at h
            next => cases h
            next hfree =>
              cases h
              exact ⟨⟨r, hroute, hlocate, hslash, hsize⟩, fun number hnumber =>
                hfree number (hentry.symm.trans hnumber)⟩
  · intro hall
    obtain ⟨⟨r, hroute, hlocate, hslash, hsize⟩, hentry⟩ := hall
    refine ⟨r, hroute, some (directory, name), hlocate, ?_⟩
    have hlook : t.look directory name = .ok (t.find? directory name) :=
      look_eq_ok_iff.mpr ⟨hsize, rfl⟩
    dsimp only
    rw [hslash, if_neg Bool.false_ne_true, Outcome.bind_eq_ok_iff]
    refine ⟨t.find? directory name, hlook, ?_⟩
    split
    next number hnumber => exact absurd hnumber (hentry number)
    next => rfl

/-- A vacant place holds nothing. -/
theorem find?_of_vacant (h : t.vacant path = .ok (directory, name)) :
    t.find? directory name = none := by
  unfold vacant at h
  simp only [Outcome.bind_eq_ok_iff] at h
  obtain ⟨r, hroute, place, hlocate, h⟩ := h
  cases place with
  | none => cases h
  | some place =>
      obtain ⟨d, n⟩ := place
      simp only [Outcome.bind_eq_ok_iff, look_eq_ok_iff] at h
      obtain ⟨entry, ⟨hsize, hentry⟩, h⟩ := h
      cases entry with
      | some _ => cases h
      | none =>
          cases h
          exact hentry

-- ============================================================== changes

/-- A file keeps all directories when it replaces none. -/
theorem keepsDirectories_putFile
    (h : ∀ number, t.find? directory name ≠ some (.directory number)) :
    KeepsDirectories t (t.putFile directory name bytes) := by
  intro d n number hentry
  rw [find?_putFile]
  split
  next heq =>
    cases heq
    exact absurd hentry (h number)
  next => exact hentry

/-- A new directory keeps them too. -/
theorem keepsDirectories_putDir (h : t.find? directory name = none) :
    KeepsDirectories t (t.putDir directory name) := by
  intro d n number hentry
  rw [find?_putDir]
  split
  next heq =>
    cases heq
    rw [h] at hentry
    cases hentry
  next => exact hentry

/-- A write changes the content of its own file alone. -/
theorem content?_putFile {file : Nat × String} :
    (t.putFile directory name bytes).content? file
      = if (directory, name) = file then some bytes else t.content? file := by
  unfold content?
  rw [find?_putFile]
  by_cases h : (directory, name) = file
  · rw [if_pos h, if_pos h]
  · rw [if_neg h, if_neg h]

/-- A new directory changes the content of no file. -/
theorem content?_putDir (h : t.find? directory name = none) :
    (t.putDir directory name).content? = t.content? := by
  funext file
  unfold content?
  rw [find?_putDir]
  by_cases heq : (directory, name) = (file.1, file.2)
  · obtain ⟨hdirectory, hname⟩ := Prod.mk.inj heq
    rw [if_pos heq, ← hdirectory, ← hname, h]
  · rw [if_neg heq]

/-- A route is its parts: where it starts, the way, and the last name. -/
theorem parts_of_route {r : Route} (h : route path = .ok r) :
    r.start = (if path.startsWith "/" then [] else home)
      ∧ r.way = (pathNames path).dropLast
      ∧ r.last = (pathNames path).getLast? := by
  unfold route at h
  split at h
  · cases h
  · split at h
    · cases h
    · split at h
      · cases h
      · cases h
        exact ⟨rfl, rfl, rfl⟩

/-- The file of a plain name has that name. -/
theorem name_of_joinPath {root plain : String} (hplain : Plain plain)
    (h : t.file? (joinPath root plain) = some (directory, name)) :
    name = plain := by
  rw [file?_eq_some_iff] at h
  obtain ⟨r, hroute, hlocate, -, -⟩ := h
  have hlast : r.last = some plain := by
    rw [(parts_of_route hroute).2.2, pathNames_joinPath hplain,
      List.getLast?_concat]
  unfold locate at hlocate
  rw [Outcome.bind_eq_ok_iff] at hlocate
  obtain ⟨parent, -, hlocate⟩ := hlocate
  rw [hlast] at hlocate
  split at hlocate
  next => cases hlocate
  next => cases hlocate
  next => cases hlocate
  next last _ _ hname =>
    cases hlocate
    exact (Option.some.inj hname).symm

-- ============================================================= the map

/-- What a write does: the file is put there, or the error says why not. -/
theorem run_write :
    (Disk.write path bytes : StateM FileTree _) t
      = match t.writable path with
        | .ok (directory, name) => (.ok (), t.putFile directory name bytes)
        | .error e => (.error e, t) := by
  show (match t.writable path with
    | .ok (directory, name) => _
    | .error e => _ : StateM FileTree (Except FileError Unit)) t = _
  cases t.writable path with
  | error e => rfl
  | ok place => rfl

theorem run_createDir :
    (Disk.createDir path : StateM FileTree _) t
      = match t.vacant path with
        | .ok (directory, name) => (.ok (), t.putDir directory name)
        | .error e => (.error e, t) := by
  show (match t.vacant path with
    | .ok (directory, name) => _
    | .error e => _ : StateM FileTree (Except FileError Unit)) t = _
  cases t.vacant path with
  | error e => rfl
  | ok place => rfl

/-- A write that succeeds puts one file where its path leads. -/
theorem exists_of_write {s : FileTree}
    (h : (Disk.write path bytes : StateM FileTree _) t = (.ok (), s)) :
    ∃ directory name, t.file? path = some (directory, name) ∧
      s = t.putFile directory name bytes ∧ KeepsDirectories t s := by
  rw [run_write] at h
  rcases hwritable : t.writable path with e | ⟨directory, name⟩
  · rw [hwritable] at h
    cases h
  · rw [hwritable] at h
    cases h
    obtain ⟨hfile, hfree⟩ := writable_eq_ok_iff.mp hwritable
    exact ⟨directory, name, hfile, rfl, keepsDirectories_putFile hfree⟩

/-- Creating a directory adds it, or nothing. -/
theorem createDir_changes (t : FileTree) (path : String) :
    KeepsDirectories t ((Disk.createDir path : StateM FileTree _) t).2 ∧
      ((Disk.createDir path : StateM FileTree _) t).2.content?
        = t.content? := by
  rw [run_createDir]
  rcases hvacant : t.vacant path with e | ⟨directory, name⟩
  · exact ⟨fun _ _ _ hentry => hentry, rfl⟩
  · have hnone := find?_of_vacant hvacant
    exact ⟨keepsDirectories_putDir hnone, content?_putDir hnone⟩

/-- The file tree as a map from files to contents. -/
def fileMap : FileMap FileTree (Nat × String) where
  file? := file?
  content? := content?
  read_content := by
    intro t path entry bytes hfile hcontent
    obtain ⟨directory, name⟩ := entry
    show (t.read path, t) = _
    rw [read_of_content hfile hcontent]
  read_keeps := fun _ _ => rfl
  write_content := by
    intro t s path bytes h
    obtain ⟨directory, name, hfile, hs, hkeeps⟩ := exists_of_write h
    refine ⟨(directory, name), hkeeps.file? hfile, ?_, ?_⟩
    · rw [hs, content?_putFile, if_pos rfl]
    · intro other hne
      rw [hs, content?_putFile, if_neg (Ne.symm hne)]
  write_keeps := by
    intro t s path bytes h other entry hother
    obtain ⟨directory, name⟩ := entry
    obtain ⟨-, -, -, -, hkeeps⟩ := exists_of_write h
    exact hkeeps.file? hother
  createDir_content := fun t path => (createDir_changes t path).2
  createDir_keeps :=
    fun t path _ _ hfile => (createDir_changes t path).1.file? hfile
  file?_joinPath_inj := by
    intro t root name other entry hname hother hfile hsame
    obtain ⟨directory, last⟩ := entry
    rw [← name_of_joinPath hname hfile, ← name_of_joinPath hother hsame]

-- =============================================== the working directory

theorem find?_empty : FileTree.empty.find? 2 name = none := by
  unfold find? FileTree.empty
  apply Std.HashMap.getElem?_ofList_of_contains_eq_false
  simp

/-- The working directory is there. -/
theorem createDirAll_dot :
    (Disk.createDirAll "." : StateM FileTree _) t = (.ok (), t) := rfl

/-- The way to a plain name below the current directory. -/
theorem route_dot (h : Plain name) (hsize : name.utf8ByteSize ≤ 255) :
    route (joinPath "." name) = .ok ⟨home, ["."], some name, false⟩ := by
  have hpath : joinPath "." name = "./" ++ name := by
    unfold joinPath
    rw [if_neg (by rw [h.startsWith_slash]; decide), if_neg (by decide +kernel)]
    rfl
  have hnames : pathNames (joinPath "." name) = [".", name] := by
    rw [pathNames_joinPath h]
    rfl
  have hnul : (joinPath "." name).toList.contains '\x00' = false := by
    rw [hpath, String.toList_append, List.contains_eq_mem,
      decide_eq_false_iff_not, List.mem_append, not_or]
    exact ⟨by decide, h.not_mem rfl⟩
  have hstart : (joinPath "." name).startsWith "/" = false := by
    rw [hpath, String.startsWith_string_eq_false_iff, String.toList_append]
    intro hall
    obtain ⟨rest, hrest⟩ := hall
    have hfirst := (List.cons.inj hrest).1
    revert hfirst
    decide
  have hbytes : (joinPath "." name).utf8ByteSize = 2 + name.utf8ByteSize := by
    rw [hpath, String.utf8ByteSize_append]
    rfl
  have hempty : ¬(joinPath "." name).isEmpty = true := by
    rw [String.isEmpty_iff_utf8ByteSize_eq_zero]
    omega
  unfold route
  rw [if_neg (by rw [hnul]; decide), if_neg hempty, if_neg (by omega)]
  dsimp only
  rw [hnames, hstart, hpath, h.endsWith_slash]
  rfl

/-- A plain name in the working directory can be written, unless it is too
long or a directory has it. -/
theorem writable_dot (h : Plain name) (hsize : name.utf8ByteSize ≤ 255)
    (hfree : ∀ number, t.find? 2 name ≠ some (.directory number)) :
    t.writable (joinPath "." name) = .ok (2, name) := by
  rw [writable_eq_ok_iff, file?_eq_some_iff]
  refine ⟨⟨_, route_dot h hsize, ?_, rfl, hsize⟩, hfree⟩
  have hdot : '.' ∉ name.toList := h.not_mem rfl
  unfold locate
  rw [Outcome.bind_eq_ok_iff]
  refine ⟨home, rfl, ?_⟩
  split
  next hname => cases hname
  next hname =>
    cases hname
    exact absurd List.mem_cons_self hdot
  next hname =>
    cases hname
    exact absurd List.mem_cons_self hdot
  next last _ _ hname =>
    cases hname
    rfl

end FileTree

end FireNet
