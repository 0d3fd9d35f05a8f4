import EvmFlow.Storage.Files
import Mathlib.Data.List.Basic

/-!
# Writing and reading files

Whether a path can be written, and which location it leads to, depends only on where there are
folders.  Writing a file puts no folder anywhere and takes none away; so each of several paths leads
to one location all along, and a file holds what was written to its location last.
-/

namespace EvmFlow

/-! ## Parts of a path -/

namespace Split

variable {separator : Char}

theorem parts_cons (c : Char) (text : List Char) :
    parts separator (c :: text) =
      if c = separator then [] :: parts separator text else extend c (parts separator text) :=
  rfl

theorem parts_of_notMem {text : List Char} (absent : separator ∉ text) :
    parts separator text = [text] := by
  induction text with
  | nil => rfl
  | cons c text ih =>
      obtain ⟨different, absent⟩ := List.ne_and_not_mem_of_not_mem_cons absent
      rw [parts_cons, if_neg (Ne.symm different), ih absent, extend]

/-- Text without a separator goes on with the last part of the text in front of it. -/
theorem exists_parts_append (separator : Char) (front : List Char) :
    ∃ before last, ∀ text, separator ∉ text →
      parts separator (front ++ text) = before ++ [last ++ text] := by
  induction front with
  | nil => exact ⟨[], [], fun text => parts_of_notMem⟩
  | cons c front ih =>
      obtain ⟨before, last, parts_eq⟩ := ih
      by_cases separates : c = separator
      · refine ⟨[] :: before, last, fun text absent => ?_⟩
        rw [List.cons_append, parts_cons, if_pos separates, parts_eq text absent]
        rfl
      · cases before with
        | nil =>
            refine ⟨[], c :: last, fun text absent => ?_⟩
            rw [List.cons_append, parts_cons, if_neg separates, parts_eq text absent]
            rfl
        | cons part before =>
            refine ⟨(c :: part) :: before, last, fun text absent => ?_⟩
            rw [List.cons_append, parts_cons, if_neg separates, parts_eq text absent]
            rfl

end Split

namespace Path

theorem trimmed_eq_of_pieces {path piece : String} {before : List String}
    (pieces_eq : pieces path = before ++ [piece]) (nonempty : piece ≠ "") :
    trimmed path = before ++ [piece] := by
  simp [trimmed, pieces_eq, nonempty]

theorem trimmed_eq_pieces {path : String} (nonempty : path ≠ "") (closed : endsInSlash path = false) :
    trimmed path = pieces path := by
  obtain ⟨front, c, path_eq⟩ :=
    List.eq_nil_or_concat path.toList |>.resolve_left (mt String.toList_eq_nil_iff.1 nonempty)
  have no_slash : '/' ∉ [c] := by
    simpa [endsInSlash, path_eq, eq_comm] using closed
  obtain ⟨before, last, parts_eq⟩ := Split.exists_parts_append '/' front
  have pieces_eq :
      pieces path = before.map String.ofList ++ [String.ofList (last ++ [c])] := by
    rw [pieces, path_eq, List.concat_eq_append, parts_eq _ no_slash, List.map_append,
      List.map_singleton]
  rw [pieces_eq]
  refine trimmed_eq_of_pieces pieces_eq fun empty => ?_
  have nothing : last ++ [c] = [] := String.ofList_injective empty
  simp at nothing

/-- Names without a slash differ in the last part of the path only. -/
theorem exists_trimmed_append (front : String) :
    ∃ (before : List String) (last : List Char), ∀ name : String, '/' ∉ name.toList → name ≠ "" →
      trimmed (front ++ name) = before ++ [String.ofList (last ++ name.toList)] := by
  obtain ⟨before, last, parts_eq⟩ := Split.exists_parts_append '/' front.toList
  refine ⟨before.map String.ofList, last, fun name absent nonempty => ?_⟩
  refine trimmed_eq_of_pieces ?_ ?_
  · rw [pieces, String.toList_append, parts_eq _ absent, List.map_append, List.map_singleton]
  · intro empty
    have nothing : last ++ name.toList = [] := String.ofList_injective empty
    exact nonempty (String.toList_injective (List.append_eq_nil_iff.1 nothing).2)

theorem start_append {front : String} (nonempty : front ≠ "") (name : String) :
    start (front ++ name) = start front := by
  have front_ne : front.toList ≠ [] := mt String.toList_eq_nil_iff.1 nonempty
  rw [start, start, String.toList_append, List.head?_append_of_ne_nil _ front_ne]

theorem inside_ne_empty (folder : String) {name : String} (nonempty : name ≠ "") :
    inside folder name ≠ "" := by
  rw [inside]
  split <;> simp [nonempty]

end Path

namespace Files

variable {files files' : Files} {place : Location} {path : String}

/-! ## Entries of the tree -/

theorem find?_putInto (place : Location) (node : Node) (nodes : List (Location × Node))
    (other : Location) :
    ((putInto place node nodes).find? (·.1 = other)).map Prod.snd =
      if other = place then some node else (nodes.find? (·.1 = other)).map Prod.snd := by
  induction nodes with
  | nil =>
      by_cases same : place = other
      · simp [putInto, same]
      · simp [putInto, same, Ne.symm same]
  | cons entry nodes ih =>
      obtain ⟨here, old⟩ := entry
      rw [putInto]
      split
      · rename_i replaced
        subst replaced
        by_cases same : here = other
        · simp [same]
        · simp [same, Ne.symm same]
      · by_cases same : here = other
        · subst same
          simp_all
        · simpa [same] using ih

theorem node?_put (files : Files) (inner : place.parts ≠ []) (node : Node) (other : Location) :
    (files.put place node).node? other = if other = place then some node else files.node? other := by
  by_cases same : other = place
  · subst same
    simp [node?, put, find?_putInto, inner]
  · simp [node?, put, find?_putInto, same]

theorem folder_eq_ok_iff {next : Location} :
    files.folder place = .ok next ↔ files.node? place = some .folder ∧ next = place := by
  rw [folder]
  split
  · rename_i missing
    simp [missing]
  · rename_i is_file
    simp [is_file]
  · rename_i is_folder
    simp [is_folder, eq_comm]

/-- Two trees have their folders at the same locations. -/
def SameFolders (files files' : Files) : Prop :=
  ∀ place, files.node? place = some .folder ↔ files'.node? place = some .folder

theorem SameFolders.symm (same : files.SameFolders files') : files'.SameFolders files :=
  fun place => (same place).symm

theorem SameFolders.trans {files'' : Files} (same : files.SameFolders files')
    (next : files'.SameFolders files'') : files.SameFolders files'' :=
  fun place => (same place).trans (next place)

/-- A file in the place of nothing or of another file changes no folder. -/
theorem sameFolders_put (inner : place.parts ≠ []) (vacant : files.node? place ≠ some .folder)
    (content : Content) : files.SameFolders (files.put place (.file content)) := by
  intro other
  rw [node?_put files inner]
  split
  · rename_i same
    simp [same, vacant]
  · rfl

/-! ## Following a path -/

theorem SameFolders.follow_of_ok (same : files.SameFolders files') {piece : String}
    {next : Location} (followed : files.follow place piece = .ok next) :
    files'.follow place piece = .ok next := by
  rw [follow] at followed ⊢
  split at followed
  · cases followed
  · rename_i here found
    obtain ⟨is_folder, rfl⟩ := folder_eq_ok_iff.1 found
    rwa [folder_eq_ok_iff.2 ⟨(same _).1 is_folder, rfl⟩]

theorem SameFolders.followAll_of_ok (same : files.SameFolders files') {pieces : List String}
    {next : Location} (followed : files.followAll place pieces = .ok next) :
    files'.followAll place pieces = .ok next := by
  induction pieces generalizing place with
  | nil => exact followed
  | cons piece pieces ih =>
      rw [followAll] at followed ⊢
      split at followed
      · cases followed
      · rename_i step
        rw [same.follow_of_ok step]
        exact ih followed

theorem followAll_append {pieces : List String} {next : Location}
    (followed : files.followAll place pieces = .ok next) (more : List String) :
    files.followAll place (pieces ++ more) = files.followAll next more := by
  induction pieces generalizing place with
  | nil =>
      cases followed
      rfl
  | cons piece pieces ih =>
      rw [List.cons_append, followAll]
      rw [followAll] at followed
      split at followed
      · cases followed
      · exact ih followed

/-- A path can be written: it leads into a folder, and ends in a name under which there is no
folder. -/
structure LeadsTo (files : Files) (path : String) (place : Location) (name : String) : Prop where
  nonempty : path ≠ ""
  short : path.utf8ByteSize ≤ pathLimit
  followed : files.followAll (Path.start path) (Path.trimmed path).dropLast = .ok place
  is_folder : files.node? place = some .folder
  last_eq : (Path.trimmed path).getLast? = some name
  is_name : Path.isName name
  closed : Path.endsInSlash path = false
  name_short : Path.isTooLong name = false
  vacant : files.node? (place.child name) ≠ some .folder

theorem locateEntry_eq_ok_iff {name? : Option String} :
    files.locateEntry path = .ok (place, name?) ↔
      path ≠ "" ∧ path.utf8ByteSize ≤ pathLimit ∧
        files.followAll (Path.start path) (Path.trimmed path).dropLast = .ok place ∧
        files.node? place = some .folder ∧
        name? = (Path.trimmed path).getLast?.filter Path.isName := by
  constructor
  · intro located
    rw [locateEntry] at located
    split at located
    · cases located
    split at located
    · cases located
    rename_i nonempty short
    dsimp only at located
    split at located
    · cases located
    rename_i followed
    split at located
    · cases located
    rename_i found
    cases located
    obtain ⟨is_folder, rfl⟩ := folder_eq_ok_iff.1 found
    exact ⟨nonempty, Nat.not_lt.1 short, followed, is_folder, rfl⟩
  · rintro ⟨nonempty, short, followed, is_folder, rfl⟩
    rw [locateEntry, if_neg nonempty, if_neg (Nat.not_lt.2 short)]
    simp only [followed, folder_eq_ok_iff.2 ⟨is_folder, rfl⟩]

theorem writable_eq_ok_iff {target : Location} :
    files.writable path = .ok target ↔
      ∃ place name, files.LeadsTo path place name ∧ target = place.child name := by
  constructor
  · intro writes
    rw [writable] at writes
    split at writes
    · cases writes
    · cases writes
    rename_i place name located
    obtain ⟨nonempty, short, followed, is_folder, name_eq⟩ := locateEntry_eq_ok_iff.1 located
    obtain ⟨last_eq, is_name⟩ := Option.filter_eq_some_iff.1 name_eq.symm
    split at writes
    · cases writes
    split at writes
    · cases writes
    split at writes
    · cases writes
    rename_i closed name_short vacant
    cases writes
    exact ⟨place, name, ⟨nonempty, short, followed, is_folder, last_eq, is_name,
      Bool.eq_false_iff.2 closed, Bool.eq_false_iff.2 name_short, vacant⟩, rfl⟩
  · rintro ⟨place, name, leads, rfl⟩
    have located : files.locateEntry path = .ok (place, some name) := by
      refine locateEntry_eq_ok_iff.2
        ⟨leads.nonempty, leads.short, leads.followed, leads.is_folder, ?_⟩
      exact (Option.filter_eq_some_iff.2 ⟨leads.last_eq, leads.is_name⟩).symm
    simp [writable, located, leads.closed, leads.name_short, leads.vacant]

theorem SameFolders.leadsTo (same : files.SameFolders files') {name : String}
    (leads : files.LeadsTo path place name) : files'.LeadsTo path place name :=
  { leads with
    followed := same.followAll_of_ok leads.followed
    is_folder := (same _).1 leads.is_folder
    vacant := fun is_folder => leads.vacant ((same _).2 is_folder) }

/-- Reading follows a path to the location to which it can be written. -/
theorem LeadsTo.locate_eq {name : String} (leads : files.LeadsTo path place name) :
    files.locate path = .ok (place.child name) := by
  have pieces_eq : Path.pieces path = (Path.trimmed path).dropLast ++ [name] := by
    rw [← Path.trimmed_eq_pieces leads.nonempty leads.closed]
    exact (List.dropLast_append_getLast? name leads.last_eq).symm
  rw [locate, if_neg leads.nonempty, if_neg (Nat.not_lt.2 leads.short), pieces_eq,
    followAll_append leads.followed, followAll, follow,
    folder_eq_ok_iff.2 ⟨leads.is_folder, rfl⟩]
  have not_above : name ≠ ".." := by
    rintro rfl
    exact absurd leads.is_name (by decide)
  simp [not_above, leads.is_name, leads.name_short, followAll]

/-! ## Writing -/

/-- The location to which a path can be written, if it can. -/
def target? (files : Files) (path : String) : Option Location :=
  (checked path (files.writable path)).toOption

theorem checked_eq_ok_iff {α : Type} {result : Except FileFault α} {value : α} :
    checked path result = .ok value ↔ Char.ofNat 0 ∉ path.toList ∧ result = .ok value := by
  rw [checked]
  split
  · rename_i has_zero
    simp_all
  · rename_i clean
    cases result with
    | error fault =>
        change Except.error _ = Except.ok value ↔ _
        simp
    | ok other =>
        change Except.ok other = Except.ok value ↔ _
        simp_all

theorem target?_eq_some_iff {target : Location} :
    files.target? path = some target ↔
      Char.ofNat 0 ∉ path.toList ∧ files.writable path = .ok target := by
  rw [← checked_eq_ok_iff, target?]
  cases checked path (files.writable path) with
  | error failure =>
      change none = some target ↔ _
      simp
  | ok place =>
      change some place = some target ↔ _
      simp

theorem write_eq_ok_iff {content : Content} :
    files.write path content = .ok files' ↔
      ∃ target, files.target? path = some target ∧ files' = files.put target (.file content) := by
  simp only [write, checked_eq_ok_iff, target?_eq_some_iff]
  cases files.writable path with
  | error fault => simp [Except.map]
  | ok place => simp [Except.map, eq_comm]

section Target

variable {target : Location} (leads : files.target? path = some target)
include leads

theorem exists_leadsTo : ∃ place name, files.LeadsTo path place name ∧ target = place.child name :=
  writable_eq_ok_iff.1 (target?_eq_some_iff.1 leads).2

theorem inner_of_target? : target.parts ≠ [] := by
  obtain ⟨place, name, -, rfl⟩ := exists_leadsTo leads
  simp [Location.child]

theorem sameFolders_of_target? (content : Content) :
    files.SameFolders (files.put target (.file content)) := by
  obtain ⟨place, name, leads_to, rfl⟩ := exists_leadsTo leads
  exact sameFolders_put (inner_of_target? leads) leads_to.vacant content

theorem write_of_target? (content : Content) :
    files.write path content = .ok (files.put target (.file content)) :=
  write_eq_ok_iff.2 ⟨target, leads, rfl⟩

/-- What is at the location a path leads to is what is read. -/
theorem read_of_target? {content : Content} (here : files.node? target = some (.file content)) :
    files.read path = .ok content := by
  obtain ⟨place, name, leads_to, rfl⟩ := exists_leadsTo leads
  rw [read, checked_eq_ok_iff]
  refine ⟨(target?_eq_some_iff.1 leads).1, ?_⟩
  simp only [leads_to.locate_eq, here]

end Target

theorem SameFolders.target?_eq (same : files.SameFolders files') (path : String) :
    files'.target? path = files.target? path := by
  refine Option.ext fun target => ?_
  simp only [target?_eq_some_iff, writable_eq_ok_iff]
  exact and_congr_right fun _ => exists₂_congr fun place name =>
    and_congr_left fun _ => ⟨same.symm.leadsTo, same.leadsTo⟩

/-- Two names without a slash lead to different locations if they differ. -/
theorem name_eq_of_target?_eq {front name name' : String} {target : Location} (front_ne : front ≠ "")
    (name_ne : name ≠ "") (name_ne' : name' ≠ "") (plain : '/' ∉ name.toList)
    (plain' : '/' ∉ name'.toList) (leads : files.target? (front ++ name) = some target)
    (leads' : files.target? (front ++ name') = some target) : name = name' := by
  obtain ⟨before, last, trimmed_eq⟩ := Path.exists_trimmed_append front
  obtain ⟨place, part, leads_to, target_eq⟩ := exists_leadsTo leads
  obtain ⟨place', part', leads_to', target_eq'⟩ := exists_leadsTo leads'
  have followed := leads_to.followed
  have followed' := leads_to'.followed
  have part_eq := leads_to.last_eq
  have part_eq' := leads_to'.last_eq
  rw [trimmed_eq name plain name_ne, Path.start_append front_ne, List.dropLast_concat] at followed
  rw [trimmed_eq name' plain' name_ne', Path.start_append front_ne, List.dropLast_concat,
    followed] at followed'
  rw [trimmed_eq name plain name_ne, List.getLast?_concat] at part_eq
  rw [trimmed_eq name' plain' name_ne', List.getLast?_concat] at part_eq'
  cases followed'
  cases part_eq
  cases part_eq'
  rw [target_eq] at target_eq'
  simpa [Location.child] using target_eq'

end Files
end EvmFlow
