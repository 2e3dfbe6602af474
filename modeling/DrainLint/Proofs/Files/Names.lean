import DrainLint.Files.Tree
import Mathlib.Data.List.Basic

/-! # Names of files

The text of a name says which name it is, and in a tree that a disk can hold the names that are
listed for its files lead to them.

- `FileName.Proper`: names that can be read back;
- `FileName.ofText_text`: a proper name is read back from its text;
- `FileTree.Proper`: trees that a disk can hold;
- `FileTree.walk_of_mem_files`: the names that lead to a file of such a tree.
-/

namespace DrainLint

/-! ## Names and texts -/

namespace Text

theorem splitOn_eq (separator : Char) (cs : List Char) :
    splitOn separator cs = List.splitOn separator cs := by
  induction cs with
  | nil => rfl
  | cons c cs inductionHypothesis =>
    rw [splitOn, inductionHypothesis, List.splitOn_cons_eq_if_modifyHead]
    cases parted : List.splitOn separator cs with
    | nil => exact absurd parted (List.splitOn_ne_nil separator cs)
    | cons part parts => simp

/-- No part holds the separator. -/
theorem separator_notMem_of_mem_splitOn {separator : Char} {part : List Char} {cs : List Char}
    (member : part ∈ splitOn separator cs) : separator ∉ part := by
  induction cs generalizing part with
  | nil =>
    rw [splitOn, List.mem_singleton] at member
    simp [member]
  | cons c cs inductionHypothesis =>
    rw [splitOn] at member
    split at member
    · rcases List.mem_cons.mp member with rfl | member
      · simp
      · exact inductionHypothesis member
    · rename_i different
      cases parted : splitOn separator cs with
      | nil =>
        rw [parted] at member
        simp only [List.mem_singleton] at member
        simpa [member] using Ne.symm different
      | cons first parts =>
        rw [parted] at member inductionHypothesis
        rcases List.mem_cons.mp member with rfl | member
        · simpa [Ne.symm different] using inductionHypothesis List.mem_cons_self
        · exact inductionHypothesis (List.mem_cons_of_mem _ member)

end Text

namespace FileName

/-- What stands between slashes and says something about the place. -/
structure IsPart (part : String) : Prop where
  nonempty : part ≠ ""
  notDot : part ≠ "."
  slashless : '/' ∉ part.toList

instance (part : String) : Decidable (IsPart part) :=
  decidable_of_iff (part ≠ "" ∧ part ≠ "." ∧ '/' ∉ part.toList)
    ⟨fun ⟨nonempty, notDot, slashless⟩ => ⟨nonempty, notDot, slashless⟩,
      fun ⟨nonempty, notDot, slashless⟩ => ⟨nonempty, notDot, slashless⟩⟩

/-- A name that can be read back from its text. -/
structure Proper (name : FileName) : Prop where
  root : name.root = "" ∨ name.root = "/" ∨ name.root = "//"
  parts : ∀ part ∈ name.parts, IsPart part

theorem proper_ofText (text : String) : (ofText text).Proper where
  root := by
    unfold ofText rootOf
    split <;> simp
  parts part member := by
    unfold ofText at member
    simp only [List.mem_filter, List.mem_map, Bool.and_eq_true, bne_iff_ne] at member
    obtain ⟨⟨chars, listed, rfl⟩, nonempty, notDot⟩ := member
    refine ⟨nonempty, notDot, ?_⟩
    rw [String.toList_ofList]
    exact Text.separator_notMem_of_mem_splitOn listed

theorem Proper.extend {name : FileName} (proper : name.Proper) {parts : List String}
    (areParts : ∀ part ∈ parts, IsPart part) : (name.extend parts).Proper where
  root := proper.root
  parts part member := (List.mem_append.mp member).elim (proper.parts part) (areParts part)

/-- The characters of the parts of a name, with slashes between them. -/
def joined (parts : List String) : List Char := ['/'].intercalate (parts.map String.toList)

variable {parts : List String}

/-- The parts come back when their text is split; no parts come back as an empty one. -/
theorem splitOn_joined (areParts : ∀ part ∈ parts, IsPart part) :
    (((Text.splitOn '/' (joined parts)).map String.ofList).filter fun part =>
      part != "" && part != ".") = parts := by
  have kept : (parts.filter fun part => part != "" && part != ".") = parts :=
    List.filter_eq_self.mpr fun part member => by
      simp [(areParts part member).nonempty, (areParts part member).notDot]
  cases parts with
  | nil => rfl
  | cons first rest =>
    have slashless : ∀ chars ∈ (first :: rest).map String.toList, '/' ∉ chars := by
      intro chars member
      obtain ⟨part, listed, rfl⟩ := List.mem_map.mp member
      exact (areParts part listed).slashless
    rw [Text.splitOn_eq, joined, List.splitOn_intercalate '/' slashless (by simp), List.map_map]
    have back : String.ofList ∘ String.toList = id := funext fun _ => String.ofList_toList
    rw [back, List.map_id, kept]

theorem takeWhile_joined (areParts : ∀ part ∈ parts, IsPart part) :
    (joined parts).takeWhile (· == '/') = [] := by
  cases parts with
  | nil => rfl
  | cons first rest =>
    obtain ⟨nonempty, _, slashless⟩ := areParts first List.mem_cons_self
    cases chars : first.toList with
    | nil => exact absurd (String.toList_eq_nil_iff.mp chars) nonempty
    | cons c cs =>
      have notSlash : c ≠ '/' := fun same => slashless (by simp [chars, same])
      cases rest <;> simp [joined, chars, notSlash, List.intercalate_cons_cons]

/-- A proper name is read back from its text. -/
theorem ofText_text {name : FileName} (proper : name.Proper) : ofText name.text = name := by
  obtain ⟨root, parts⟩ := name
  obtain ⟨isRoot, areParts⟩ := proper
  have split := splitOn_joined areParts
  have start := takeWhile_joined areParts
  simp only at isRoot areParts
  -- The name of the place itself is written as a dot; another one is its root and its parts.
  by_cases nameless : root = "" ∧ parts = []
  · obtain ⟨rfl, rfl⟩ := nameless
    rfl
  · have written : (text ⟨root, parts⟩).toList = root.toList ++ joined parts := by
      have named : (root.isEmpty && parts.isEmpty) = false := by
        simpa [String.isEmpty_iff, List.isEmpty_iff] using nameless
      simp [text, named, joined, String.toList_intercalate]
    unfold ofText
    rw [written]
    rcases isRoot with rfl | rfl | rfl
    · simp [rootOf, start, split]
    · simp [rootOf, start, split, Text.splitOn]
    · simp [rootOf, start, split, Text.splitOn]

theorem text_injective {name other : FileName} (proper : name.Proper) (properOther : other.Proper)
    (same : name.text = other.text) : name = other := by
  rw [← ofText_text proper, same, ofText_text properOther]

end FileName

/-! ## Names in a tree -/

/-- A tree that a disk can hold: the names in a directory differ from each other, and each is one
that a step can be taken by. -/
inductive FileTree.Proper : FileTree → Prop where
  | file {bytes : List Nat} : Proper (.file bytes)
  | locked : Proper .locked
  | directory {entries : List (String × FileTree)} (distinct : (entries.map Prod.fst).Nodup)
      (parts : ∀ entry ∈ entries, FileName.IsPart entry.1)
      (down : ∀ entry ∈ entries, entry.1 ≠ ".." ∧ entry.1.utf8ByteSize ≤ maxPartBytes)
      (below : ∀ entry ∈ entries, Proper entry.2) : Proper (.directory entries)

namespace FileTree

theorem mem_entryFiles {entries : List (String × FileTree)} {names : List String}
    {leaf : FileTree} (member : (names, leaf) ∈ entryFiles entries) :
    ∃ entry ∈ entries, ∃ rest, names = entry.1 :: rest ∧ (rest, leaf) ∈ entry.2.files := by
  induction entries with
  | nil => cases member
  | cons entry entries inductionHypothesis =>
    obtain ⟨name, node⟩ := entry
    rw [entryFiles, List.mem_append, List.mem_map] at member
    rcases member with ⟨⟨rest, below⟩, listed, same⟩ | member
    · cases same
      exact ⟨(name, node), List.mem_cons_self, rest, rfl, listed⟩
    · obtain ⟨entry, listed, found⟩ := inductionHypothesis member
      exact ⟨entry, List.mem_cons_of_mem _ listed, found⟩

/-- The names of a file of a proper tree lead to it. -/
theorem walk_of_mem_files {tree : FileTree} (proper : tree.Proper) {names : List String}
    {leaf : FileTree} (member : (names, leaf) ∈ tree.files) (place : Place)
    (here : place.here = tree) :
    (∃ found, place.walk names = .ok found ∧ found.here = leaf) ∧
      ∀ part ∈ names, FileName.IsPart part := by
  -- The induction is on the tree; the place goes down with it.
  induction proper generalizing names place with
  | file | locked =>
    cases List.mem_singleton.mp member
    exact ⟨⟨place, rfl, here⟩, by simp⟩
  | @directory entries distinct parts down below inductionHypothesis =>
    rw [files] at member
    obtain ⟨⟨name, node⟩, listed, rest, rfl, leads⟩ := mem_entryFiles member
    let next : Place := ⟨node, place.here :: place.above, name :: place.names⟩
    have step : place.step name = .ok next := by
      obtain ⟨notUp, short⟩ := down _ listed
      have found : entries.lookup name = some node := lookup_of_mem distinct listed
      rw [Place.step, here]
      simp [notUp, Nat.not_lt.mpr short, found, next, here]
    obtain ⟨⟨found, walked, isLeaf⟩, areParts⟩ := inductionHypothesis _ listed leads next rfl
    refine ⟨⟨found, ?_, isLeaf⟩, ?_⟩
    · rw [Place.walk, List.foldlM_cons, step]
      exact walked
    · rintro part (_ | ⟨_, member⟩)
      · exact parts _ listed
      · exact areParts part member

end FileTree

namespace Place

/-- A place in a proper tree, with proper trees above it. -/
structure Proper (place : Place) : Prop where
  here : place.here.Proper
  above : ∀ tree ∈ place.above, tree.Proper

variable {place found : Place}

theorem Proper.step (proper : place.Proper) {name : String} (stepped : place.step name = .ok found) :
    found.Proper := by
  unfold Place.step at stepped
  split at stepped
  · cases stepped
  · cases stepped
  · rename_i entries isDirectory
    split at stepped
    · cases stepped
      unfold up
      split
      · exact proper
      · rename_i parent above isAbove
        have properAbove := proper.above
        rw [isAbove] at properAbove
        exact ⟨properAbove _ List.mem_cons_self, fun tree member =>
          properAbove tree (List.mem_cons_of_mem _ member)⟩
    · split at stepped
      · cases stepped
      · split at stepped
        · cases stepped
        · rename_i node listed
          cases stepped
          have properHere := proper.here
          rw [isDirectory] at properHere
          cases properHere with
          | directory distinct parts down below =>
            refine ⟨below _ (mem_of_lookup listed), fun tree member => ?_⟩
            rcases List.mem_cons.mp member with rfl | member
            · exact proper.here
            · exact proper.above tree member

theorem Proper.walk (proper : place.Proper) {names : List String}
    (walked : place.walk names = .ok found) : found.Proper := by
  induction names generalizing place with
  | nil =>
    cases walked
    exact proper
  | cons name names inductionHypothesis =>
    rw [Place.walk, List.foldlM_cons] at walked
    cases stepped : place.step name with
    | error fault =>
      rw [stepped] at walked
      cases walked
    | ok next =>
      rw [stepped] at walked
      exact inductionHypothesis (proper.step stepped) walked

end Place

namespace FileSystem

/-- What is found under a name, however long its text is. -/
def walkTo (system : FileSystem) (name : FileName) : Except FileFault Place :=
  Place.walk ⟨system.tree, [], []⟩
    (if name.isAbsolute then name.parts else system.current ++ name.parts)

variable {system : FileSystem} {name : FileName} {place : Place}

theorem walkTo_of_place (found : system.place name = .ok place) :
    system.walkTo name = .ok place := by
  unfold FileSystem.place at found
  split at found
  · cases found
  · exact found

theorem proper_of_walkTo (proper : system.tree.Proper) (found : system.walkTo name = .ok place) :
    place.Proper :=
  Place.Proper.walk ⟨proper, by simp⟩ found

theorem walkTo_extend (found : system.walkTo name = .ok place) (parts : List String) :
    system.walkTo (name.extend parts) = place.walk parts := by
  unfold walkTo at found ⊢
  unfold FileName.extend
  by_cases absolute : name.isAbsolute = true
  · have same : FileName.isAbsolute { name with parts := name.parts ++ parts } = true := absolute
    rw [if_pos absolute] at found
    rw [if_pos same, Place.walk_append, found]
    rfl
  · have same : ¬ FileName.isAbsolute { name with parts := name.parts ++ parts } = true := absolute
    rw [if_neg absolute] at found
    rw [if_neg same, ← List.append_assoc, Place.walk_append, found]
    rfl

end FileSystem
end DrainLint
