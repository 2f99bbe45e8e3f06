import Critique.Files.Tree
import Mathlib.Data.List.Forall2

/-!
# Trees in another order

The order in which a folder lists its entries is an accident. `Tree.Reordered` relates trees that
differ in it alone: what stands at a path is then the same but for such accidents, a file is read
alike, and a walk through a folder comes by the same files.
-/

namespace Critique.Tree

/-- The same tree, but for the order of the entries in its folders. Entries of one name keep their
places: a file system has no two of them, and the first would be the one that is found. -/
inductive Reordered : Tree → Tree → Prop
  | file (content) : Reordered (.file content) (.file content)
  | nil : Reordered (.folder []) (.folder [])
  | cons {tree other entries others} (name) : Reordered tree other →
      Reordered (.folder entries) (.folder others) →
      Reordered (.folder ((name, tree) :: entries)) (.folder ((name, other) :: others))
  | swap {name key tree other} (entries) : name ≠ key →
      Reordered (.folder ((name, tree) :: (key, other) :: entries))
        (.folder ((key, other) :: (name, tree) :: entries))
  | trans {tree middle other} : Reordered tree middle → Reordered middle other →
      Reordered tree other

/-- What following a path comes to in two such trees. -/
inductive Alike : Except AccessFault Tree → Except AccessFault Tree → Prop
  | ok {tree other} : Reordered tree other → Alike (.ok tree) (.ok other)
  | error (fault) : Alike (.error fault) (.error fault)

variable {tree other : Tree} {folder path : Text}

namespace Reordered

mutual

theorem refl : (tree : Tree) → Reordered tree tree
  | .file content => .file content
  | .folder entries => refl_folder entries

theorem refl_folder : (entries : List (Text × Tree)) → Reordered (.folder entries) (.folder entries)
  | [] => .nil
  | (name, tree) :: entries => .cons name (refl tree) (refl_folder entries)

end

/-- With `refl` and `trans`, an equivalence. -/
theorem symm (h : Reordered tree other) : Reordered other tree := by
  induction h with
  | file content => exact .file content
  | nil => exact .nil
  | cons name _ _ iht ihe => exact .cons name iht ihe
  | swap entries hne => exact .swap entries hne.symm
  | trans _ _ ihl ihr => exact .trans ihr ihl

/-- Entries of different names may stand in any order. -/
theorem of_perm {entries others : List (Text × Tree)} (h : entries.Perm others)
    (hn : (entries.map Prod.fst).Nodup) : Reordered (.folder entries) (.folder others) := by
  induction h with
  | nil => exact .nil
  | cons entry _ ih => exact .cons entry.1 (refl entry.2) (ih (List.nodup_cons.mp hn).2)
  | swap a b entries =>
    refine .swap entries fun he => ?_
    simp [he] at hn
  | trans hl _ ihl ihr => exact .trans (ihl hn) (ihr ((hl.map _).nodup_iff.mp hn))

-- ---------------------------------------------------------------------------
-- What stands at a path
-- ---------------------------------------------------------------------------

/-- A file stays that file, and a folder a folder. -/
theorem shape (h : Reordered tree other) :
    (∃ content, tree = .file content ∧ other = .file content) ∨
      ∃ entries others, tree = .folder entries ∧ other = .folder others := by
  induction h with
  | file content => exact .inl ⟨content, rfl, rfl⟩
  | nil | cons | swap => exact .inr ⟨_, _, rfl, rfl⟩
  | trans _ _ ihl ihr =>
    rcases ihl with ⟨content, rfl, rfl⟩ | ⟨entries, middle, rfl, rfl⟩
    · exact ihr
    · rcases ihr with ⟨_, hm, _⟩ | ⟨_, others, _, rfl⟩
      · cases hm
      · exact .inr ⟨entries, others, rfl, rfl⟩

theorem option_refl (found : Option Tree) : Option.Rel Reordered found found := by
  cases found with
  | none => exact .none
  | some tree => exact .some (refl tree)

theorem option_trans {a b c : Option Tree} (h : Option.Rel Reordered a b)
    (h' : Option.Rel Reordered b c) : Option.Rel Reordered a c := by
  cases h with
  | none => exact h'
  | some h =>
    cases h' with
    | some h' => exact .some (h.trans h')

theorem lookup (h : Reordered tree other) (name : Text) :
    Option.Rel Reordered (tree.entries.lookup name) (other.entries.lookup name) := by
  induction h with
  | file | nil => exact .none
  | cons key ht _ _ ihe =>
    simp only [Tree.entries, List.lookup_cons] at ihe ⊢
    cases name == key with
    | true => exact .some ht
    | false => exact ihe
  | @swap a b _ _ entries hne =>
    simp only [Tree.entries, List.lookup_cons]
    -- The name cannot be that of both.
    cases ha : name == a with
    | false => exact option_refl _
    | true =>
      have hb : (name == b) = false := by
        rw [beq_iff_eq.mp ha]
        exact beq_false_of_ne hne
      rw [hb]
      exact option_refl _
  | trans _ _ ihl ihr => exact option_trans ihl ihr

/-- Each step of a path leads to the same place. -/
theorem follow {above aboves : List Tree} (habove : List.Forall₂ Reordered above aboves)
    (h : Reordered tree other) (pieces : List Text) :
    Alike (Tree.follow above tree pieces) (Tree.follow aboves other pieces) := by
  induction pieces generalizing above aboves tree other with
  | nil => exact .ok h
  | cons piece rest ih =>
    rcases h.shape with ⟨content, rfl, rfl⟩ | ⟨entries, others, rfl, rfl⟩
    · exact .error _
    · simp only [Tree.follow]
      split
      · exact ih habove h
      · split
        · cases habove with
          | nil => exact ih .nil h
          | cons hup habove => exact ih habove hup
        · split
          · exact .error _
          · have hl : Option.Rel Reordered (entries.lookup piece) (others.lookup piece) :=
              h.lookup piece
            generalize entries.lookup piece = found at hl ⊢
            generalize others.lookup piece = found' at hl ⊢
            cases hl with
            | some hin => exact ih (.cons h habove) hin
            | none => exact .error _

theorem at? (h : Reordered tree other) (folder path : Text) :
    Alike (tree.at? folder path) (other.at? folder path) := by
  unfold Tree.at?
  split
  · exact .error _
  · split
    · exact .error _
    · split
      · exact .error _
      · exact follow .nil h _

/-- The same fault, the same file, or a folder with its entries in another order. -/
theorem at?_cases (h : Reordered tree other) (folder path : Text) :
    (∃ fault, tree.at? folder path = .error fault ∧ other.at? folder path = .error fault) ∨
    (∃ content, tree.at? folder path = .ok (.file content) ∧
      other.at? folder path = .ok (.file content)) ∨
    ∃ entries others, tree.at? folder path = .ok (.folder entries) ∧
      other.at? folder path = .ok (.folder others) ∧
      Reordered (.folder entries) (.folder others) := by
  have ha := h.at? folder path
  generalize tree.at? folder path = found at ha ⊢
  generalize other.at? folder path = found' at ha ⊢
  cases ha with
  | error fault => exact .inl ⟨fault, rfl, rfl⟩
  | ok ht =>
    rcases ht.shape with ⟨content, rfl, rfl⟩ | ⟨entries, others, rfl, rfl⟩
    · exact .inr (.inl ⟨content, rfl, rfl⟩)
    · exact .inr (.inr ⟨entries, others, rfl, rfl, ht⟩)

theorem read_eq (h : Reordered tree other) : other.read = tree.read := by
  funext folder path
  rcases h.at?_cases folder path with ⟨_, ha, hb⟩ | ⟨_, ha, hb⟩ | ⟨_, _, ha, hb, _⟩
  all_goals simp only [read, ha, hb]

theorem isFile_eq (h : Reordered tree other) : other.isFile = tree.isFile := by
  funext folder path
  rcases h.at?_cases folder path with ⟨_, ha, hb⟩ | ⟨_, ha, hb⟩ | ⟨_, _, ha, hb, _⟩
  all_goals simp only [isFile, ha, hb]

-- ---------------------------------------------------------------------------
-- Walks
-- ---------------------------------------------------------------------------

theorem filesAt_perm (h : Reordered tree other) (path : Text) :
    (filesAt path other).Perm (filesAt path tree) := by
  induction h generalizing path with
  | file | nil => exact .refl _
  | cons name _ _ iht ihe =>
    simp only [filesAt, filesIn] at ihe ⊢
    exact (iht _).append (ihe path)
  | swap entries _ =>
    simp only [filesAt, filesIn, ← List.append_assoc]
    exact List.perm_append_comm.append_right _
  | trans _ _ ihl ihr => exact (ihr path).trans (ihl path)

end Reordered

end Critique.Tree
