import Mathlib.Logic.Basic

/-!
# Unix paths as texts

A path is its text, and its components are what a file system walks along.  Pushing a
relative text appends its components; pushing an absolute one starts over.
-/

namespace UnixPath

inductive Component where
  | rootDir
  | curDir
  | parentDir
  | normal (name : List Char)
  deriving DecidableEq, Repr

/-- A name that leads one level down. -/
def NormalName (name : List Char) : Prop :=
  name ≠ [] ∧ name ≠ ['.'] ∧ name ≠ ['.', '.'] ∧ '/' ∉ name

/-- What stands between two separators; nothing and a dot are skipped. -/
def part (text : List Char) : Option Component :=
  if text = [] ∨ text = ['.'] then none
  else if text = ['.', '.'] then some .parentDir
  else some (.normal text)

/-- The component before the first name: the root, or a leading dot. -/
def leading (path : List Char) : List Component :=
  if path.head? = some '/' then [.rootDir]
  else if (path.splitOn '/').head? = some ['.'] then [.curDir]
  else []

/-- `Path::components`. -/
def components (path : List Char) : List Component :=
  leading path ++ (path.splitOn '/').filterMap part

/-- `PathBuf::push`. -/
def push (path text : List Char) : List Char :=
  if text.head? = some '/' then text
  else if path = [] ∨ path.getLast? = some '/' then path ++ text
  else path ++ '/' :: text

example : components (push "/data".toList "../x".toList) =
    [.rootDir, .normal "data".toList, .parentDir, .normal "x".toList] := by decide

theorem NormalName.part_eq {name : List Char} (normal : NormalName name) :
    part name = some (.normal name) := by
  obtain ⟨nonempty, notDot, notParent, -⟩ := normal
  rw [part, if_neg (not_or.mpr ⟨nonempty, notDot⟩), if_neg notParent]

theorem NormalName.leading_eq {name : List Char} (normal : NormalName name) :
    leading name = [] := by
  obtain ⟨-, notDot, -, plain⟩ := normal
  have notRoot : name.head? ≠ some '/' := fun head => plain (List.mem_of_mem_head? head)
  rw [leading, if_neg notRoot, List.splitOn_eq_singleton plain, if_neg]
  simpa using notDot

/-- A normal name is its only component. -/
theorem NormalName.components_eq {name : List Char} (normal : NormalName name) :
    components name = [.normal name] := by
  rw [components, normal.leading_eq, List.splitOn_eq_singleton normal.2.2.2]
  simp [normal.part_eq]

/-- The beginning of a path decides what leads it. -/
theorem leading_append {path : List Char} (nonempty : path ≠ []) (rest : List Char) :
    leading (path ++ '/' :: rest) = leading path := by
  have first : (path ++ '/' :: rest).head? = path.head? := by
    cases path with
    | nil => exact absurd rfl nonempty
    | cons c path => rfl
  have firstPart : ((path ++ '/' :: rest).splitOn '/').head? = (path.splitOn '/').head? := by
    rw [List.splitOn_append_cons_self]
    cases parts : path.splitOn '/' with
    | nil => exact absurd parts (List.splitOn_ne_nil _ _)
    | cons part parts => rfl
  rw [leading, leading, first, firstPart]

/-- A separator cuts a path in two. -/
theorem components_append {path : List Char} (nonempty : path ≠ []) (rest : List Char) :
    components (path ++ '/' :: rest) = components path ++ (rest.splitOn '/').filterMap part := by
  rw [components, components, leading_append nonempty, List.splitOn_append_cons_self,
    List.filterMap_append, List.append_assoc]

/-- **Pushing a text that nothing leads appends its components.** -/
theorem components_push (path : List Char) {text : List Char} (relative : leading text = []) :
    components (push path text) = components path ++ components text := by
  have notRoot : text.head? ≠ some '/' := by
    intro root
    rw [leading, if_pos root] at relative
    cases relative
  have parts : components text = (text.splitOn '/').filterMap part := by
    rw [components, relative, List.nil_append]
  rw [push, if_neg notRoot, parts]
  split
  case isFalse open' =>
      exact components_append (not_or.mp open').1 text
  case isTrue closed =>
      rcases closed with rfl | ended
      · rw [List.nil_append, parts]
        rfl
      · obtain ⟨front, rfl⟩ := List.getLast?_eq_some_iff.mp ended
        rw [List.append_assoc, List.singleton_append]
        by_cases empty : front = []
        case pos =>
            subst empty
            have split := List.splitOn_append_cons_self [] text (a := '/')
            rw [components, split]
            rfl
        case neg =>
            have last : ([].splitOn '/').filterMap part = [] := rfl
            rw [components_append empty, components_append empty, last, List.append_nil]

end UnixPath
