import CNShell.Library.Sorting
import CNShell.Library.Text
import Mathlib.Data.String.Basic

/-! The order in which the entries of a remote directory are listed. -/

namespace CNShell

namespace Sftp

/-- What an entry of a remote directory is. -/
inductive RemoteKind
  | directory
  | symlink
  | file
  | other
  deriving DecidableEq, Repr

/-- An entry of a remote directory. -/
structure RemoteFile where
  name : String
  path : String
  kind : RemoteKind
  size : Nat
  modifiedAt : Option Nat
  permissions : String
  owner : Option Nat
  group : Option Nat
  deriving DecidableEq, Repr

section Order

-- The lower case of a name; only names in one case are compared, so any mapping of names will do.
variable (toLowercase : String → String)

def compareEntries (a b : RemoteFile) : Ordering :=
  match a.kind, b.kind with
  | .directory, .file => .lt
  | .file, .directory => .gt
  | _, _ => compare (toLowercase a.name) (toLowercase b.name)

/-- An entry does not come after another one. -/
def notAfter (a b : RemoteFile) : Bool := compareEntries toLowercase a b ≠ .gt

/-- The entries that are shown of a directory, in order. -/
def list (showHidden : Bool) (entries : List RemoteFile) : List RemoteFile :=
  (entries.filter fun entry => showHidden || entry.name.toList.head? ≠ some '.').mergeSort
    (notAfter toLowercase)

/-- The comparison is a total order of some entries, up to entries whose names differ in case only. -/
structure Lawful (entries : List RemoteFile) : Prop where
  refl : ∀ a ∈ entries, compareEntries toLowercase a a = .eq
  swap : ∀ a ∈ entries, ∀ b ∈ entries, compareEntries toLowercase b a = (compareEntries toLowercase a b).swap
  antisymm : ∀ a ∈ entries, ∀ b ∈ entries, notAfter toLowercase a b = true →
    notAfter toLowercase b a = true → toLowercase a.name = toLowercase b.name
  orders : Orders (notAfter toLowercase) entries

/-- A listing is sorted, and another order of the server changes it by such entries only. -/
structure Settled (entries : List RemoteFile) : Prop where
  sorted : (list toLowercase true entries).Pairwise fun a b => notAfter toLowercase a b = true
  independent : ∀ order : List RemoteFile, order.Perm entries →
    List.Forall₂ (fun a b => compareEntries toLowercase a b = .eq)
      (list toLowercase true order) (list toLowercase true entries)

/-- A directory, a file and something else, of which each comes before the next by its name or its kind. -/
def Cyclic (directory file another : RemoteFile) : Prop :=
  directory.kind = .directory ∧ file.kind = .file ∧ another.kind ≠ .directory ∧ another.kind ≠ .file ∧
    toLowercase file.name ≤ toLowercase another.name ∧
    toLowercase another.name ≤ toLowercase directory.name

end Order

section Laws

variable {toLowercase : String → String} {a b c : RemoteFile} {entries : List RemoteFile}

theorem notAfter_iff : notAfter toLowercase a b = true ↔
    (a.kind = .directory ∧ b.kind = .file) ∨
      (¬(a.kind = .file ∧ b.kind = .directory) ∧ toLowercase a.name ≤ toLowercase b.name) := by
  have names : compare (toLowercase a.name) (toLowercase b.name) ≠ .gt ↔
      toLowercase a.name ≤ toLowercase b.name := compare_le_iff_le
  unfold notAfter compareEntries
  split <;> simp_all

theorem compareEntries_swap (a b : RemoteFile) :
    compareEntries toLowercase b a = (compareEntries toLowercase a b).swap := by
  have names : compare (toLowercase b.name) (toLowercase a.name) =
      (compare (toLowercase a.name) (toLowercase b.name)).swap := Std.OrientedCmp.eq_swap
  unfold compareEntries
  rcases a.kind with _ | _ | _ | _ <;> rcases b.kind with _ | _ | _ | _ <;> first | rfl | exact names

theorem compareEntries_eq (first : notAfter toLowercase a b = true) (second : notAfter toLowercase b a = true) :
    compareEntries toLowercase a b = .eq := by
  have swapped := @compareEntries_swap toLowercase a b
  simp only [notAfter, ne_eq, decide_eq_true_eq] at first second
  cases compared : compareEntries toLowercase a b with
  | lt =>
    rw [compared] at swapped
    exact absurd swapped second
  | eq => rfl
  | gt => exact absurd compared first

theorem orders_of_acyclic (acyclic : ∀ directory ∈ entries, ∀ file ∈ entries, ∀ another ∈ entries,
    ¬Cyclic toLowercase directory file another) : Orders (notAfter toLowercase) entries where
  total := by
    intro a _ b _
    simp only [notAfter_iff]
    rcases le_total (toLowercase a.name) (toLowercase b.name) with less | more
    · by_cases swapped : a.kind = .file ∧ b.kind = .directory
      · exact .inr (.inl ⟨swapped.2, swapped.1⟩)
      · exact .inl (.inr ⟨swapped, less⟩)
    · by_cases swapped : b.kind = .file ∧ a.kind = .directory
      · exact .inl (.inl ⟨swapped.2, swapped.1⟩)
      · exact .inr (.inr ⟨swapped, more⟩)
  trans := by
    intro a left b middle c right first second
    rw [notAfter_iff] at first second ⊢
    -- Each of the two steps is one by kind or one by name.
    rcases first with ⟨directory, file⟩ | ⟨apart, less⟩ <;>
      rcases second with ⟨directory', file'⟩ | ⟨apart', less'⟩
    · rw [file] at directory'
      cases directory'
    · have third : c.kind ≠ .directory := fun same => apart' ⟨file, same⟩
      by_cases last : c.kind = .file
      · exact .inl ⟨directory, last⟩
      · refine .inr ⟨fun both => by simp [directory] at both, ?_⟩
        by_contra greater
        exact acyclic a left b middle c right
          ⟨directory, file, third, last, less', (not_le.mp greater).le⟩
    · have unlike : a.kind ≠ .file := fun same => apart ⟨same, directory'⟩
      by_cases early : a.kind = .directory
      · exact .inl ⟨early, file'⟩
      · refine .inr ⟨fun both => unlike both.1, ?_⟩
        by_contra greater
        exact acyclic b middle c right a left
          ⟨directory', file', early, unlike, (not_le.mp greater).le, less⟩
    · refine .inr ⟨fun both => ?_, less.trans less'⟩
      exact acyclic c right a left b middle
        ⟨both.2, both.1, fun same => apart ⟨both.1, same⟩, fun same => apart' ⟨same, both.2⟩, less, less'⟩

theorem lawful_of_orders (orders : Orders (notAfter toLowercase) entries) : Lawful toLowercase entries where
  refl := by
    intro a member
    have self := (orders.total a member a member).elim id id
    exact compareEntries_eq self self
  swap := fun a _ b _ => compareEntries_swap a b
  antisymm := by
    intro a _ b _ first second
    rw [notAfter_iff] at first second
    rcases first with ⟨directory, file⟩ | ⟨apart, less⟩
    · -- A directory that comes before a file is not reached by it.
      simp [directory, file] at second
    · rcases second with ⟨directory, file⟩ | ⟨-, more⟩
      · exact absurd ⟨file, directory⟩ apart
      · exact le_antisymm less more
  orders := orders

end Laws

section Listing

variable {toLowercase : String → String} {entries : List RemoteFile}

theorem list_all (entries : List RemoteFile) :
    list toLowercase true entries = entries.mergeSort (notAfter toLowercase) := by
  simp [list]

theorem settled_of_orders (orders : Orders (notAfter toLowercase) entries) : Settled toLowercase entries where
  sorted := by
    rw [list_all]
    exact orders.pairwise_mergeSort
  independent := by
    intro order same
    have again : Orders (notAfter toLowercase) order :=
      ⟨fun a left b right => orders.total a (same.mem_iff.mp left) b (same.mem_iff.mp right),
        fun a left b middle c right => orders.trans a (same.mem_iff.mp left) b (same.mem_iff.mp middle)
          c (same.mem_iff.mp right)⟩
    rw [list_all, list_all]
    refine (orders.forall₂_of_perm ((List.mergeSort_perm ..).trans same) (List.mergeSort_perm ..)
      again.pairwise_mergeSort orders.pairwise_mergeSort).imp fun a b both => ?_
    exact compareEntries_eq both.1 both.2

/--
The comparison is a total order of some entries, and their listing settled, exactly without a cycle.

A cycle is a directory, a file and an entry that is neither, named between the file and the directory.
-/
theorem listing_lawful_iff (toLowercase : String → String) (entries : List RemoteFile) :
    (Lawful toLowercase entries ∧ Settled toLowercase entries) ↔
      ∀ directory ∈ entries, ∀ file ∈ entries, ∀ another ∈ entries, ¬Cyclic toLowercase directory file another := by
  constructor
  · rintro ⟨lawful, -⟩ directory first file second another third
    rintro ⟨isDirectory, isFile, notDirectory, notFile, less, less'⟩
    have early : notAfter toLowercase file another = true :=
      notAfter_iff.mpr (.inr ⟨fun both => notDirectory both.2, less⟩)
    have late : notAfter toLowercase another directory = true :=
      notAfter_iff.mpr (.inr ⟨fun both => notFile both.1, less'⟩)
    -- By its names the file would come before the directory.
    have whole := lawful.orders.trans file second another third directory first early late
    simp [notAfter, compareEntries, isDirectory, isFile] at whole
  · intro acyclic
    have orders := orders_of_acyclic acyclic
    exact ⟨lawful_of_orders orders, settled_of_orders orders⟩

end Listing

namespace Demo

def entry (kind : RemoteKind) (name : String) : RemoteFile where
  name := name
  path := "/" ++ name
  kind := kind
  size := 0
  modifiedAt := none
  permissions := "rwxr-xr-x"
  owner := none
  group := none

/-- The directory `z` comes before the file `a`, the file before the link `m`, and the link before the directory. -/
theorem listing_cyclic : ¬∀ a b c : RemoteFile, Lawful toAsciiLowercase [a, b, c] := by
  intro lawful
  have orders := (lawful (entry .directory "z") (entry .file "a") (entry .symlink "m")).orders
  have whole := orders.trans (entry .file "a") (by decide) (entry .symlink "m") (by decide)
    (entry .directory "z") (by decide) (by decide) (by decide)
  exact absurd whole (by decide)

end Demo

end Sftp

end CNShell
