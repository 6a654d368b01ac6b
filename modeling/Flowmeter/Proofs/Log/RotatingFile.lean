import Flowmeter.Log.RotatingFile
import Flowmeter.Proofs.Files.Tree

/-!
# What a rotated file does with a line

A line that is handed to a log file is put at its end, once. If the file would reach its limit,
what it held has been set aside before, whole, and the line begins the file anew. No other file
gets anything: those set aside move on by one, and all others stay (`Took`).

The file and those set aside are its versions, entries of one directory with names of their own.
Moving on begins with the last of them, so each finds its new place empty or about to be dropped.

A line is put in place in two ways, and `Took` is told in these: behind what the file held, or as
the beginning of a file after the old one was set aside. The second moves several files, and the
moves are done one after the other from the last to the first. So the induction is on how many are
left to move, and what it needs is that versions are apart from each other: none of their names is
another's, and none is below another.

Names are what could go wrong here. The name of a version is that of the file with a dot and a
number behind it, and two numbers with one numeral would be one file. That they are not, and that
nobody else's file has such a name (`IsElsewhere`), is where the statement has its conditions.
-/

set_option autoImplicit false

namespace Flowmeter.Log.RotatingFile

open Flowmeter.Files Flowmeter.Files.Tree Flowmeter.Text

variable {f : RotatingFile} {tree before after : Tree} {line : String}

/-! ## Versions

All versions stand in one directory, so paths to them part at the last name and nowhere before. -/

/-- The name of a version: the file itself, and from one on those set aside. -/
def versionName (f : RotatingFile) : Nat → Name
  | 0 => f.name
  | n + 1 => f.name ++ Name.ofString ("." ++ toString (n + 1))

/-- The names of a version in the tree. -/
def version (f : RotatingFile) (n : Nat) : List Name :=
  f.directory ++ [f.versionName n]

theorem ofString_injective : Function.Injective Name.ofString := by
  intro s t h
  exact String.toList_inj.mp (List.map_injective_iff.mpr (fun _ _ => CodePoint.char.inj) h)

/-- A numeral is read back as the number that it was written for. -/
theorem toString_injective {n m : Nat} (h : toString n = toString m) : n = m := by
  rw [Nat.toString_eq_ofList_toDigits, Nat.toString_eq_ofList_toDigits, String.ofList_inj] at h
  calc n = Nat.ofDigitChars 10 (Nat.toDigits 10 n) 0 := Nat.ofDigitChars_ten_toDigits.symm
    _ = Nat.ofDigitChars 10 (Nat.toDigits 10 m) 0 := by rw [h]
    _ = m := Nat.ofDigitChars_ten_toDigits

/-- The file itself has no number behind its name, and no version has none. -/
theorem versionName_injective (f : RotatingFile) : Function.Injective f.versionName := by
  have hnumber : ∀ n : Nat, Name.ofString ("." ++ toString n) ≠ [] := by
    intro n h
    have hdot := congrArg List.length h
    simp [Name.ofString, CodePoint.ofString] at hdot
  intro n m h
  cases n with
  | zero =>
    cases m with
    | zero => rfl
    | succ m => exact absurd (List.self_eq_append_right.mp h) (hnumber (m + 1))
  | succ n =>
    cases m with
    | zero => exact absurd (List.self_eq_append_right.mp h.symm) (hnumber (n + 1))
    | succ m =>
      have hnumeral := ofString_injective (List.append_cancel_left h)
      exact toString_injective ((String.append_right_inj ".").mp hnumeral)

theorem apart_version {n m : Nat} (h : n ≠ m) (rest : List Name) :
    Apart (f.version n) (f.version m ++ rest) :=
  apart_entries (fun hname => h (f.versionName_injective hname)) f.directory rest

theorem apart_version_self {n m : Nat} (h : n ≠ m) : Apart (f.version n) (f.version m) := by
  have hapart := apart_version (f := f) h []
  rwa [List.append_nil] at hapart

/-- A version is never the top of the tree, so it can be moved. -/
theorem version_ne_nil (n : Nat) : f.version n ≠ [] := by
  simp [version]

/-- What leads to one version leads to all. -/
theorem prefix_names_of_prefix_version {names : List Name} {n : Nat}
    (h : names <+: f.version n) (hne : names ≠ f.version n) : names <+: f.names := by
  rcases List.prefix_concat_iff.mp h with heq | hdirectory
  · exact absurd heq hne
  · exact hdirectory.trans (List.prefix_append _ _)

/-! ## Moving on

The last version moves first. Its place was emptied when there was one to be dropped, and the move
of the one before then finds it free. -/

theorem shift_succ (count : Nat) (tree : Tree) : f.shift (count + 1) tree =
    f.shift count (tree.move (f.version (count + 1)) (f.version (count + 2))) :=
  rfl

/-- Whoever is apart from all versions that move sees nothing of it. -/
theorem get?_shift_of_apart {names : List Name} (count : Nat)
    (h : ∀ n, n ≠ 0 → n ≤ count + 1 → Apart (f.version n) names) (tree : Tree) :
    (f.shift count tree).get? names = tree.get? names := by
  induction count generalizing tree with
  | zero => rfl
  | succ count ih =>
    rw [shift_succ, ih fun n hn hle => h n hn (by omega),
      get?_move_of_apart (h _ (by omega) (by omega)) (h _ (by omega) (Nat.le_refl _))]

/-- Each version that is there moves on by one, with all that stands below it. -/
theorem get?_shift_of_isSome {count n : Nat} (hn : n ≠ 0) (hle : n ≤ count)
    (h : (tree.get? (f.version n)).isSome) (rest : List Name) :
    (f.shift count tree).get? (f.version (n + 1) ++ rest) = tree.get? (f.version n ++ rest) := by
  induction count generalizing tree with
  | zero => omega
  | succ count ih =>
    rw [shift_succ]
    rcases Nat.eq_or_lt_of_le hle with rfl | hlt
    · -- it goes first, and the moves of those before it do not reach its new place
      rw [get?_shift_of_apart count fun m _ hm => apart_version (by omega) rest,
        get?_move_target h]
    · have hthere : (tree.move (f.version (count + 1)) (f.version (count + 2))).get?
          (f.version n) = tree.get? (f.version n) :=
        get?_move_of_apart (apart_version_self (by omega)) (apart_version_self (by omega)) tree
      rw [ih (by omega) (by rw [hthere]; exact h),
        get?_move_of_apart (apart_version (by omega) rest) (apart_version (by omega) rest)]

/-- What stands at or below a version has stood there or at or below the version before. -/
theorem get?_of_shift {count n : Nat} {rest : List Name} {found : Tree}
    (h : (f.shift count tree).get? (f.version (n + 1) ++ rest) = some found) :
    tree.get? (f.version (n + 1) ++ rest) = some found ∨
      n ≠ 0 ∧ n ≤ count ∧ tree.get? (f.version n ++ rest) = some found := by
  induction count generalizing tree with
  | zero => exact Or.inl h
  | succ count ih =>
    rw [shift_succ] at h
    -- the moves that come later, and then the one that came first
    rcases ih h with hmoved | ⟨hn, hle, hmoved⟩
    · by_cases hlast : n = count + 1
      · subst hlast
        cases hsource : tree.get? (f.version (count + 1)) with
        | none => exact Or.inl (by rwa [move_of_none hsource] at hmoved)
        | some found =>
          rw [get?_move_target (Option.isSome_iff_exists.mpr ⟨found, hsource⟩)] at hmoved
          exact Or.inr ⟨by omega, Nat.le_refl _, hmoved⟩
      -- its own place was left a moment ago, so nothing is found there
      · by_cases hgone : n = count
        · subst hgone
          rw [get?_move_source (version_ne_nil _) (List.prefix_append _ _)
            (apart_version (by omega) rest)] at hmoved
          cases hmoved
        · rw [get?_move_of_apart (apart_version (by omega) rest)
            (apart_version (by omega) rest)] at hmoved
          exact Or.inl hmoved
    · rw [get?_move_of_apart (apart_version (by omega) rest)
        (apart_version (by omega) rest)] at hmoved
      exact Or.inr ⟨hn, by omega, hmoved⟩

/-! ## Adding bytes

The file is written whole, with what it held in front. -/

theorem append_sink (h : tree.get? f.names = some .sink) (added : List UInt8) :
    f.append added tree = tree := by
  rw [append, h]

theorem append_file {old : List UInt8} (h : tree.get? f.names = some (.file old))
    (added : List UInt8) : f.append added tree = tree.set (.file (old ++ added)) f.names := by
  rw [append, bytes, h]

theorem append_missing (h : tree.get? f.names = none) (added : List UInt8) :
    f.append added tree = tree.set (.file added) f.names := by
  rw [append, bytes, h]
  rfl

/-! ## A line

What is kept from line to line is that the file can be written. A line that is taken leaves it so,
and the same can be said of the next. -/

/-- A log file that can be written: a file is there, or a sink. -/
def IsOpen (f : RotatingFile) (tree : Tree) : Prop :=
  tree.get? f.names = some .sink ∨ ∃ old, tree.get? f.names = some (.file old)

/-- Whether names are those of another file: not of the log file, and neither of a file set aside
    nor of anything below such a name. -/
def IsElsewhere (f : RotatingFile) (names : List Name) : Prop :=
  names ≠ f.names ∧ ∀ n, ¬ f.version (n + 1) <+: names

/-- A log file in another directory is another file, unless its directory bears the name of a
    file set aside or lies below it. -/
theorem isElsewhere_of_directory_ne {g : RotatingFile} (hname : g.name = f.name)
    (hdirectory : g.directory ≠ f.directory) (h : ∀ n, ¬ f.version (n + 1) <+: g.directory) :
    f.IsElsewhere g.names := by
  constructor
  · intro heq
    exact hdirectory (List.append_inj_left' heq rfl)
  · intro n hp
    rcases List.prefix_concat_iff.mp hp with heq | hbelow
    · have hlast : f.versionName (n + 1) = f.versionName 0 :=
        (List.singleton_inj.mp (List.append_inj_right' heq rfl)).trans hname
      exact absurd (f.versionName_injective hlast) (Nat.succ_ne_zero n)
    · exact h n hbelow

/-- How a line gets into a log file, once and nowhere else. -/
inductive Took (f : RotatingFile) (line : String) (before after : Tree) : Prop
  /-- A sink takes it without a trace. -/
  | sunk (hsink : before.get? f.names = some .sink) (hsame : after = before)
  /-- It ends the file, behind all that the file held. -/
  | added {old : List UInt8} (hold : before.content? f.names = some old)
      (hnew : after.content? f.names = some (old ++ Utf8.encode line))
      (hothers : ∀ names, names ≠ f.names → after.content? names = before.content? names)
  /-- It begins the file anew, where with the line the limit would have been reached. What the
      file held has been set aside, and what was set aside before has moved on. -/
  | begun {old : List UInt8} (hfull : f.reachesLimit line before = true)
      (hbackups : f.backups ≠ 0) (hold : before.content? f.names = some old)
      (hnew : after.content? f.names = some (Utf8.encode line))
      (hkept : ∀ n < f.backups, (before.get? (f.version n)).isSome → ∀ rest,
        after.get? (f.version (n + 1) ++ rest) = before.get? (f.version n ++ rest))
      (haside : ∀ n rest bytes, after.content? (f.version (n + 1) ++ rest) = some bytes →
        before.content? (f.version (n + 1) ++ rest) = some bytes ∨
          before.content? (f.version n ++ rest) = some bytes)
      (hothers : ∀ names, f.IsElsewhere names → after.content? names = before.content? names)

/-- Other files are left as they are. -/
theorem Took.content?_eq {names : List Name} (h : f.Took line before after)
    (hnames : f.IsElsewhere names) : after.content? names = before.content? names := by
  cases h with
  | sunk hsink hsame => rw [hsame]
  | added hold hnew hothers => exact hothers names hnames.1
  | begun hfull hbackups hold hnew hkept haside hothers => exact hothers names hnames

/-- A file is made where nothing is. Only a directory keeps it from being written. -/
theorem isOpen_append (h : ¬ tree.HasDirectory f.names) (added : List UInt8) :
    f.IsOpen (f.append added tree) := by
  cases hplace : tree.get? f.names with
  | none => exact Or.inr ⟨_, by rw [append_missing hplace, get?_set_self]⟩
  | some found =>
    cases found with
    | sink => exact Or.inl (by rw [append_sink hplace, hplace])
    | file old => exact Or.inr ⟨_, by rw [append_file hplace, get?_set_self]⟩
    | directory entries => exact absurd ⟨entries, hplace⟩ h

/-- Paths lead where they did after a file has been written. -/
theorem locate_append {path : Path} {place : List Name} (h : ¬ tree.HasDirectory f.names)
    (hplace : tree.locate path = .ok place) (added : List UInt8) :
    (f.append added tree).locate path = .ok place := by
  rw [append]
  split
  · exact hplace
  · exact locate_set h hplace _

/-- What has taken a line can take another. -/
theorem Took.isOpen (h : f.Took line before after) : f.IsOpen after := by
  cases h with
  | sunk hsink hsame => exact Or.inl (hsame ▸ hsink)
  | added hold hnew hothers => exact Or.inr ⟨_, content?_eq_some_iff.mp hnew⟩
  | begun hfull hbackups hold hnew hkept haside hothers =>
    exact Or.inr ⟨_, content?_eq_some_iff.mp hnew⟩

/-- Below the limit the line goes behind what is there. -/
theorem took_append {old : List UInt8} (h : tree.get? f.names = some (.file old)) :
    f.Took line tree (f.append (Utf8.encode line) tree) := by
  rw [append_file h]
  exact .added (content?_eq_some_iff.mpr h) (content?_eq_some_iff.mpr (get?_set_self _ _ _))
    fun names hne => content?_set_of_ne h hne _

/-- The tree when the file has just been set aside, and there is none in its place. -/
def setAside (f : RotatingFile) (tree : Tree) : Tree :=
  (f.shift (f.backups - 1) tree).move f.names (f.version 1)

/-- After setting aside there is no file, and the next line makes one. -/
theorem get?_names_setAside (tree : Tree) : (f.setAside tree).get? f.names = none :=
  get?_move_source (version_ne_nil 0) List.prefix_rfl
    (apart_version_self (n := 1) (m := 0) (by omega)) _

/-- The file is now the first of those set aside. -/
theorem get?_setAside_first (h : (tree.get? f.names).isSome) (rest : List Name) :
    (f.setAside tree).get? (f.version 1 ++ rest) = tree.get? (f.names ++ rest) := by
  have hthere : (f.shift (f.backups - 1) tree).get? f.names = tree.get? f.names :=
    get?_shift_of_apart _ (fun _ hn _ => apart_version_self (m := 0) hn) tree
  rw [setAside, get?_move_target (by rw [hthere]; exact h)]
  exact get?_shift_of_apart _ (fun _ hn _ => apart_version (m := 0) hn rest) tree

/-- The versions behind the first are where the shift has put them. -/
theorem get?_setAside_later (n : Nat) (rest : List Name) (tree : Tree) :
    (f.setAside tree).get? (f.version (n + 2) ++ rest) =
      (f.shift (f.backups - 1) tree).get? (f.version (n + 2) ++ rest) :=
  get?_move_of_apart (apart_version (n := 0) (by omega) rest)
    (apart_version (by omega) rest) _

theorem get?_setAside_of_apart {names : List Name} (h : ∀ n, Apart (f.version n) names)
    (tree : Tree) : (f.setAside tree).get? names = tree.get? names :=
  (get?_move_of_apart (h 0) (h 1) _).trans (get?_shift_of_apart _ (fun n _ _ => h n) tree)

/-- The file is begun anew with the line. -/
theorem append_rotate (h : f.backups ≠ 0) (added : List UInt8) (tree : Tree) :
    f.append added (f.rotate tree) =
      ((f.setAside tree).set (.file []) f.names).set (.file added) f.names := by
  have hrotate : f.rotate tree = f.append [] (f.setAside tree) := by
    rw [rotate, if_neg h]
    rfl
  rw [hrotate, append_missing (get?_names_setAside tree), append_file (get?_set_self _ _ _)]
  rfl

/-- At the limit the old file becomes the first version, and the line a new file. -/
theorem took_rotate {old : List UInt8} (h : tree.get? f.names = some (.file old))
    (hfull : f.reachesLimit line tree = true) (hbackups : f.backups ≠ 0) :
    f.Took line tree (f.append (Utf8.encode line) (f.rotate tree)) := by
  rw [append_rotate hbackups]
  have hsome : (tree.get? f.names).isSome := Option.isSome_iff_exists.mpr ⟨_, h⟩
  have hnew := get?_set_self ((f.setAside tree).set (.file []) f.names)
    (.file (Utf8.encode line)) f.names
  have hapart : ∀ {names}, Apart f.names names →
      (((f.setAside tree).set (.file []) f.names).set (.file (Utf8.encode line)) f.names).get?
        names = (f.setAside tree).get? names := fun hnames => by
    rw [get?_set_of_apart hnames, get?_set_of_apart hnames]
  refine .begun hfull hbackups (content?_eq_some_iff.mpr h) (content?_eq_some_iff.mpr hnew)
    ?hkept ?haside ?hothers
  case hkept =>
    intro n hn hversion rest
    rw [hapart (apart_version (n := 0) (by omega) rest)]
    cases n with
    | zero => exact get?_setAside_first hsome rest
    | succ n =>
      rw [get?_setAside_later, get?_shift_of_isSome (by omega) (by omega) hversion]
  case haside =>
    intro n rest bytes hbytes
    rw [content?_eq_some_iff, hapart (apart_version (n := 0) (by omega) rest)] at hbytes
    rw [content?_eq_some_iff, content?_eq_some_iff]
    cases n with
    | zero => exact Or.inr (by rwa [get?_setAside_first hsome] at hbytes)
    | succ n =>
      rw [get?_setAside_later] at hbytes
      exact (get?_of_shift hbytes).imp_right fun hversion => hversion.2.2
  case hothers =>
    intro names ⟨hne, hversions⟩
    refine content?_eq_of_ne h hnew hne fun hnames => content?_congr ?_
    have hall : ∀ n, Apart (f.version n) names
      | 0 => hnames
      | n + 1 => ⟨hversions n, fun hp => hnames.2 (prefix_names_of_prefix_version hp
          fun heq => hversions n (heq ▸ List.prefix_rfl))⟩
    rw [hapart hnames, get?_setAside_of_apart hall]

/-- A line that is handed to a log file is written once. -/
theorem took_write (h : f.IsOpen tree) (line : String) : f.Took line tree (f.write line tree) := by
  rw [write]
  rcases h with hsink | ⟨old, hfile⟩
  · have hlimit : f.reachesLimit line tree = false := by rw [reachesLimit, hsink]
    rw [hlimit, if_neg Bool.false_ne_true, append_sink hsink]
    exact .sunk hsink rfl
  · split
    case isFalse => exact took_append hfile
    case isTrue hfull =>
      by_cases hbackups : f.backups = 0
      · rw [rotate, if_pos hbackups]
        exact took_append hfile
      · exact took_rotate hfile hfull hbackups

end Flowmeter.Log.RotatingFile
