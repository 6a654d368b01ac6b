import Flowmeter.Files.Tree
import Flowmeter.Proofs.Association
import Flowmeter.Proofs.Outcome

/-!
# What stands where in a tree

Putting something into a tree, taking something out and moving something tell on the names that
lead to it or through it and on no others. What stands under names that lead elsewhere, `Apart`
from those, stays as it is. Where only files are looked at (`content?`), what leads to the place
tells nothing either, since directories stand there before and after.

A tree is read and changed along lists of names. Two such lists stand to each other in one of three
ways: the one is the beginning of the other, or the other of the one, or they are apart. Reading
after a change is said for each of the three: below the place what has been put in is found, above
it a directory, and apart from it whatever was there. `get?_append` cuts a list of names in two and
is how the first two are reduced to the place itself.

The last section is about paths as they are written, which are walked name by name through
directories only. A change that takes the place of no directory leads no path astray, and that is
all a log needs: the file it writes to is found again after anything has been written.
-/

set_option autoImplicit false

namespace Flowmeter.Files.Tree

open Association

/-- Neither of two lists of names is the beginning of the other. -/
def Apart (names others : List Name) : Prop :=
  ¬ names <+: others ∧ ¬ others <+: names

/-- Two entries of one directory are apart, with all that stands below. -/
theorem apart_entries {a b : Name} (h : a ≠ b) (directory rest : List Name) :
    Apart (directory ++ [a]) (directory ++ [b] ++ rest) := by
  constructor
  · rw [List.append_assoc, List.prefix_append_right_inj, List.singleton_append,
      List.cons_prefix_cons]
    exact fun hab => h hab.1
  · rw [List.append_assoc, List.prefix_append_right_inj, List.singleton_append,
      List.cons_prefix_cons]
    exact fun hba => h hba.1.symm

theorem Apart.tails {name : Name} {names others : List Name}
    (h : Apart (name :: names) (name :: others)) : Apart names others :=
  ⟨fun hp => h.1 (List.cons_prefix_cons.mpr ⟨rfl, hp⟩),
    fun hp => h.2 (List.cons_prefix_cons.mpr ⟨rfl, hp⟩)⟩

theorem Apart.exists_cons {names others : List Name} (h : Apart names others) :
    ∃ name rest, others = name :: rest :=
  List.exists_cons_of_ne_nil fun hnil => h.2 (hnil ▸ List.nil_prefix)

/-! ## Looking

To look for two names behind each other is to look for the second in what is found under the first.
-/

variable {tree new : Tree} {names target source : List Name}

/-- The recursion with its two cases in one equation, which can be rewritten with. -/
theorem get?_cons (tree : Tree) (name : Name) (rest : List Name) :
    tree.get? (name :: rest) = (tree.entries.lookup name).bind (·.get? rest) := by
  rw [get?]
  cases tree.entries.lookup name <;> rfl

theorem get?_append (tree : Tree) (names rest : List Name) :
    tree.get? (names ++ rest) = (tree.get? names).bind (·.get? rest) := by
  induction names generalizing tree with
  | nil => rfl
  | cons name names ih =>
    rw [List.cons_append, get?_cons, get?_cons]
    cases tree.entries.lookup name with
    | none => rfl
    | some next => exact ih next

/-- What stands somewhere stands in directories. -/
theorem exists_directory_of_get? {rest : List Name} {found : Tree}
    (h : tree.get? (names ++ rest) = some found) (hne : rest ≠ []) :
    ∃ entries, tree.get? names = some (.directory entries) := by
  obtain ⟨name, rest, rfl⟩ := List.exists_cons_of_ne_nil hne
  rw [get?_append] at h
  obtain ⟨above, habove, hbelow⟩ := Option.bind_eq_some_iff.mp h
  cases above with
  | directory entries => exact ⟨entries, habove⟩
  | _ => cases hbelow

/-! ## Putting something in

Induction on the names that lead to the place, with the tree left open: what is changed one level
down is another tree. -/

theorem set_cons (tree new : Tree) (name : Name) (rest : List Name) :
    tree.set new (name :: rest) = .directory (put name
      (((tree.entries.lookup name).getD (.directory [])).set new rest) tree.entries) :=
  rfl

/-- What is put in is found, with all its parts. -/
theorem get?_set_append (tree new : Tree) (target rest : List Name) :
    (tree.set new target).get? (target ++ rest) = new.get? rest := by
  induction target generalizing tree with
  | nil => rfl
  | cons name target ih =>
    rw [set_cons, List.cons_append, get?_cons, entries, lookup_put, if_pos (by simp),
      Option.bind_some]
    exact ih _

theorem get?_set_self (tree new : Tree) (target : List Name) :
    (tree.set new target).get? target = some new := by
  have h := get?_set_append tree new target []
  rwa [List.append_nil] at h

/-- Before the place stand directories. -/
theorem get?_set_above (tree new : Tree) {rest : List Name} (hne : rest ≠ []) :
    ∃ entries, (tree.set new (names ++ rest)).get? names = some (.directory entries) :=
  exists_directory_of_get? (get?_set_self tree new (names ++ rest)) hne

/-- Names that part from the place: the first name is another one, or it is the same and the rest
    parts. -/
theorem get?_set_of_apart (h : Apart target names) (tree new : Tree) :
    (tree.set new target).get? names = tree.get? names := by
  induction target generalizing tree names with
  | nil => exact absurd List.nil_prefix h.1
  | cons name target ih =>
    obtain ⟨first, names, rfl⟩ := h.exists_cons
    rw [set_cons, get?_cons, get?_cons, entries, lookup_put]
    by_cases hfirst : first = name
    · subst hfirst
      rw [if_pos (by simp), Option.bind_some, ih h.tails]
      cases tree.entries.lookup first with
      | some next => rfl
      | none =>
        -- a directory that is made on the way is empty
        obtain ⟨second, rest, rfl⟩ := h.tails.exists_cons
        rfl
    · rw [if_neg (by simp [hfirst])]

/-! ## Taking something out

The same three facts, save that nothing is made on the way: where a name leads nowhere there is
nothing to take out. -/

/-- An entry that is struck out is not found, and all others are. -/
theorem lookup_filter_key (name other : Name) (entries : List (Name × Tree)) :
    (entries.filter fun e => e.1 != name).lookup other =
      if other == name then none else entries.lookup other := by
  induction entries with
  | nil => cases other == name <;> rfl
  | cons e rest ih =>
    rw [List.filter_cons]
    by_cases he : e.1 = name
    · rw [if_neg (by simp [he]), ih, lookup_cons_eq, he]
      split <;> rfl
    · rw [if_pos (by simp [he]), lookup_cons_eq, lookup_cons_eq, ih]
      by_cases hother : other = e.1
      · simp [hother, he]
      · simp [hother]

/-- The names before the last are followed, and the entry they lead to is put back with less in
    it. -/
theorem remove_cons_cons (tree : Tree) (name next : Name) (rest : List Name) :
    tree.remove (name :: next :: rest) = match tree.entries.lookup name with
      | some inner => .directory (put name (inner.remove (next :: rest)) tree.entries)
      | none => tree :=
  rfl

/-- What is taken out is gone, with all its parts. -/
theorem get?_remove_append (hne : source ≠ []) (tree : Tree) (rest : List Name) :
    (tree.remove source).get? (source ++ rest) = none := by
  induction source generalizing tree with
  | nil => exact absurd rfl hne
  | cons name source ih =>
    cases source with
    | nil =>
      rw [remove, List.cons_append, get?_cons, entries, lookup_filter_key, if_pos (by simp)]
      rfl
    | cons next source =>
      rw [remove_cons_cons, List.cons_append, get?_cons]
      cases hlookup : tree.entries.lookup name with
      | none => rw [hlookup]; rfl
      | some inner =>
        rw [entries, lookup_put, if_pos (by simp), Option.bind_some]
        exact ih (by simp) inner

theorem get?_remove_of_apart (h : Apart source names) (tree : Tree) :
    (tree.remove source).get? names = tree.get? names := by
  induction source generalizing tree names with
  | nil => exact absurd List.nil_prefix h.1
  | cons name source ih =>
    obtain ⟨first, names, rfl⟩ := h.exists_cons
    by_cases hfirst : first = name
    · subst hfirst
      cases source with
      | nil => exact absurd List.nil_prefix h.tails.1
      | cons next source =>
        rw [remove_cons_cons]
        cases hlookup : tree.entries.lookup first with
        | none => rfl
        | some inner =>
          rw [get?_cons, get?_cons, entries, lookup_put, if_pos (by simp), hlookup,
            Option.bind_some, Option.bind_some, ih h.tails]
    · have hne : (first == name) = false := by simp [hfirst]
      cases source with
      | nil =>
        rw [remove, get?_cons, get?_cons, entries, lookup_filter_key, hne,
          if_neg Bool.false_ne_true]
      | cons next source =>
        rw [remove_cons_cons]
        cases tree.entries.lookup name with
        | none => rfl
        | some inner =>
          rw [get?_cons, get?_cons, entries, lookup_put, hne, if_neg Bool.false_ne_true]

/-! ## Moving something

Moving is taking out and putting in, so what it does to other names follows from the two. What is
moved is looked for before it is taken out. -/

/-- Where there is nothing nothing is moved. -/
theorem move_of_none (h : tree.get? source = none) (target : List Name) :
    tree.move source target = tree := by
  rw [move, h]

theorem move_of_some {moved : Tree} (h : tree.get? source = some moved) (target : List Name) :
    tree.move source target = (tree.remove source).set moved target := by
  rw [move, h]

/-- What is moved is found at the other place, with all its parts. -/
theorem get?_move_target (h : (tree.get? source).isSome) (target rest : List Name) :
    (tree.move source target).get? (target ++ rest) = tree.get? (source ++ rest) := by
  obtain ⟨moved, hmoved⟩ := Option.isSome_iff_exists.mp h
  rw [move_of_some hmoved, get?_set_append, get?_append, hmoved]
  rfl

/-- What is moved is gone from its place. -/
theorem get?_move_source (hne : source ≠ []) (hsource : source <+: names)
    (h : Apart target names) (tree : Tree) : (tree.move source target).get? names = none := by
  obtain ⟨rest, rfl⟩ := hsource
  cases hmoved : tree.get? source with
  | none => rw [move_of_none hmoved, get?_append, hmoved]; rfl
  | some moved => rw [move_of_some hmoved, get?_set_of_apart h, get?_remove_append hne]

theorem get?_move_of_apart (hsource : Apart source names) (htarget : Apart target names)
    (tree : Tree) : (tree.move source target).get? names = tree.get? names := by
  cases hmoved : tree.get? source with
  | none => rw [move_of_none hmoved]
  | some moved =>
    rw [move_of_some hmoved, get?_set_of_apart htarget, get?_remove_of_apart hsource]

/-! ## The contents of files

Contents are what an onlooker reads, and directories have none. So `content?` tells less than
`get?`: above the place of a file both before and after have nothing to show. -/

/-- The bytes of the file that stands under names. -/
def content? (tree : Tree) (names : List Name) : Option (List UInt8) :=
  match tree.get? names with
  | some (.file bytes) => some bytes
  | _ => none

theorem content?_eq_some_iff {bytes : List UInt8} :
    tree.content? names = some bytes ↔ tree.get? names = some (.file bytes) := by
  rw [content?]
  split
  case h_1 found h => simp [h]
  case h_2 h => exact ⟨fun hnone => (by cases hnone), fun hsome => absurd hsome (h bytes)⟩

theorem content?_congr {other : Tree} {others : List Name}
    (h : tree.get? names = other.get? others) : tree.content? names = other.content? others := by
  rw [content?, content?, h]

/-- Directories lead to a file and hold nothing themselves. -/
theorem content?_above {rest : List Name} {found : Tree}
    (h : tree.get? (names ++ rest) = some found) (hne : rest ≠ []) :
    tree.content? names = none := by
  obtain ⟨entries, habove⟩ := exists_directory_of_get? h hne
  rw [content?, habove]

/-- Nothing stands below a file. -/
theorem content?_below {bytes : List UInt8} {rest : List Name}
    (h : tree.get? names = some (.file bytes)) (hne : rest ≠ []) :
    tree.content? (names ++ rest) = none := by
  obtain ⟨name, rest, rfl⟩ := List.exists_cons_of_ne_nil hne
  rw [content?, get?_append, h]
  rfl

/-- Where the same file is written before and after, files elsewhere are as they are apart from
    it. -/
theorem content?_eq_of_ne {other : Tree} {bytes bytes' : List UInt8}
    (h : tree.get? target = some (.file bytes)) (h' : other.get? target = some (.file bytes'))
    (hne : names ≠ target)
    (hapart : Apart target names → other.content? names = tree.content? names) :
    other.content? names = tree.content? names := by
  by_cases hbelow : target <+: names
  · obtain ⟨rest, rfl⟩ := hbelow
    have hrest : rest ≠ [] := fun hnil => hne (by rw [hnil, List.append_nil])
    rw [content?_below h hrest, content?_below h' hrest]
  · by_cases habove : names <+: target
    · obtain ⟨rest, rfl⟩ := habove
      have hrest : rest ≠ [] := fun hnil => hne (by rw [hnil, List.append_nil])
      rw [content?_above h hrest, content?_above h' hrest]
    · exact hapart ⟨hbelow, habove⟩

/-- Writing a file that is there changes no other file. -/
theorem content?_set_of_ne {bytes : List UInt8} (h : tree.get? target = some (.file bytes))
    (hne : names ≠ target) (bytes' : List UInt8) :
    (tree.set (.file bytes') target).content? names = tree.content? names :=
  content?_eq_of_ne h (get?_set_self _ _ _) hne fun hapart =>
    content?_congr (get?_set_of_apart hapart _ _)

/-! ## Where paths lead

Walking fails where a directory is missing or something else stands in its place, and on a name
that is too long. The last has nothing to do with the tree, and more directories only take the
others away. -/

/-- A path is walked name by name. -/
theorem resolve_append (tree : Tree) (names rest taken : List Name) :
    tree.resolve (names ++ rest) taken = tree.resolve names taken >>= tree.resolve rest := by
  induction names generalizing taken with
  | nil => rfl
  | cons name names ih =>
    rw [List.cons_append, resolve, resolve]
    split
    · split
      · rfl
      · exact ih _
    · rfl
    · rfl

/-- A name that is not that of the directory above leads to an entry. -/
theorem eq_of_resolve_single {name : Name} {taken place : List Name} (hup : name ≠ Name.up)
    (h : tree.resolve [name] taken = .ok place) : place = taken ++ [name] := by
  rw [resolve] at h
  split at h
  · split at h
    · cases h
    · exact (Except.ok.inj h).symm
  · cases h
  · cases h

/-- A path that goes on by one name leads to an entry of what the path before leads to. -/
theorem eq_of_locate_join {path : Path} {name : Name} {place entry : List Name}
    (hup : name ≠ Name.up) (hplace : tree.locate path = .ok place)
    (hentry : tree.locate (path.join ⟨.here, [name]⟩) = .ok entry) : entry = place ++ [name] := by
  obtain ⟨_, _, hresolve⟩ := Outcome.bind_eq_ok.mp hplace
  obtain ⟨_, _, hresolve'⟩ := Outcome.bind_eq_ok.mp hentry
  rw [Path.join, if_pos rfl, resolve_append, hresolve] at hresolve'
  exact eq_of_resolve_single hup hresolve'

/-- Whether a directory stands under names. -/
def HasDirectory (tree : Tree) (names : List Name) : Prop :=
  ∃ entries, tree.get? names = some (.directory entries)

/-- A path that leads somewhere leads there in any tree with these directories and more. -/
theorem resolve_of_directories {other : Tree}
    (h : ∀ names, tree.HasDirectory names → other.HasDirectory names)
    {names taken place : List Name} (hplace : tree.resolve names taken = .ok place) :
    other.resolve names taken = .ok place := by
  induction names generalizing taken with
  | nil => exact hplace
  | cons name names ih =>
    rw [resolve] at hplace
    -- a directory on the way is a directory still; the other two ways have failed already
    split at hplace
    case h_1 entries hentries =>
      obtain ⟨entries', hentries'⟩ := h taken ⟨entries, hentries⟩
      rw [resolve, hentries']
      split at hplace
      case isTrue => cases hplace
      case isFalse hlength => exact (if_neg hlength).trans (ih hplace)
    case h_2 => cases hplace
    case h_3 => cases hplace

/-- A directory stays where something is put that takes the place of no directory. -/
theorem HasDirectory.set (hdir : tree.HasDirectory names) (h : ¬ tree.HasDirectory target)
    (new : Tree) : (tree.set new target).HasDirectory names := by
  obtain ⟨entries, hentries⟩ := hdir
  by_cases hbelow : target <+: names
  · obtain ⟨rest, rfl⟩ := hbelow
    rcases eq_or_ne rest [] with rfl | hrest
    · exact absurd ⟨entries, by rwa [List.append_nil] at hentries⟩ h
    · exact absurd (exists_directory_of_get? hentries hrest) h
  · by_cases habove : names <+: target
    · obtain ⟨rest, rfl⟩ := habove
      have hrest : rest ≠ [] := by
        rintro rfl
        exact hbelow (by simp)
      exact get?_set_above tree new hrest
    · exact ⟨entries, by rw [get?_set_of_apart ⟨hbelow, habove⟩, hentries]⟩

/-- Paths lead where they did after something has been put where no directory was. -/
theorem locate_set {path : Path} {place : List Name} (h : ¬ tree.HasDirectory target)
    (hplace : tree.locate path = .ok place) (new : Tree) :
    (tree.set new target).locate path = .ok place := by
  obtain ⟨u, hcheck, hresolve⟩ := Outcome.bind_eq_ok.mp hplace
  exact Outcome.bind_eq_ok.mpr ⟨u, hcheck,
    resolve_of_directories (fun names hdir => hdir.set h new) hresolve⟩

/-- The path of a directory that has been made leads to its names. -/
theorem locate_makeDirectory {path : Path} {place : List Name} {made : Tree}
    (h : tree.makeDirectory path = (made, .ok place)) : made.locate path = .ok place := by
  rw [makeDirectory] at h
  split at h
  case h_1 => cases h
  case h_2 =>
    obtain ⟨rfl, hplace⟩ := Prod.mk.inj h
    exact Outcome.mapError_eq_ok.mp hplace

/-- The names at which a file can be made are where the path leads, and no directory stands
    there. -/
theorem locateFile_eq_ok_iff {path : Path} {place : List Name} :
    tree.locateFile path = .ok place ↔
      tree.locate path = .ok place ∧ ¬ tree.HasDirectory place := by
  rw [locateFile, Outcome.mapError_eq_ok, Outcome.bind_eq_ok]
  constructor
  · rintro ⟨names, hnames, h⟩
    split at h
    case h_1 => cases h
    case h_2 hnone =>
      obtain rfl := Except.ok.inj h
      exact ⟨hnames, fun ⟨entries, hentries⟩ => hnone entries hentries⟩
  · rintro ⟨hplace, hnone⟩
    refine ⟨place, hplace, ?_⟩
    split
    case h_1 entries hentries => exact absurd ⟨entries, hentries⟩ hnone
    case h_2 => rfl

end Flowmeter.Files.Tree
