import Flowmeter.Config.Load
import Flowmeter.Proofs.Config.Dotted
import Flowmeter.Proofs.Config.Overlay

/-!
# Settings under dotted names

A value that is written under a name is what is read there, its parts are what is read below, and
above stand mappings. Beside it nothing changes, not even where something else had to give way to
a mapping. Names are compared by their keys: `a.b` leads on from `a`, and `ab` does not.

The mapping is a tree here. One that is a part of a document may have several names; it is written
under all of them by `Document.insert`.

Four relations of two names are told apart, and they are all there are: the one that is read is the
one that was written, or leads on from it, or leads to it, or parts from it at some key.
`WrittenUnder` has a clause for each. Beside is the only one that needs the mapping to be nested
(`Value.Nested.openWay`): writing goes by the entries that are written out, while reading also looks
into a mapping that contains itself, and so such a mapping on the way would lose for the reader what
stood beside.
-/

set_option autoImplicit false

namespace Flowmeter.Config

variable {entries : List (Scalar × Value)}

theorem entries_of_not_map {v : Value} (h : v.kind ≠ .map) : v.entries = [] := by
  cases v with
  | map entries => exact absurd rfl h
  | _ => rfl

/-- In a nested mapping every way is open. -/
theorem Value.Nested.openWay (h : (Value.map entries).Nested) (path : List String) :
    OpenWay path entries := by
  induction path generalizing entries with
  | nil => trivial
  | cons key rest ih =>
    cases rest with
    | nil => trivial
    | cons next rest =>
      intro part hpart
      cases h.part hpart with
      | map distinct parts => exact ⟨fun _ => rfl, ih (.map distinct parts)⟩
      | plain hkind =>
        refine ⟨fun hmap => absurd hmap hkind, ?_⟩
        rw [entries_of_not_map hkind]
        exact openWay_nil _

theorem find?_of_not_map {v : Value} (h : v.kind ≠ .map) {path : List String} (hne : path ≠ []) :
    v.find? path = none := by
  cases path with
  | nil => exact absurd rfl hne
  | cons key rest =>
    rw [Value.find?]
    split
    case h_1 entries hmap => exact absurd hmap (unfold_ne_map h entries)
    case h_2 => rfl

/-- What a configuration reads as after a value has been written under a name: under the name
    itself, under names that lead on from it, under those that part from it, and under those that
    lead to it. -/
structure WrittenUnder (name : String) (v : Value) (before after : Config) : Prop where
  here : ∀ fallback, after.get name fallback = v
  below : ∀ rest fallback,
    after.get (name ++ "." ++ rest) fallback = (v.find? (keysOf rest)).getD fallback
  below_plain : v.kind ≠ .map → ∀ rest fallback,
    after.get (name ++ "." ++ rest) fallback = fallback
  beside : ∀ other fallback, ¬ keysOf name <+: keysOf other → ¬ keysOf other <+: keysOf name →
    after.get other fallback = before.get other fallback
  above : ∀ outer fallback, keysOf outer <+: keysOf name → keysOf outer ≠ keysOf name →
    ∃ inner, after.get outer fallback = .map inner

/-- **What is written into a nested mapping under a dotted name is read there, and nothing beside
    it changes.** Of two values that are written under the same name only the second remains. -/
theorem get_insert (h : (Value.map entries).Nested) (name : String) (v : Value)
    (path : Option String) :
    ∃ written, (Value.map entries).insert name v = .ok (.map written) ∧
      WrittenUnder name v ⟨.map entries, path⟩ ⟨.map written, path⟩ ∧
      ∀ w, (Value.map written).insert name w = (Value.map entries).insert name w := by
  refine ⟨insertAt (keysOf name) v entries, rfl, ?_, fun w => ?_⟩
  case refine_2 =>
    rw [Value.insert, Value.insert, insertAt_insertAt]
  have hbelow (rest : String) (fallback : Value) :
      get ⟨.map (insertAt (keysOf name) v entries), path⟩ (name ++ "." ++ rest) fallback =
        (v.find? (keysOf rest)).getD fallback := by
    rw [get, keysOf_append, find?_insertAt_append (keysOf_ne_nil name)]
  -- one clause for each way in which the name read can stand to the name written
  constructor
  case here =>
    intro fallback
    have hfound := find?_insertAt_append (keysOf_ne_nil name) v entries []
    rw [List.append_nil] at hfound
    rw [get, hfound]
    rfl
  case below => exact hbelow
  case below_plain =>
    intro hv rest fallback
    rw [hbelow, find?_of_not_map hv (keysOf_ne_nil rest)]
    rfl
  case beside =>
    intro other fallback hextends hextended
    rw [get, get, find?_insertAt_of_apart hextends hextended v (h.openWay _)]
  case above =>
    intro outer fallback hprefix hne
    obtain ⟨inner, hinner⟩ := find?_insertAt_of_prefix hprefix hne v entries
    exact ⟨inner, by rw [get, hinner]; rfl⟩

/-- Where a number stood there is a mapping afterwards, and the other settings of its section are
    as they were. -/
theorem get_insert_below_number :
    ∃ written, (Value.map defaults).insert "web.max_requests.soft" (.int 5) =
        .ok (.map written) ∧
      get ⟨.map written, none⟩ "web.max_requests.soft" .null = .int 5 ∧
      get ⟨.map written, none⟩ "web.max_requests.soft.limit" .null = .null ∧
      get ⟨.map written, none⟩ "web.telemetry_path" .null = .text "/metrics" ∧
      (∃ inner, get ⟨.map written, none⟩ "web.max_requests" .null = .map inner) ∧
      (Value.map written).insert "web.max_requests.soft" .null =
        (Value.map defaults).insert "web.max_requests.soft" .null := by
  obtain ⟨written, hinsert, hwritten, hagain⟩ :=
    get_insert nested_defaults "web.max_requests.soft" (.int 5) none
  exact ⟨written, hinsert, hwritten.here _, hwritten.below "limit" _,
    hwritten.beside "web.telemetry_path" _ (by decide) (by decide),
    hwritten.above "web.max_requests" _ (by decide) (by decide), hagain .null⟩

end Flowmeter.Config
