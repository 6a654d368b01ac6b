import Flowmeter.Proofs.Config.Merge

/-!
# One nested mapping over another, seen along paths

Mappings may stand within mappings to any depth. Of a path of keys one of the two decides: the
upper one as far as it says anything there, and else the lower one. It is decided by how a walk
along the path ends in the upper one (`Walk.Overlaid`).

The walks in both mappings go on side by side as long as both find a mapping. Where either finds
something else, what is left of the path is walked in one of them alone.

The walks are the reason why the statement needs no cases on the two mappings. A walk ends in one of
four ways, in what is found or in where it fails, and how the two walks end settles how the walk in
the result ends. The induction is on the path, with both values left open, since a step along the
path leads to two other values.

That the merge does not fail is part of the statement. It can fail where a value contains itself; in
a tree nothing does.
-/

set_option autoImplicit false

namespace Flowmeter.Config

open Association

/-! ## Walks

A walk fails in two ways, and they must be told apart: a key that is missing leaves the place to the
other mapping, and something that is no mapping does not. -/

/-- How a walk along keys ends. -/
inductive Walk where
  /-- At the last key stands a mapping. -/
  | mapping (entries : List (Scalar × Value))
  /-- At the last key stands something else. -/
  | plain (v : Value)
  /-- A mapping lacks the next key. -/
  | missing
  /-- Before the last key stands something that is no mapping. -/
  | blocked

/-- What is found at the end of a walk. -/
def Walk.found? : Walk → Option Value
  | .mapping entries => some (.map entries)
  | .plain v => some v
  | .missing | .blocked => none

def Value.walk (v : Value) : List Scalar → Walk
  | [] =>
      match v.unfold with
      | .map entries => .mapping entries
      | _ => .plain v
  | key :: rest =>
      match v.unfold with
      | .map entries =>
          match entries.lookup key with
          | some part => part.walk rest
          | none => .missing
      | _ => .blocked

/-- A value whose mappings are a tree, with distinct keys each. What is no mapping counts as a
    leaf, whatever it holds. -/
inductive Value.Nested : Value → Prop
  | map {entries : List (Scalar × Value)} (distinct : Distinct entries)
      (parts : ∀ e ∈ entries, e.2.Nested) : Value.Nested (.map entries)
  | plain {v : Value} (h : v.kind ≠ .map) : Value.Nested v

/-- Every key of the mappings in a value is found where it stands. Only a number that is none is
    not, since it is not the same as itself. -/
def Value.Findable (v : Value) : Prop :=
  ∀ path entries, v.walk path = .mapping entries → ∀ e ∈ entries, (e.1 == e.1) = true

/-- How walks along the same keys end in a mapping, in a second one, and in the second laid over
    the first. -/
def Walk.Overlaid (lower upper merged : Walk) : Prop :=
  match upper with
  | .plain v => merged = .plain v
  | .missing => merged.found? = lower.found?
  | .blocked => merged = .blocked
  | .mapping new =>
      match lower with
      | .mapping old => ∃ both, merged = .mapping both ∧
          merge (.map old) (.map new) = .ok (.map both) ∧
          keys both = keys old ++ (keys new).filter (fun k => !has k old)
      | _ => merged = .mapping new

variable {base v : Value} {lower upper : List (Scalar × Value)}

/-- What a value stands for is a mapping just if its kind says so. -/
theorem unfold_ne_map (h : v.kind ≠ .map) (entries : List (Scalar × Value)) :
    v.unfold ≠ .map entries := by
  intro heq
  rw [Value.kind, heq] at h
  exact h rfl

/-- In what is no mapping a walk ends where it begins. -/
theorem walk_of_not_map (h : v.kind ≠ .map) (path : List Scalar) :
    v.walk path = if path = [] then .plain v else .blocked := by
  have hmap := unfold_ne_map h
  cases path with
  | nil =>
    rw [Value.walk]
    split
    case h_1 entries heq => exact absurd heq (hmap entries)
    case h_2 => rfl
  | cons key rest =>
    rw [Value.walk]
    split
    case h_1 entries heq => exact absurd heq (hmap entries)
    case h_2 => rfl

theorem walk_map_cons (entries : List (Scalar × Value)) (key : Scalar) (rest : List Scalar) :
    (Value.map entries).walk (key :: rest) =
      match entries.lookup key with
      | some part => part.walk rest
      | none => .missing :=
  rfl

theorem Value.Nested.part {entries : List (Scalar × Value)} (h : (Value.map entries).Nested)
    {key : Scalar} {part : Value} (hpart : entries.lookup key = some part) : part.Nested := by
  obtain ⟨e, he, -, rfl⟩ := mem_of_lookup hpart
  cases h with
  | map distinct parts => exact parts e he
  | plain h => exact absurd rfl h

theorem Value.Nested.distinct {entries : List (Scalar × Value)} (h : (Value.map entries).Nested) :
    Distinct entries := by
  cases h with
  | map distinct parts => exact distinct
  | plain h => exact absurd rfl h

theorem nested_flat {entries : List (Scalar × Value)} (distinct : Distinct entries)
    (h : ∀ e ∈ entries, e.2.kind ≠ .map) : (Value.map entries).Nested :=
  .map distinct fun e he => .plain (h e he)

/-- The built-in settings are sections of settings. -/
theorem nested_defaults : (Value.map defaults).Nested := by
  refine .map (by decide) ?_
  simp only [defaults, Value.record, List.map_cons, List.map_nil, List.forall_mem_cons]
  refine ⟨?collector, ?path, ?web, ?logging, fun _ he => nomatch he⟩ <;>
    exact nested_flat (by decide) (by decide)

/-! ## Along a path

The two mappings are looked up under the same key at every step. Where one lacks it the rest of the
path is walked in the other, and `overlaid_self` says that there nothing is laid over anything. -/

/-- Where there is nothing to lay it over, the upper one stays as it is. -/
theorem Walk.overlaid_self {lower upper : Walk} (hmapping : ∀ old, lower ≠ .mapping old)
    (hmissing : upper = .missing → lower.found? = none) : Walk.Overlaid lower upper upper := by
  cases upper with
  | mapping new =>
    cases lower with
    | mapping old => exact absurd rfl (hmapping old)
    | _ => rfl
  | plain v => rfl
  | missing => exact (hmissing rfl).symm
  | blocked => rfl

/-- The keys keep the places they have in the lower mapping, and new ones come after them in the
    order of the upper. -/
theorem keys_overlayEntries (h : Distinct upper) (lower : List (Scalar × Value)) :
    keys (overlayEntries lower upper) =
      keys lower ++ (keys upper).filter (fun k => !has k lower) := by
  obtain ⟨own, hkeys, hown⟩ := overlayEntries_eq_append h lower
  have hmap : keys (own ++ upper.filter fun e => !has e.1 lower) =
      keys own ++ keys (upper.filter fun e => !has e.1 lower) := List.map_append
  have hfilter : keys (upper.filter fun e => !has e.1 lower) =
      (keys upper).filter fun k => !has k lower := by
    rw [keys, keys, List.filter_map]
    rfl
  rw [hown, hmap, hkeys, hfilter]

theorem overlay_plain (h : v.kind ≠ .map) (base : Value) : base.overlay v = v := by
  cases v with
  | map entries => exact absurd rfl h
  | _ => rfl

/-- The whole path, one key at a time. -/
theorem walk_overlay (hbase : base.Nested) (hv : v.Nested) (path : List Scalar) :
    Walk.Overlaid (base.walk path) (v.walk path) ((base.overlay v).walk path) := by
  induction path generalizing base v with
  | nil =>
    cases hv with
    | plain h =>
      rw [overlay_plain h, walk_of_not_map h]
      rfl
    | map distinct parts =>
      cases hbase with
      | plain h =>
        rw [overlay_of_not_map h, walk_of_not_map h]
        rfl
      | map => exact ⟨_, rfl, rfl, keys_overlayEntries distinct _⟩
  | cons key rest ih =>
    cases hv with
    | plain h =>
      rw [overlay_plain h, walk_of_not_map h]
      rfl
    | @map upper distinct parts =>
      cases hbase with
      | plain h =>
        rw [overlay_of_not_map h, walk_of_not_map h]
        exact Walk.overlaid_self (fun _ hwalk => by cases hwalk) (fun _ => rfl)
      | @map lower distinctLower partsLower =>
        -- both are mappings: three lookups of one key, of which the third is settled by the other
        -- two
        show Walk.Overlaid _ _ ((Value.map (overlayEntries lower upper)).walk (key :: rest))
        rw [walk_map_cons, walk_map_cons, walk_map_cons, lookup_overlayEntries distinct]
        cases hnew : upper.lookup key with
        | none => cases lower.lookup key <;> rfl
        | some new =>
          cases hold : lower.lookup key with
          | none => exact Walk.overlaid_self (fun _ hwalk => by cases hwalk) (fun _ => rfl)
          | some old =>
            exact ih ((Value.Nested.map distinctLower partsLower).part hold)
              ((Value.Nested.map distinct parts).part hnew)

/-! ## A second time

What has been laid over is found again in what it was laid over, so nothing is left to change. Here
a key has to be found where it stands, and for this alone the hypothesis `Findable` is needed: a key
that is not the same as itself would be put there once more. -/

/-- Entries stay as they are if each is laid over what it leaves unchanged. -/
theorem overlayEntries_eq_self
    (h : ∀ e ∈ upper, ∃ w, lower.lookup e.1 = some w ∧ w.overlay e.2 = w) :
    overlayEntries lower upper = lower := by
  induction upper with
  | nil => rfl
  | cons e rest ih =>
    obtain ⟨⟨w, hlookup, hoverlay⟩, hrest⟩ := List.forall_mem_cons.mp h
    obtain ⟨v, hv, heq⟩ := overlayEntries_cons lower e rest
    rw [hlookup] at hv
    have hv : w.overlay e.2 = v := Option.some.inj hv
    rw [heq, ← hv, hoverlay, put_of_lookup hlookup]
    exact ih hrest

/-- Laid over nothing, a mapping with distinct keys is what it was. -/
theorem overlayEntries_nil (h : Distinct upper) : overlayEntries [] upper = upper := by
  obtain ⟨own, hkeys, hown⟩ := overlayEntries_eq_append h []
  obtain rfl : own = [] := List.map_eq_nil_iff.mp hkeys
  rw [hown]
  exact List.filter_eq_self.mpr fun _ _ => rfl

/-- In what is no mapping there are no keys to be found. -/
theorem findable_plain (h : v.kind ≠ .map) : v.Findable := by
  intro path entries hwalk
  rw [walk_of_not_map h] at hwalk
  split at hwalk <;> cases hwalk

theorem findable_map {entries : List (Scalar × Value)}
    (h : ∀ e ∈ entries, (e.1 == e.1) = true ∧ e.2.Findable) : (Value.map entries).Findable := by
  intro path inner hwalk
  cases path with
  | nil =>
    cases hwalk
    exact fun e he => (h e he).1
  | cons key rest =>
    rw [walk_map_cons] at hwalk
    cases hpart : entries.lookup key with
    | none =>
      rw [hpart] at hwalk
      cases hwalk
    | some part =>
      rw [hpart] at hwalk
      obtain ⟨e, he, -, rfl⟩ := mem_of_lookup hpart
      exact (h e he).2 rest inner hwalk

theorem findable_flat {entries : List (Scalar × Value)}
    (h : ∀ e ∈ entries, (e.1 == e.1) = true ∧ e.2.kind ≠ .map) : (Value.map entries).Findable :=
  findable_map fun e he => ⟨(h e he).1, findable_plain (h e he).2⟩

theorem Value.Findable.lookup {entries : List (Scalar × Value)}
    (h : (Value.map entries).Findable) (hdistinct : Distinct entries) {e : Scalar × Value}
    (he : e ∈ entries) : entries.lookup e.1 = some e.2 :=
  hdistinct.lookup_of_mem he (h [] entries rfl e he)

theorem Value.Findable.part {entries : List (Scalar × Value)}
    (h : (Value.map entries).Findable) (hdistinct : Distinct entries) {e : Scalar × Value}
    (he : e ∈ entries) : e.2.Findable := by
  intro path inner hwalk
  refine h (e.1 :: path) inner ?_
  rw [walk_map_cons, h.lookup hdistinct he]
  exact hwalk

/-- What has been laid over something once leaves it unchanged the second time. -/
theorem overlay_overlay (hv : v.Nested) (hfind : v.Findable) (base : Value) :
    (base.overlay v).overlay v = base.overlay v := by
  induction hv generalizing base with
  | plain h => rw [overlay_plain h, overlay_plain h]
  | @map upper distinct parts ih =>
    have hagain (lower : List (Scalar × Value)) :
        overlayEntries (overlayEntries lower upper) upper = overlayEntries lower upper := by
      refine overlayEntries_eq_self fun e he => ?_
      have ih := ih e he (hfind.part distinct he)
      rw [lookup_overlayEntries distinct, hfind.lookup distinct he]
      cases lower.lookup e.1 with
      | some old => exact ⟨_, rfl, ih old⟩
      | none =>
        -- over null a value is what it is
        have hself := ih .null
        rw [overlay_of_not_map (by decide : Value.null.kind ≠ .map)] at hself
        exact ⟨_, rfl, hself⟩
    cases base with
    | map lower => exact congrArg Value.map (hagain lower)
    | _ =>
      -- over what is no mapping the upper one stands by itself, as it does over an empty one
      have hself := hagain []
      rw [overlayEntries_nil distinct] at hself
      exact congrArg Value.map hself

/-! ## Merging -/

/-- **What one nested mapping laid over another holds is settled path by path** by how the walk
    ends in the upper one (`Walk.Overlaid`), and laying the same mapping over it again changes
    nothing. -/
theorem merge_pointwise (hlower : (Value.map lower).Nested) (hupper : (Value.map upper).Nested) :
    ∃ merged, merge (.map lower) (.map upper) = .ok (.map merged) ∧
      (∀ path, Walk.Overlaid ((Value.map lower).walk path) ((Value.map upper).walk path)
        ((Value.map merged).walk path)) ∧
      ((Value.map upper).Findable → merge (.map merged) (.map upper) = .ok (.map merged)) := by
  refine ⟨overlayEntries lower upper, rfl, walk_overlay hlower hupper, fun hfind => ?_⟩
  exact congrArg Except.ok (overlay_overlay hupper hfind (.map lower))

/-- Settings with a mapping in the place of a number, and the other way round. -/
def reshapedSettings : List (Scalar × Value) :=
  [(.text "web", .map
      [(.text "max_requests", .map [(.text "soft", .int 5)]), (.text "telemetry_path", .null)]),
   (.text "collector", .int 3)]

theorem nested_reshapedSettings : (Value.map reshapedSettings).Nested := by
  refine .map (by decide) ?_
  simp only [reshapedSettings, List.forall_mem_cons]
  refine ⟨.map (by decide) ?_, .plain (by decide), fun _ he => nomatch he⟩
  simp only [List.forall_mem_cons]
  exact ⟨nested_flat (by decide) (by decide), .plain (by decide), fun _ he => nomatch he⟩

theorem findable_reshapedSettings : (Value.map reshapedSettings).Findable := by
  refine findable_map ?_
  simp only [reshapedSettings, List.forall_mem_cons]
  refine ⟨⟨by decide, findable_map ?_⟩, ⟨by decide, findable_plain (by decide)⟩,
    fun _ he => nomatch he⟩
  simp only [List.forall_mem_cons]
  exact ⟨⟨by decide, findable_flat (by decide)⟩, ⟨by decide, findable_plain (by decide)⟩,
    fun _ he => nomatch he⟩

/-- A path may end deeper than the built-in settings reach, or before they do; of the section that
    stays the other settings are still there. -/
theorem merge_pointwise_reshaped :
    ∃ merged, merge (.map defaults) (.map reshapedSettings) = .ok (.map merged) ∧
      (Value.map merged).walk [.text "web", .text "max_requests", .text "soft"] =
        .plain (.int 5) ∧
      ((Value.map merged).walk [.text "web", .text "listen_addresses"]).found? =
        some (.list [.text ":9100"]) ∧
      (Value.map merged).walk [.text "collector", .text "interval"] = .blocked ∧
      merge (.map merged) (.map reshapedSettings) = .ok (.map merged) := by
  obtain ⟨merged, hmerge, hpath, hagain⟩ :=
    merge_pointwise nested_defaults nested_reshapedSettings
  exact ⟨merged, hmerge, hpath [.text "web", .text "max_requests", .text "soft"],
    hpath [.text "web", .text "listen_addresses"],
    hpath [.text "collector", .text "interval"], hagain findable_reshapedSettings⟩

end Flowmeter.Config
