import Flowmeter.Proofs.Config.Document
import Flowmeter.Proofs.Outcome
import Flowmeter.Yaml.Document
import Mathlib.Data.List.Nodup

/-!
# Mappings of files have distinct keys

A mapping of a file may write a key twice, or take it over from other mappings; what it stands
for has each key once. The nodes of a file are judged one by one, so this is an invariant of
judging: whatever has been settled as a mapping has distinct keys, and no step settles anything
else.

Judging is a computation with a state, and every step of it is put together from a few ways of
computing. So there is one rule for each way (`Judge.Ensures`), and a step is followed by putting
the rules together as the step is. What a rule carries is the invariant of the state and a property
of the value: for most steps the value does not matter, and for entries it is that their keys are
distinct.

Where keys could come out twice is `uniqueEntries`, which goes through the entries with a table
of names. A name is not a key: keys of one value have one name, and a key without a value to be
compared is named by how it is written or by its node. `KeyIdentity.Names` is what ties a name to
a key, and `Told` what the table keeps. -/

set_option autoImplicit false

namespace Flowmeter.Yaml

open Flowmeter.Config Association

/-! ## Entries with their keys told apart

An entry takes the place of an earlier one of its name and keeps the earlier key, so it has to be
seen that the name still belongs to it. -/

/-- Whoever tells keys apart gives keys that are the same one name. -/
def KeyIdentity.Names (identity : KeyIdentity) (key : Scalar) : Prop :=
  ∀ i, key.identity = some i → identity = .value i

/-- A name is the value of the key wherever the key has one. -/
theorem Graph.keyIdentity_names (g : Graph) (n : Nat) (key : Scalar) :
    (g.keyIdentity n key).Names key := by
  intro i hi
  rw [keyIdentity, hi]

section

variable {ν : Type}

/-- Entries under their names, each name once. -/
structure Told (known : List (KeyIdentity × Scalar × ν)) : Prop where
  nodup : (keys known).Nodup
  names : ∀ e ∈ known, e.1.Names e.2.1

/-- Putting an entry into the table leaves it there and adds the entry, under a name that is its
    own. -/
theorem mem_put_names {k : KeyIdentity} {v : Scalar × ν}
    {known : List (KeyIdentity × Scalar × ν)} {e : KeyIdentity × Scalar × ν}
    (h : e ∈ put k v known) : e ∈ known ∨ e = (k, v) := by
  induction known with
  | nil => exact Or.inr (List.mem_singleton.mp h)
  | cons first rest ih =>
    rw [put] at h
    split at h
    case isTrue hk =>
      rcases List.mem_cons.mp h with rfl | h
      · exact Or.inr (by rw [eq_of_beq hk])
      · exact Or.inl (List.mem_cons_of_mem _ h)
    case isFalse =>
      rcases List.mem_cons.mp h with rfl | h
      · exact Or.inl List.mem_cons_self
      · exact (ih h).imp_left (List.mem_cons_of_mem _)

/-- An entry more, whose key is that of an earlier entry of its name if there is one. -/
theorem Told.put {known : List (KeyIdentity × Scalar × ν)} (h : Told known)
    (e : KeyIdentity × Scalar × ν) (he : e.1.Names e.2.1) :
    Told (put e.1 (((known.lookup e.1).map Prod.fst).getD e.2.1, e.2.2) known) := by
  refine ⟨?_, fun d hd => ?_⟩
  · rw [keys_put]
    split
    · exact h.nodup
    · next hnew =>
      refine List.nodup_append.mpr ⟨h.nodup, by simp, fun a ha b hb => ?_⟩
      rw [List.mem_singleton.mp hb]
      exact fun heq => hnew (heq ▸ ha)
  · rcases mem_put_names hd with hd | rfl
    · exact h.names d hd
    · cases hk : known.lookup e.1 with
      | none => exact he
      | some old =>
        -- the key stays that of the earlier entry, and the name is its name already
        obtain ⟨d, hd, hname, rfl⟩ := mem_of_lookup hk
        rw [eq_of_beq hname]
        exact h.names d hd

/-- Names that differ belong to keys that differ: a value of one key would be that of the other,
    and then one name for both. -/
theorem Told.distinct {known : List (KeyIdentity × Scalar × ν)} (h : Told known) :
    Distinct (known.map Prod.snd) := by
  refine List.pairwise_map.mpr ((List.pairwise_map.mp h.nodup).imp_of_mem ?_)
  intro a b ha hb hne
  rw [Bool.eq_false_iff]
  intro hsame
  obtain ⟨i, hai, hbi⟩ := Scalar.same_iff.mp hsame
  exact hne ((h.names a ha i hai).trans (h.names b hb i hbi).symm)

/-- What is left of entries has distinct keys, whatever the entries were. -/
theorem distinct_uniqueEntries {entries : List (KeyIdentity × Scalar × ν)}
    (h : ∀ e ∈ entries, e.1.Names e.2.1) : Distinct (uniqueEntries entries) := by
  rw [uniqueEntries]
  -- by induction on the entries, whatever was told before
  have hfold : ∀ known : List (KeyIdentity × Scalar × ν), Told known →
      Told (entries.foldl (fun known e => Association.put e.1
        (((known.lookup e.1).map Prod.fst).getD e.2.1, e.2.2) known) known) := by
    induction entries with
    | nil => exact fun _ hknown => hknown
    | cons e rest ih =>
      intro known hknown
      exact ih (fun d hd => h d (List.mem_cons_of_mem e hd)) _
        (hknown.put e (h e List.mem_cons_self))
  exact (hfold [] ⟨List.nodup_nil, by simp⟩).distinct

end

/-! ## Judging settles only mappings with distinct keys

The rules. None of them speaks of what a step is for, and a step that is added to judging needs no
new one. -/

/-- A mapping has distinct keys. -/
def Content.Keyed : Content → Prop
  | .map entries => Distinct entries
  | _ => True

/-- All that has been settled so far is keyed. -/
def Judging.Keyed (j : Judging) : Prop :=
  ∀ content, some content ∈ j.contents → content.Keyed

namespace Judge

/-- Whenever judging succeeds, it leaves all that is settled keyed, and gives something of a
    kind. -/
def Ensures {α : Type} (m : Judge α) (Q : α → Prop) : Prop :=
  ∀ j a j', j.Keyed → m.run j = .ok (a, j') → j'.Keyed ∧ Q a

variable {α β : Type} {Q : α → Prop} {R : β → Prop}

theorem Ensures.pure {a : α} (h : Q a) : Ensures (pure a) Q := by
  intro j b j' hj hrun
  cases hrun
  exact ⟨hj, h⟩

theorem Ensures.throw (fault : Fault) : Ensures (throw fault : Judge α) Q := by
  intro j a j' _ hrun
  cases hrun

/-- What the first part gives is what the second may rely on. -/
theorem Ensures.bind {m : Judge α} {f : α → Judge β} (hm : Ensures m Q)
    (hf : ∀ a, Q a → Ensures (f a) R) : Ensures (m >>= f) R := by
  intro j b j'' hj hrun
  rw [StateT.run_bind] at hrun
  cases hfirst : m.run j with
  | error fault => rw [hfirst] at hrun; cases hrun
  | ok next =>
    obtain ⟨a, j'⟩ := next
    rw [hfirst] at hrun
    obtain ⟨hj', ha⟩ := hm j a j' hj hfirst
    exact hf a ha j' b j'' hj' hrun

/-- The state that a step looks at is one of those the invariant holds of. -/
theorem Ensures.get : Ensures get Judging.Keyed := by
  intro j a j' hj hrun
  cases hrun
  exact ⟨hj, hj⟩

theorem Ensures.set {j : Judging} (h : j.Keyed) : Ensures (set j) fun _ => True := by
  intro _ _ _ _ hrun
  cases hrun
  exact ⟨h, trivial⟩

theorem Ensures.modify {f : Judging → Judging} (h : ∀ j, j.Keyed → (f j).Keyed) :
    Ensures (modify f) fun _ => True := by
  intro j _ _ hj hrun
  cases hrun
  exact ⟨h j hj, trivial⟩

theorem Ensures.lift (m : Except Fault α) : Ensures (liftM m : Judge α) fun _ => True := by
  intro j a j' hj hrun
  cases m with
  | error fault => cases hrun
  | ok b => cases hrun; exact ⟨hj, trivial⟩

/-- A rule may be applied for less than it says. -/
theorem Ensures.weaken {m : Judge α} {Q' : α → Prop} (h : Ensures m Q)
    (himp : ∀ a, Q a → Q' a) : Ensures m Q' := by
  intro j a j' hj hrun
  obtain ⟨hj', ha⟩ := h j a j' hj hrun
  exact ⟨hj', himp a ha⟩

/-- Over a list: each value has the property, since each is made from a state that is still
    keyed. -/
theorem Ensures.mapM {f : α → Judge β} {l : List α} (h : ∀ a ∈ l, Ensures (f a) R) :
    Ensures (l.mapM f) fun r => ∀ b ∈ r, R b := by
  induction l with
  | nil => exact .pure (by simp)
  | cons a rest ih =>
    rw [List.mapM_cons]
    refine .bind (h a List.mem_cons_self) fun b hb => ?_
    refine .bind (ih fun d hd => h d (List.mem_cons_of_mem a hd)) fun bs hbs => .pure ?_
    rintro d (_ | ⟨_, hd⟩)
    · exact hb
    · exact hbs d hd

theorem Ensures.forM {f : α → Judge PUnit} {l : List α}
    (h : ∀ a ∈ l, Ensures (f a) fun _ => True) : Ensures (l.forM f) fun _ => True := by
  induction l with
  | nil => exact .pure trivial
  | cons a rest ih =>
    refine .bind (h a List.mem_cons_self) fun _ _ => ?_
    exact ih fun d hd => h d (List.mem_cons_of_mem a hd)

/-! ## What each step settles

One line for each part of a step, in its order. Content is settled in several places, and in one
of them only it is a mapping. -/

/-- What is settled replaces what was there, or nothing if the place is beyond the nodes. -/
theorem ensures_settle (n : Nat) {content : Content} (h : content.Keyed) :
    Ensures (settle n content) fun _ => True := by
  refine .modify fun j hj other hother => ?_
  rcases Array.mem_or_eq_of_mem_setIfInBounds hother with hother | heq
  · exact hj other hother
  · rwa [Option.some.inj heq]

theorem ensures_content (n : Nat) : Ensures (content n) fun _ => True :=
  .bind .get fun _ _ => .pure trivial

theorem ensures_part (n : Nat) : Ensures (part n) fun _ => True := by
  rw [part]
  refine .bind (ensures_content n) fun known _ => ?_
  split
  · refine .bind .get fun j _ => ?_
    dsimp only
    split
    · refine .bind (ensures_settle n trivial) fun _ _ => ?_
      exact .modify fun _ hj => hj
    · exact .bind (.lift _) fun _ _ => ensures_settle n trivial
  · exact .pure trivial

/-- The key of an entry goes together with its name. -/
theorem ensures_key (n : Nat) : Ensures (key n) fun k => k.1.Names k.2 := by
  rw [key]
  refine .bind (ensures_part n) fun _ _ => .bind (ensures_content n) fun known _ => ?_
  split
  · exact .bind .get fun j _ => .pure (j.graph.keyIdentity_names n _)
  · exact .throw _

/-- The entries of a mapping, its own and those it takes over. -/
theorem ensures_entries (n : Nat) : Ensures (entries n) Distinct := by
  rw [entries]
  refine .bind .get fun j hj => ?_
  split
  · refine .bind .get fun j hj => .bind (.lift _) fun merged _ => ?_
    refine .bind (.set hj) fun _ _ => ?_
    refine .bind (R := Distinct) (Q := fun entries => ∀ e ∈ entries, e.1.Names e.2.1) ?_
      fun entries hentries => .pure (distinct_uniqueEntries hentries)
    -- of the pieces an entry is made of, only its key has to be what its name says
    refine .mapM fun e _ => ?_
    exact .bind (ensures_key e.1) fun k hk => .bind (ensures_part e.2) fun _ _ => .pure hk
  · exact .throw _

theorem ensures_pairs (n : Nat) : Ensures (pairs n) fun _ => True := by
  rw [pairs]
  refine .bind .get fun j _ => ?_
  split
  · refine .weaken (.mapM (R := fun _ => True) fun item _ => ?_) fun _ _ => trivial
    refine .bind .get fun j _ => ?_
    split
    · exact .bind (ensures_part _) fun _ _ => .bind (ensures_part _) fun _ _ => .pure trivial
    · exact .throw _
  · exact .throw _

/-- Each kind of collection settles itself when all its parts are known. -/
theorem ensures_collection (n : Nat) : Ensures (collection n) fun _ => True := by
  rw [collection]
  refine .bind .get fun j _ => ?_
  dsimp only
  split
  · exact .bind (.forM fun item _ => ensures_part item) fun _ _ => ensures_settle n trivial
  · exact .bind (ensures_entries n) fun entries hentries => ensures_settle n hentries
  · exact .bind (ensures_entries n) fun _ _ => ensures_settle n trivial
  · exact .bind (ensures_pairs n) fun _ _ => ensures_settle n trivial
  · exact .bind (ensures_pairs n) fun _ _ => ensures_settle n trivial
  · exact .throw _

/-- The places are gone through in turn, with fuel for as many as there are nodes. -/
theorem ensures_collectionsFrom (fuel place : Nat) :
    Ensures (collectionsFrom fuel place) fun _ => True := by
  induction fuel generalizing place with
  | zero => exact .pure trivial
  | succ fuel ih =>
    rw [collectionsFrom]
    refine .bind .get fun j _ => ?_
    split
    · exact .pure trivial
    · exact .bind (ensures_collection _) fun _ _ => ih _

end Judge

/-- From the state in which nothing is settled the rules lead to the one that a document is made
    of. -/
theorem Graph.keyed_contents {g : Graph} {top : Nat} {contents : Array (Option Content)}
    (h : g.contents top = .ok contents) : ∀ content, some content ∈ contents → content.Keyed := by
  have hjudge : Judge.Ensures
      (do Judge.part top; Judge.collectionsFrom (g.size + 1) 0) fun _ => True :=
    .bind (Judge.ensures_part top) fun _ _ => Judge.ensures_collectionsFrom _ _
  have hstart : Judging.Keyed ⟨g, g.mergeKeys, Array.replicate g.size none, #[]⟩ := by
    intro content hcontent
    cases Array.eq_of_mem_replicate hcontent
  rw [Graph.contents] at h
  cases hrun : StateT.run (do Judge.part top; Judge.collectionsFrom (g.size + 1) 0)
      (⟨g, g.mergeKeys, Array.replicate g.size none, #[]⟩ : Judging) with
  | error fault =>
    dsimp only at h
    rw [hrun] at h
    cases h
  | ok next =>
    dsimp only at h
    rw [hrun] at h
    cases h
    exact (hjudge _ _ _ hstart hrun).1

/-! ## Documents

A document is a table of collections, and a value in it that is one stands for its number. So it is
enough to look at what each number stands for. -/

/-- A file without a document has no collections at all. -/
theorem keyed_null : Document.null.Keyed := by
  refine ⟨trivial, fun {v} hv {entries} hlook => ?_⟩
  cases v with
  | scalar s => cases hlook
  | enclosing n => cases hlook
  | _ => cases hv

theorem keyed_documentOf {contents : Array (Option Content)}
    (h : ∀ content, some content ∈ contents → content.Keyed) (top : Nat) :
    (documentOf contents top).Keyed := by
  unfold documentOf
  extract_lets part
  -- a part is a scalar or a number, never a mapping by itself
  have hparts : ∀ n, (part n).IsPart := by
    intro n
    dsimp only [part]
    split <;> trivial
  refine ⟨hparts top, fun {v} hv {entries} hlook => ?_⟩
  cases v with
  | scalar s => cases hlook
  | enclosing n =>
    -- the collection of that number is what some settled content stands for
    rw [Document.look, Array.getD_eq_getD_getElem?, Array.getElem?_map] at hlook
    cases hn : contents[n]? with
    | none => rw [hn] at hlook; cases hlook
    | some content =>
      rw [hn, Option.map_some, Option.getD_some] at hlook
      cases content with
      | none => cases hlook
      | some content =>
        have hkeyed := h content (Array.mem_of_getElem? hn)
        cases content with
        | map inner =>
          cases hlook
          refine ⟨hkeyed.mapValues _, fun e he => ?_⟩
          obtain ⟨d, -, rfl⟩ := List.mem_map.mp he
          exact hparts d.2
        | _ => cases hlook
  | _ => cases hv

/-- **What is read from a file has distinct keys** in all its mappings. -/
theorem keyed_read {bytes : List UInt8} {document : Document}
    (h : read bytes = .ok document) : document.Keyed := by
  rw [read] at h
  obtain ⟨⟨g, top⟩, -, h⟩ := Outcome.bind_eq_ok.mp h
  cases top with
  | none =>
    cases h
    exact keyed_null
  | some top =>
    obtain ⟨contents, hcontents, h⟩ := Outcome.bind_eq_ok.mp h
    cases h
    exact keyed_documentOf (g.keyed_contents hcontents) top

end Flowmeter.Yaml
