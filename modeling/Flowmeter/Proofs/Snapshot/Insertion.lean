import Flowmeter.Proofs.Snapshot.Survey

/-!
# One more line in a table

A line put in among the lines of a table can do no more than its own flow does: what a snapshot
shows is a sum over the flows, so it makes no difference where they stand, and one more flow
touches one key. A line that describes nothing changes nothing. All this holds of the lines that
can be read; one with a counter too long refuses the whole table, whatever else stands in it.

Where the line is put decides the order of the keys, and only of keys that are new. So what is said
of the larger snapshot is said key by key, with `get?`, and the order is left out of it. With that
the flows may stand in any order, and the new one is taken to be the last, where the snapshot of the
rest has been counted before it.

What has to be read is the line and nothing but the line: `Inserted` splits the lines of a text and
says nothing of the text itself. That a text can be extended so at any line end is shown beside it.
-/

set_option autoImplicit false

namespace Flowmeter

open Flowmeter.Text Flowmeter.Decimal

/-! ## Sums in another order

A sum does not see the order of its flows, and a key is there if one of its flows is. -/

/-- Counters that show the same under all four names are the same. -/
theorem Counters.ext_get {v w : Counters} (h : ∀ c, v.get c = w.get c) : v = w := by
  have hsentPackets := h .sentPackets
  have hsentBytes := h .sentBytes
  have hreceivedPackets := h .receivedPackets
  have hreceivedBytes := h .receivedBytes
  cases v
  cases w
  simp only [Counters.get] at hsentPackets hsentBytes hreceivedPackets hreceivedBytes
  simp only [hsentPackets, hsentBytes, hreceivedPackets, hreceivedBytes]

namespace Snapshot

/-- Two snapshots hold the same under a key if it is in both or neither and shows the same. -/
theorem get?_congr {snapshot other : Snapshot} {key : Key}
    (hkey : key ∈ snapshot.keys ↔ key ∈ other.keys)
    (hvalue : ∀ c, snapshot.value key c = other.value key c) :
    snapshot.get? key = other.get? key := by
  by_cases h : key ∈ snapshot.keys
  · have hshown : snapshot.getD key Counters.zero = other.getD key Counters.zero :=
      Counters.ext_get hvalue
    rw [Table.get?_eq_some_getD h Counters.zero,
      Table.get?_eq_some_getD (hkey.mp h) Counters.zero, hshown]
  · rw [Table.get?_eq_none_iff.mpr h, Table.get?_eq_none_iff.mpr (mt hkey.mpr h)]

/-- What is held under a key is the same in any order of the flows. -/
theorem get?_ofFlows_perm {flows flows' : List Flow} (h : flows.Perm flows') (key : Key) :
    (ofFlows flows).get? key = (ofFlows flows').get? key := by
  refine get?_congr ?_ fun c => ?_
  · rw [mem_keys_ofFlows, mem_keys_ofFlows]
    exact exists_congr fun flow => and_congr_left fun _ => h.mem_iff
  · rw [value_ofFlows, value_ofFlows, sumOf_perm key c h]

theorem get?_count (snapshot : Snapshot) (flow : Flow) (key : Key) :
    (snapshot.count flow).get? key =
      if key = flow.key then some (snapshot.getD flow.key Counters.zero + flow.counters)
      else snapshot.get? key := by
  unfold count
  by_cases h : key = flow.key
  · rw [if_pos h, h, Table.get?_put_self]
  · rw [if_neg h, Table.get?_put_of_ne snapshot h]

end Snapshot

namespace Survey

/-! ## Lines put in

Three facts on a text with one more line: it can be read if both can, it describes the same flows if
the line describes none, and else it describes one more. -/

/-- A text that has the lines of another one and among them one more. -/
def Inserted (text extended : String) (cs : List Char) : Prop :=
  ∃ before after, lines text.toList = before ++ after ∧
    lines extended.toList = before ++ cs :: after

/-- A line put in where a line has ended, with a line feed behind it. -/
theorem inserted_of_between {front back cs : List Char} (hcs : cs.any isLineBreak = false)
    (hback : Between front back) (hline : Between front (cs ++ '\n' :: back)) :
    Inserted (String.ofList (front ++ back))
      (String.ofList (front ++ (cs ++ '\n' :: back))) cs := by
  refine ⟨lines front, lines back, ?_, ?_⟩
  · rw [String.toList_ofList, lines_append hback]
  · rw [String.toList_ofList, lines_append hline, ← List.singleton_append, ← List.append_assoc,
      lines_append (between_feed cs back), lines_ended hcs, List.singleton_append]

variable {text extended : String} {cs : List Char}

theorem Inserted.readable_iff (h : Inserted text extended cs) :
    Readable extended ↔ Readable text ∧ (Line.ofText cs).Readable := by
  obtain ⟨before, after, htext, hextended⟩ := h
  unfold Readable
  rw [htext, hextended, List.forall_mem_append, List.forall_mem_append, List.forall_mem_cons]
  tauto

theorem Inserted.flows_of_none (h : Inserted text extended cs)
    (hnone : (Line.ofText cs).accepted? = none) : flows extended = flows text := by
  obtain ⟨before, after, htext, hextended⟩ := h
  unfold flows
  rw [htext, hextended, List.filterMap_append, List.filterMap_append,
    List.filterMap_cons_none (f := fun cs => (Line.ofText cs).accepted?) hnone]

/-- The flow stands where its line does; up to the order it stands last. -/
theorem Inserted.flows_of_some (h : Inserted text extended cs) {flow : Flow}
    (hsome : (Line.ofText cs).accepted? = some flow) :
    (flows extended).Perm (flows text ++ [flow]) := by
  obtain ⟨before, after, htext, hextended⟩ := h
  unfold flows
  rw [htext, hextended, List.filterMap_append, List.filterMap_append,
    List.filterMap_cons_some (f := fun cs => (Line.ofText cs).accepted?) hsome,
    List.append_assoc]
  exact (List.perm_append_singleton flow _).symm.append_left _

/-! ## Lines that are refused

Reading stops at the first line that is refused, and here only one is. -/

/-- The first line that is refused decides how the reading fails. -/
theorem mapM_read_eq_error {before after : List Line} {line : Line}
    {fault : Line.OversizedCounter} (hbefore : ∀ l ∈ before, l.Readable)
    (hline : line.read = .error fault) :
    (before ++ line :: after).mapM Line.read = .error fault := by
  induction before with
  | nil =>
    rw [List.nil_append, List.mapM_cons, hline]
    rfl
  | cons other rest ih =>
    obtain ⟨hother, hrest⟩ := List.forall_mem_cons.mp hbefore
    rw [List.cons_append, List.mapM_cons, Line.read_of_readable hother, ih hrest]
    rfl

theorem Inserted.ofText_eq_error (h : Inserted text extended cs) (htext : Readable text)
    {fault : Line.OversizedCounter} (hline : (Line.ofText cs).read = .error fault) :
    ofText extended = .error fault := by
  obtain ⟨before, after, hsplit, hextended⟩ := h
  -- blank lines are passed over, but they are never refused
  have hcounts : (!(Line.ofText cs).isEmpty) = true := by
    cases hwords : Line.ofText cs with
    | nil =>
      rw [hwords] at hline
      cases hline
    | cons token rest => rfl
  have hbefore : ∀ l ∈ (before.map Line.ofText).filter (fun line => !line.isEmpty),
      l.Readable := by
    intro l hl
    obtain ⟨ds, hds, rfl⟩ := List.mem_map.mp (List.mem_filter.mp hl).1
    exact htext ds (by rw [hsplit]; exact List.mem_append_left after hds)
  rw [ofText, records, hextended, List.map_append, List.map_cons, List.filter_append,
    List.filter_cons_of_pos (p := fun line : Line => !line.isEmpty) hcounts,
    mapM_read_eq_error hbefore hline]
  rfl

/-- A text that has a snapshot has been read whole. -/
theorem readable_of_ofText {snapshot : Snapshot} (h : Snapshot.ofText text = .ok snapshot) :
    Readable text := by
  by_contra hno
  obtain ⟨fault, hfault⟩ := ofText_of_not_readable hno
  rw [Snapshot.ofText, hfault] at h
  cases h

theorem ofText_packetsToken (digits : Nat) :
    Line.ofText (packetsToken digits) = [packetsToken digits] :=
  words_eq_singleton (by simp [packetsToken]) (any_packetsToken (by decide) (by decide))

/-- The token alone is a line, and its only counter is too long. -/
theorem read_packetsToken {digits : Nat} (h : 4300 < digits) :
    (Line.ofText (packetsToken digits)).read = .error ⟨digits⟩ := by
  have hdigit : isAsciiDigit '9' = true := by decide
  have hoversized : oversizedCounter? (List.replicate digits '9') = some digits := by
    have hne : digits ≠ 0 := by omega
    have hlimit : digitLimit < digits := h
    simp [oversizedCounter?, isCounterNumeral, hdigit, hne, hlimit]
  rw [ofText_packetsToken, Line.read, Line.oversized?, List.findSome?_cons, pair?_packetsToken]
  simp only [Field.isCounter, if_true, hoversized, Option.map_some]

end Survey

namespace Snapshot

/-- **One more line changes no more than its own key.** Put a line in among those of a table that
    has a snapshot. If the line describes nothing, the snapshot stays the same; if it describes a
    flow, the snapshot grows by its counters under its key and holds the same under every other.
    Only a line that is refused refuses the table, and of all lines these are the ones with a
    counter of more than 4300 digits. -/
theorem ofText_inserted (text extended : String) (cs : List Char)
    (hins : Survey.Inserted text extended cs) (snapshot : Snapshot)
    (htext : ofText text = .ok snapshot) :
    (∀ line : Line, line.Readable ↔ ∃ flow?, line.read = .ok flow?) ∧
    ((Line.ofText cs).read = .ok none → ofText extended = .ok snapshot) ∧
    (∀ flow, (Line.ofText cs).read = .ok (some flow) →
      ∃ grown, ofText extended = .ok grown ∧ ∀ key, grown.get? key =
        if key = flow.key then some (snapshot.getD flow.key Counters.zero + flow.counters)
        else snapshot.get? key) ∧
    (∀ fault, (Line.ofText cs).read = .error fault →
      ofText extended = .error (.oversizedCounter fault)) := by
  have hreadable := Survey.readable_of_ofText htext
  have haccepted : ∀ {flow?}, (Line.ofText cs).read = .ok flow? →
      (Line.ofText cs).accepted? = flow? := fun h => by rw [Line.accepted?, h]
  have hextended : ∀ {flow?}, (Line.ofText cs).read = .ok flow? → Survey.Readable extended :=
    fun h => hins.readable_iff.mpr ⟨hreadable, Line.readable_iff_read.mpr ⟨_, h⟩⟩
  rw [Survey.snapshot_of_readable hreadable] at htext
  have hsome : Survey.flows text ≠ [] := fun hnone => by
    rw [if_pos hnone] at htext
    cases htext
  rw [if_neg hsome] at htext
  refine ⟨fun line => Line.readable_iff_read, fun h => ?nothing, fun flow h => ?flow,
    fun fault h => ?refused⟩
  case nothing =>
    rw [Survey.snapshot_of_readable (hextended h), hins.flows_of_none (haccepted h),
      if_neg hsome]
    exact htext
  case flow =>
    -- the new flow may as well stand last, where it is counted in by one step
    have hperm := hins.flows_of_some (haccepted h)
    have hflows : Survey.flows extended ≠ [] := fun hnone => by
      rw [hnone] at hperm
      simp at hperm
    refine ⟨ofFlows (Survey.flows extended), ?_, fun key => ?_⟩
    · rw [Survey.snapshot_of_readable (hextended h), if_neg hflows]
    · rw [get?_ofFlows_perm hperm, ofFlows_snoc, get?_count, Except.ok.inj htext]
  case refused =>
    rw [ofText, hins.ofText_eq_error hreadable h]

theorem ofText_inserted_sameKey :
    let text := "ipv4 2 tcp src=a dst=b packets=1\nipv4 2 tcp src=a dst=c packets=2"
    let line := "ipv4 2 tcp src=a dst=b packets=10"
    let extended := "ipv4 2 tcp src=a dst=b packets=1\n" ++ line ++
      "\r\nipv4 2 tcp src=a dst=c packets=2"
    Survey.Inserted text extended line.toList ∧
      ∃ snapshot grown, ofText text = .ok snapshot ∧ ofText extended = .ok grown ∧
        (snapshot.get? ⟨"a", "b", "ipv4", "tcp", "0", "na"⟩).map Counters.sentPackets = some 1 ∧
        (grown.get? ⟨"a", "b", "ipv4", "tcp", "0", "na"⟩).map Counters.sentPackets = some 11 ∧
        grown.get? ⟨"a", "c", "ipv4", "tcp", "0", "na"⟩ =
          snapshot.get? ⟨"a", "c", "ipv4", "tcp", "0", "na"⟩ := by
  intro text line extended
  have hins : Survey.Inserted text extended line.toList :=
    ⟨["ipv4 2 tcp src=a dst=b packets=1".toList], ["ipv4 2 tcp src=a dst=c packets=2".toList],
      by decide +kernel, by decide +kernel⟩
  have hreadable : Survey.Readable text := by decide +kernel
  have hflows : Survey.flows text =
      [⟨"ipv4", "tcp", ⟨"a", "b", "", ""⟩, ⟨"", "", "", ""⟩, ⟨1, 0⟩, ⟨0, 0⟩⟩,
        ⟨"ipv4", "tcp", ⟨"a", "c", "", ""⟩, ⟨"", "", "", ""⟩, ⟨2, 0⟩, ⟨0, 0⟩⟩] := by
    decide +kernel
  have hread : (Line.ofText line.toList).read =
      .ok (some ⟨"ipv4", "tcp", ⟨"a", "b", "", ""⟩, ⟨"", "", "", ""⟩, ⟨10, 0⟩, ⟨0, 0⟩⟩) := by
    decide +kernel
  have htext := Survey.snapshot_of_readable hreadable
  rw [hflows, if_neg (List.cons_ne_nil _ _)] at htext
  obtain ⟨-, -, hflow, -⟩ := ofText_inserted text extended line.toList hins _ htext
  obtain ⟨grown, hgrown, hget⟩ := hflow _ hread
  refine ⟨hins, _, grown, htext, hgrown, by decide +kernel, ?_, ?_⟩
  · rw [hget]
    decide +kernel
  · rw [hget]
    decide +kernel

/-- A table of one connection, given twice. -/
def connectionTwice : String :=
  String.ofList (Survey.connectionFront ++ ['\n'] ++ Survey.connectionFront)

/-- The same table with a line put in between. -/
def connectionTwiceAround (line : List Char) : String :=
  String.ofList (Survey.connectionFront ++ ['\n'] ++ (line ++ '\n' :: Survey.connectionFront))

theorem inserted_packetsToken (digits : Nat) : Survey.Inserted connectionTwice
    (connectionTwiceAround (Survey.packetsToken digits)) (Survey.packetsToken digits) :=
  Survey.inserted_of_between (Survey.any_packetsToken (by decide) (by decide))
    (between_feed _ _) (between_feed _ _)

theorem flow?_packetsToken (digits : Nat) :
    (Line.ofText (Survey.packetsToken digits)).flow? = none := by
  rw [Survey.ofText_packetsToken, Line.flow?_eq, Line.text, Line.values, List.filterMap_cons,
    Survey.pair?_packetsToken]
  simp

theorem ofText_connectionTwice :
    ofText connectionTwice = .ok (ofFlows (Survey.flows connectionTwice)) := by
  have hreadable : Survey.Readable connectionTwice := by decide +kernel
  have hflows : Survey.flows connectionTwice ≠ [] := by decide +kernel
  rw [Survey.snapshot_of_readable hreadable, if_neg hflows]

theorem ofText_around_packetsToken {digits : Nat} (h : 4300 < digits) :
    ofText (connectionTwiceAround (Survey.packetsToken digits)) =
      .error (.oversizedCounter ⟨digits⟩) := by
  have hreadable := Survey.readable_of_ofText ofText_connectionTwice
  rw [ofText, (inserted_packetsToken digits).ofText_eq_error hreadable
    (Survey.read_packetsToken h)]

/-- A line that is nothing but a counter describes no flow, and still refuses its table. -/
theorem ofText_inserted_refused :
    Survey.Inserted connectionTwice (connectionTwiceAround (Survey.packetsToken 4301))
      (Survey.packetsToken 4301) ∧
    ofText connectionTwice = .ok (ofFlows (Survey.flows connectionTwice)) ∧
    (Line.ofText (Survey.packetsToken 4301)).flow? = none ∧
    ofText (connectionTwiceAround (Survey.packetsToken 4301)) =
      .error (.oversizedCounter ⟨4301⟩) :=
  ⟨inserted_packetsToken 4301, ofText_connectionTwice, flow?_packetsToken 4301,
    ofText_around_packetsToken (by omega)⟩

end Snapshot

end Flowmeter
