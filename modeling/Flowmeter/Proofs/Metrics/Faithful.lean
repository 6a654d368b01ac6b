import Flowmeter.Proofs.Metrics.Reader
import Flowmeter.Proofs.Metrics.Scrape

/-!
# The published series are what a scraper reads

A key is six texts, and a client of the network may have a hand in each of them. Still a reader
finds in every family the keys of the table it shows, in their order, each once and with its own
value, and in no family anything else.

The work is done in two halves that know nothing of each other. That families are read as they are
(`read?_text`) is a matter of characters and holds for any families with plain names. What is added
here is about these nine families: that their names differ, for any subsystem, so that the samples
of a name are those of one family (`series_flatMap`), and that the labels of a sample stand for one
key (`Key.ofLabels?_sortLabels`).

Names differ because what follows the subsystem begins with an underscore and differs. Making a name
safe puts underscores for other characters and might make two names one; it does not here, since it
works character by character and leaves the endings alone (`safeName_append`).

That distinct keys have distinct labels needs no argument about escapes or order: labels can be
turned back into the key, so the map from keys to labels is injective.
-/

set_option autoImplicit false

namespace Flowmeter

open Decimal

namespace Exposition

/-! ## Series by name

The samples of a family stand together in the text, but a reader is not told so: it looks them up by
their name. That gives back the family only because no other has the name. -/

def Entry.sampleOf? (name : String) : Entry → Option (List (String × String) × String)
  | .sample n labels value => if n = name then some (labels, value) else none
  | _ => none

/-- The samples of a name, wherever they stand. -/
def series (entries : List Entry) (name : String) : List (List (String × String) × String) :=
  entries.filterMap (Entry.sampleOf? name)

/-- A sample as it is read: its labels in order of their names, and the text of its value. -/
def readSample (sample : Sample) : List (String × String) × String :=
  (sortLabels sample.labels, valueText sample.value)

theorem series_append (entries others : List Entry) (name : String) :
    series (entries ++ others) name = series entries name ++ series others name :=
  List.filterMap_append

/-- The samples of a family have its name and are in it in their order. -/
theorem series_shown_self (family : Family) :
    series (shown family) (Family.sampleName family) = family.samples.map readSample := by
  have hsample : ∀ sample, (shownSample family sample).sampleOf? (Family.sampleName family) =
      some (readSample sample) := fun sample => if_pos rfl
  show (family.samples.map (shownSample family)).filterMap _ = _
  rw [List.filterMap_map, ← List.filterMap_eq_map]
  congr 1
  funext sample
  exact hsample sample

theorem series_shown_of_ne {family : Family} {name : String}
    (h : Family.sampleName family ≠ name) : series (shown family) name = [] := by
  show (family.samples.map (shownSample family)).filterMap _ = _
  refine List.filterMap_eq_nil_iff.mpr ?_
  intro entry hentry
  obtain ⟨sample, -, rfl⟩ := List.mem_map.mp hentry
  exact if_neg h

theorem series_flatMap_of_not_mem {families : List Family} {name : String}
    (h : name ∉ families.map Family.sampleName) :
    series (families.flatMap shown) name = [] := by
  induction families with
  | nil => rfl
  | cons family rest ih =>
    rw [List.map_cons, List.mem_cons, not_or] at h
    rw [List.flatMap_cons, series_append, series_shown_of_ne (Ne.symm h.1), ih h.2,
      List.append_nil]

/-- Where no two families have one name, the samples of a name are those of one family. -/
theorem series_flatMap {families : List Family}
    (hnodup : (families.map Family.sampleName).Nodup) {family : Family}
    (h : family ∈ families) :
    series (families.flatMap shown) (Family.sampleName family) =
      family.samples.map readSample := by
  induction families with
  | nil => cases h
  | cons first rest ih =>
    obtain ⟨hfirst, hrest⟩ := List.nodup_cons.mp hnodup
    rw [List.flatMap_cons, series_append]
    rcases List.mem_cons.mp h with rfl | hmem
    · rw [series_shown_self, series_flatMap_of_not_mem hfirst, List.append_nil]
    · have hne : Family.sampleName first ≠ Family.sampleName family := by
        intro heq
        rw [heq] at hfirst
        exact hfirst (List.mem_map_of_mem hmem)
      rw [series_shown_of_ne hne, ih hrest hmem, List.nil_append]

/-! ## Names made safe

Only the first character of a name has a rule of its own, for it must not be a digit. So a name is
made safe in two parts, and what follows the subsystem is no first character unless the subsystem is
empty. -/

/-- A name that is safe already stays as it is. -/
theorem map_keep {cs : List Char} (h : IsName cs) :
    cs.map (fun c => if isNameChar false c = true then c else '_') = cs := by
  induction cs with
  | nil => rfl
  | cons c cs ih =>
    obtain ⟨hc, hcs⟩ := List.forall_mem_cons.mp h
    rw [List.map_cons, if_pos hc, ih hcs]

/-- A name that goes on with an underscore is made safe before it. -/
theorem safeName_append {s t : String} (ht : IsName t.toList) (hhead : t.toList.head? = some '_') :
    safeName (s ++ t) = safeName s ++ t := by
  obtain ⟨rest, hrest⟩ := List.head?_eq_some_iff.mp hhead
  have hkept := map_keep ht
  unfold safeName
  rw [String.toList_append]
  -- where there is nothing in front, the underscore is the first character and still safe
  cases hs : s.toList with
  | nil =>
    have htail : IsName rest := fun c hc => ht c (by rw [hrest]; exact List.mem_cons_of_mem _ hc)
    rw [List.nil_append, String.empty_append, ← String.toList_inj, hrest]
    dsimp only
    rw [String.toList_ofList, map_keep htail]
    rfl
  | cons c cs =>
    rw [List.cons_append, ← String.toList_inj, String.toList_append]
    dsimp only
    rw [String.toList_ofList, String.toList_ofList, List.map_append, hkept]
    rfl

end Exposition

namespace Key

/-! ## Labels and the key they stand for

The labels are laid out in the order of their names and not in that of the fields. This is a fixed
rearrangement of six pairs, since the names are the same for every key, so it can be written out and
undone by name. -/

/-- In order of their names, each label has the field of the key that it is named for. -/
theorem sortLabels_labels (key : Key) : Exposition.sortLabels key.labels =
    [("dport", key.port), ("dst", key.destination), ("l3protocol", key.network),
     ("l4protocol", key.transport), ("l7protocol", key.service), ("src", key.source)] := by
  rw [labels_eq]
  simp +decide only [Exposition.sortLabels, Exposition.insertLabel, List.foldr_cons,
    List.foldr_nil, if_true, if_false]

theorem named_labels (key : Key) : Exposition.Named key.labels := by
  have hnames : ∀ name ∈ labelNames, Exposition.IsName name.toList := by decide
  intro label hlabel
  exact hnames label.1 (List.of_mem_zip hlabel).1

/-- The key that labels stand for, each in the place that its name gives it. -/
def ofLabels? : List (String × String) → Option Key
  | [("dport", port), ("dst", destination), ("l3protocol", network), ("l4protocol", transport),
     ("l7protocol", service), ("src", source)] =>
      some ⟨source, destination, network, transport, port, service⟩
  | _ => none

theorem ofLabels?_sortLabels (key : Key) :
    ofLabels? (Exposition.sortLabels key.labels) = some key := by
  rw [sortLabels_labels]
  rfl

end Key

namespace Published

open Exposition

/-! ## The nine families

Four gauges, the connections and four totals. What is said of them below holds for each counter by
the same words, so the families are gone through as three kinds and not as nine. -/

/-- The state has no value beyond the doubles. -/
structure WithinDoubles (published : Published) : Prop where
  gauges : ∀ c key v, published.snapshot.get? key = some v →
    (v.get c).natAbs < Magnitude.leastBeyond
  connections : ∀ key n, published.connections.get? key = some n → n < Magnitude.leastBeyond
  totals : ∀ c key v, published.totals.get? key = some v →
    (v.get c).natAbs < Magnitude.leastBeyond

variable (published : Published) (subsystem : String)

theorem named_samplesOf (table : Table Key Counters) (c : Counter) :
    ∀ sample ∈ samplesOf table c, Named sample.labels :=
  List.forall_mem_map.mpr fun e _ => e.1.named_labels

theorem feed_not_mem_describe (c : Counter) : '\n' ∉ c.describe.toList := by
  cases c <;>
  · rw [Counter.describe, String.toList_ofList]
    decide

/-- What is said of a family is fixed, and no line feed is in it. What its labels are called is
    fixed too. -/
theorem legible_families : ∀ family ∈ published.families subsystem, Legible family := by
  have hgauge : ∀ c : Counter,
      '\n' ∉ ("Number of " ++ c.describe ++ " for the aggregated conntrack key.").toList := by
    intro c
    rw [String.toList_append, String.toList_append, List.mem_append, List.mem_append, not_or,
      not_or]
    exact ⟨⟨by decide, feed_not_mem_describe c⟩, by decide⟩
  have hconnections :
      '\n' ∉ "Total number of aggregated conntrack keys observed since exporter start.".toList := by
    rw [String.toList_ofList]
    decide
  have htotal : ∀ c : Counter, '\n' ∉ ("Monotonic total of " ++ c.describe ++
      ", accumulated by deltas between snapshots.").toList := by
    intro c
    rw [String.toList_append, String.toList_append, List.mem_append, List.mem_append, not_or,
      not_or]
    exact ⟨⟨by decide, feed_not_mem_describe c⟩, by decide⟩
  -- the three kinds of families in turn: what is said of each, and the names of its labels
  unfold families
  rw [List.forall_mem_append, List.forall_mem_cons, List.forall_mem_map, List.forall_mem_map]
  refine ⟨?gauges, ?connections, ?totals⟩
  case gauges => exact fun c _ => ⟨hgauge c, named_samplesOf published.snapshot c⟩
  case connections => exact ⟨hconnections, List.forall_mem_map.mpr fun e _ => e.1.named_labels⟩
  case totals => exact fun c _ => ⟨htotal c, named_samplesOf published.totals c⟩

/-! ### Their names -/

/-- What the names of the families have after that of the subsystem. -/
def suffixes : List String :=
  Counter.all.map (fun c => "_" ++ c.stem) ++
    "_total_connections_total" :: Counter.all.map (fun c => "_total_" ++ c.stem ++ "_total")

theorem sampleName_gauge (c : Counter) : Family.sampleName (published.gauge subsystem c) =
    safeName subsystem ++ ("_" ++ c.stem) := by
  show safeName (subsystem ++ "_" ++ c.stem) = _
  rw [String.append_assoc]
  cases c <;> exact safeName_append (by decide) rfl

theorem sampleName_connectionFamily : Family.sampleName (published.connectionFamily subsystem) =
    safeName subsystem ++ "_total_connections_total" := by
  show safeName (subsystem ++ "_total_connections" ++ "_total") = _
  rw [String.append_assoc]
  exact safeName_append (by decide) rfl

/-- Counters that are totals already are called totals once more, as the format asks. -/
theorem sampleName_totalFamily (c : Counter) :
    Family.sampleName (published.totalFamily subsystem c) =
      safeName subsystem ++ ("_total_" ++ c.stem ++ "_total") := by
  show safeName (subsystem ++ "_total_" ++ c.stem ++ "_total") = _
  have hname : subsystem ++ "_total_" ++ c.stem ++ "_total" =
      subsystem ++ ("_total_" ++ c.stem ++ "_total") := by
    simp only [String.append_assoc]
  rw [hname]
  cases c <;> exact safeName_append (by decide) rfl

theorem map_sampleName_families : (published.families subsystem).map Family.sampleName =
    suffixes.map (safeName subsystem ++ ·) := by
  unfold families suffixes
  simp only [List.map_append, List.map_cons, List.map_map]
  congr 1
  · exact List.map_congr_left fun c _ => published.sampleName_gauge subsystem c
  · congr 1
    · exact published.sampleName_connectionFamily subsystem
    · exact List.map_congr_left fun c _ => published.sampleName_totalFamily subsystem c

/-- No two of the nine families have one name, whatever the subsystem is. -/
theorem nodup_sampleNames :
    ((published.families subsystem).map Family.sampleName).Nodup := by
  -- the subsystem is the same in all nine, so only the endings matter
  have hsuffixes : suffixes.Nodup := by decide
  rw [map_sampleName_families]
  refine hsuffixes.map ?_
  intro s t heq
  rw [← String.toList_inj, String.toList_append, String.toList_append] at heq
  exact String.toList_inj.mp (List.append_cancel_left heq)

/-! ### Their samples

The three kinds of families show tables of two types, of counters and of numbers. Both are read by
one lemma that takes the number of an entry as a function. -/

/-- The samples of a name, each with the key that its labels stand for. -/
def keyed (entries : List Entry) (name : String) : List (Option Key × Option String) :=
  (series entries name).map fun sample => (Key.ofLabels? sample.1, some sample.2)

theorem valueText?_eq {value : Int} (h : value.natAbs < Magnitude.leastBeyond) :
    valueText? value = some (valueText value) := by
  obtain ⟨text, htext⟩ := Option.isSome_iff_exists.mp (isSome_valueText?_iff.mpr h)
  unfold valueText
  rw [htext]
  rfl

/-- The samples of a table give back its keys, each with its own value. -/
theorem map_readSample_entries {ν : Type} (table : Table Key ν) (value : ν → Int)
    (h : ∀ key v, table.get? key = some v → (value v).natAbs < Magnitude.leastBeyond) :
    ((table.entries.map fun e => (⟨e.1.labels, value e.2⟩ : Sample)).map readSample).map
        (fun sample => (Key.ofLabels? sample.1, some sample.2)) =
      table.entries.map fun e => (some e.1, valueText? (value e.2)) := by
  rw [List.map_map, List.map_map]
  refine List.map_congr_left fun e he => ?_
  have hvalue := valueText?_eq (h e.1 e.2 (Table.mem_entries_iff.mp he))
  simp only [Function.comp_apply, readSample, Key.ofLabels?_sortLabels, hvalue]

/-- No two samples of a table have the same labels. -/
theorem nodup_labels {ν : Type} (table : Table Key ν) (value : ν → Int) :
    (((table.entries.map fun e => (⟨e.1.labels, value e.2⟩ : Sample)).map readSample).map
      Prod.fst).Nodup := by
  have hkeys : (((table.entries.map fun e => (⟨e.1.labels, value e.2⟩ : Sample)).map
      readSample).map Prod.fst).map Key.ofLabels? = table.keys.map some := by
    rw [Table.keys, Association.keys]
    simp only [List.map_map]
    refine List.map_congr_left fun e _ => ?_
    simp only [Function.comp_apply, readSample, Key.ofLabels?_sortLabels]
  -- labels that stood twice would be one key twice in the table
  refine List.Nodup.of_map Key.ofLabels? ?_
  rw [hkeys]
  exact table.keys_nodup.map (Option.some_injective Key)

theorem gauge_mem (c : Counter) : published.gauge subsystem c ∈ published.families subsystem :=
  List.mem_append_left _ (List.mem_map_of_mem c.mem_all)

theorem connectionFamily_mem :
    published.connectionFamily subsystem ∈ published.families subsystem :=
  List.mem_append_right _ (List.mem_cons_self ..)

theorem totalFamily_mem (c : Counter) :
    published.totalFamily subsystem c ∈ published.families subsystem :=
  List.mem_append_right _ (List.mem_cons_of_mem _ (List.mem_map_of_mem c.mem_all))

theorem nodup_labels_of_mem {family : Family} (h : family ∈ published.families subsystem) :
    ((family.samples.map readSample).map Prod.fst).Nodup := by
  unfold families at h
  rcases List.mem_append.mp h with hgauge | hcounter
  · obtain ⟨c, -, rfl⟩ := List.mem_map.mp hgauge
    exact nodup_labels published.snapshot (·.get c)
  · rcases List.mem_cons.mp hcounter with rfl | htotal
    · exact nodup_labels published.connections (fun n : Nat => (n : Int))
    · obtain ⟨c, -, rfl⟩ := List.mem_map.mp htotal
      exact nodup_labels published.totals (·.get c)

/-- **A scraper reads what is published, and nothing else.** Whatever the texts of the keys, each
    family gives back the keys of its table in order, with the text of each key's own value. No
    labels stand twice in a family, and no sample has another name than those of the families. -/
theorem scrape_reads_back (h : published.WithinDoubles) :
    ∃ text entries, published.scrape? subsystem = some text ∧ read? text = some entries ∧
      (∀ c, keyed entries (Family.sampleName (published.gauge subsystem c)) =
        published.snapshot.entries.map fun e => (some e.1, valueText? (e.2.get c))) ∧
      keyed entries (Family.sampleName (published.connectionFamily subsystem)) =
        published.connections.entries.map (fun e => (some e.1, valueText? e.2)) ∧
      (∀ c, keyed entries (Family.sampleName (published.totalFamily subsystem c)) =
        published.totals.entries.map fun e => (some e.1, valueText? (e.2.get c))) ∧
      (∀ name, ((series entries name).map Prod.fst).Nodup) ∧
      ∀ name, name ∉ (published.families subsystem).map Family.sampleName →
        series entries name = [] := by
  have hsome : (published.scrape? subsystem).isSome = true :=
    isSome_scrape?_iff.mpr ⟨h.gauges, h.connections, h.totals⟩
  obtain ⟨text, htext⟩ := Option.isSome_iff_exists.mp hsome
  -- a name belongs to one family, so its samples are all that is read under it
  have hseries : ∀ family ∈ published.families subsystem,
      series ((published.families subsystem).flatMap shown) (Family.sampleName family) =
        family.samples.map readSample := fun family hfamily =>
    series_flatMap (published.nodup_sampleNames subsystem) hfamily
  refine ⟨text, (published.families subsystem).flatMap shown, htext,
    read?_text (published.legible_families subsystem) htext, ?gauges, ?connections, ?totals,
    ?distinct, fun name hname => series_flatMap_of_not_mem hname⟩
  case gauges =>
    intro c
    unfold keyed
    rw [hseries _ (published.gauge_mem subsystem c)]
    exact map_readSample_entries published.snapshot (·.get c) (h.gauges c)
  case connections =>
    unfold keyed
    rw [hseries _ (published.connectionFamily_mem subsystem)]
    exact map_readSample_entries published.connections (fun n : Nat => (n : Int)) h.connections
  case totals =>
    intro c
    unfold keyed
    rw [hseries _ (published.totalFamily_mem subsystem c)]
    exact map_readSample_entries published.totals (·.get c) (h.totals c)
  case distinct =>
    intro name
    by_cases hname : name ∈ (published.families subsystem).map Family.sampleName
    · obtain ⟨family, hfamily, rfl⟩ := List.mem_map.mp hname
      rw [hseries family hfamily]
      exact published.nodup_labels_of_mem subsystem hfamily
    · rw [series_flatMap_of_not_mem hname]
      exact List.nodup_nil

/-- A key whose texts look like a part of a line, and like one more line. -/
def forging : Key where
  source := "10.0.0.1\",dst=\"10.0.0.9"
  destination := "a\\"
  network := "ipv4\"\x7d 1.0\nconntrack_sent_packets 7.0"
  transport := "\x7b,=\x7d"
  port := "443"
  service := "https"

def forged : Published where
  snapshot := Table.empty.put forging ⟨1, 2, 3, 4⟩
  connections := Table.empty.put forging 1
  totals := Table.empty.put forging ⟨5, 6, 7, 8⟩

/-- A source that closes its quotation and a network that starts a line of its own are read as
    the texts that they are. -/
theorem scrape_reads_back_forged :
    ∃ text entries, forged.scrape? "conntrack" = some text ∧ read? text = some entries ∧
      keyed entries "conntrack_sent_packets" = [(some forging, some "1.0")] := by
  have hmost : 8 < Magnitude.leastBeyond := by decide +kernel
  have hwithin : forged.WithinDoubles := by
    refine ⟨?gauges, ?connections, ?totals⟩
    case gauges =>
      intro c key v hv
      cases List.mem_singleton.mp (Table.mem_entries_iff.mpr hv)
      refine Nat.lt_of_le_of_lt ?_ hmost
      cases c <;> decide
    case connections =>
      intro key n hn
      cases List.mem_singleton.mp (Table.mem_entries_iff.mpr hn)
      exact Nat.lt_of_le_of_lt (by decide) hmost
    case totals =>
      intro c key v hv
      cases List.mem_singleton.mp (Table.mem_entries_iff.mpr hv)
      refine Nat.lt_of_le_of_lt ?_ hmost
      cases c <;> decide
  obtain ⟨text, entries, htext, hentries, hgauge, -⟩ :=
    forged.scrape_reads_back "conntrack" hwithin
  refine ⟨text, entries, htext, hentries, ?_⟩
  have hname : Family.sampleName (forged.gauge "conntrack" .sentPackets) =
      "conntrack_sent_packets" := by decide
  rw [← hname, hgauge .sentPackets]
  decide +kernel

end Published

end Flowmeter
