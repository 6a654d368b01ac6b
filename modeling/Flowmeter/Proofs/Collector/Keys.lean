import Flowmeter.Proofs.Accounts.Coherence
import Flowmeter.Proofs.Collector.Invariant
import Flowmeter.Proofs.Flow.Key
import Flowmeter.Proofs.Snapshot.Insertion

/-!
# What is published is keyed soundly

Every key that a snapshot shows is the key of a line, and every key that the accounts publish has
been in a snapshot. So what holds of the keys of lines holds of all that is ever shown, after any
run: no series is told from another by its service alone, and no label can break a line.
-/

set_option autoImplicit false

namespace Flowmeter

open Flowmeter.Text Flowmeter.Decimal

/-! ## Snapshots

From the words of a line to its key, and from the lines of a text to what its snapshot shows:
soundness is handed on by membership. -/

theorem Line.flow?_of_accepted? {line : Line} {flow : Flow} (h : line.accepted? = some flow) :
    line.flow? = some flow := by
  by_cases hreadable : line.Readable
  · rw [← accepted?_of_readable hreadable]
    exact h
  · obtain ⟨fault, hfault⟩ := read_of_not_readable hreadable
    rw [accepted?, hfault] at h
    cases h

/-- A flow of a text is that of one of its lines, cut into words. -/
theorem Survey.sound_key {text : String} {flow : Flow} (h : flow ∈ flows text) :
    flow.key.Sound := by
  obtain ⟨cs, -, hcs⟩ := List.mem_filterMap.mp h
  have hwords : ∀ token ∈ Line.ofText cs, IsWord token := fun token htoken =>
    isWord_of_mem_words htoken
  exact Line.sound_key hwords (Line.flow?_of_accepted? hcs)

namespace Snapshot

variable {text : String} {snapshot : Snapshot}

/-- The keys of a snapshot are those of the flows that it sums up. -/
theorem sound_of_mem_keys (h : ofText text = .ok snapshot) {key : Key}
    (hkey : key ∈ snapshot.keys) : key.Sound := by
  have hreadable : Survey.Readable text := Survey.readable_of_ofText h
  rw [Survey.snapshot_of_readable hreadable] at h
  split at h
  · cases h
  · cases h
    obtain ⟨flow, hflow, rfl⟩ := (mem_keys_ofFlows _ _).mp hkey
    exact Survey.sound_key hflow

end Snapshot

/-! ## Accounts

Gauges, connections and totals have keys of their own, and each key has been in some snapshot: the
gauges in the last, the connections when they were counted, and the totals with them. -/

namespace Accounts

/-- The keys of all that is published: of the gauges, the connections and the totals. -/
def shownKeys (a : Accounts) : List Key :=
  a.published.snapshot.keys ++ a.published.connections.keys ++ a.published.totals.keys

/-- Nothing is shown of a key that was in no snapshot. -/
theorem Reflects.mem_shownKeys {history : List Snapshot} {a : Accounts}
    (h : Reflects history a) (hn : ∀ s ∈ history, s.Nonneg) {key : Key}
    (hkey : key ∈ a.shownKeys) : ∃ s ∈ history, key ∈ s.keys := by
  have hcounted : key ∈ a.published.connections.keys → ∃ s ∈ history, key ∈ s.keys := by
    intro hconnection
    rw [← h.seen] at hconnection
    exact (h.mem_seen key).mp hconnection
  rcases List.mem_append.mp hkey with hkey | htotal
  · rcases List.mem_append.mp hkey with hgauge | hconnection
    · rw [h.gauges] at hgauge
      rcases Snapshot.latest_mem_or_empty history with hmem | hempty
      · exact ⟨Snapshot.latest history, hmem, hgauge⟩
      · rw [hempty] at hgauge
        exact absurd hgauge List.not_mem_nil
    · exact hcounted hconnection
  · exact hcounted (h.totals_subset hn htotal)

/-- After any cycles every key that is shown has come from a text. -/
theorem sound_of_mem_shownKeys (texts : List String) {key : Key}
    (hkey : key ∈ (afterCycles texts).shownKeys) : key.Sound := by
  obtain ⟨s, hs, hmem⟩ :=
    (reflects_afterCycles texts).mem_shownKeys (nonneg_snapshotsOf texts) hkey
  obtain ⟨text, -, htext⟩ := List.mem_filterMap.mp hs
  cases hsnapshot : Snapshot.ofText text with
  | error fault =>
    rw [hsnapshot] at htext
    cases htext
  | ok snapshot =>
    rw [hsnapshot] at htext
    cases htext
    exact Snapshot.sound_of_mem_keys hsnapshot hmem

end Accounts

namespace Collector.Service

/-- The accounts of a collector are those of plain cycles, so nothing else is to be shown. -/
theorem sound_of_mem_shownKeys (table : String) (timing : Timing) (events : List Event)
    {key : Key} (hkey : key ∈ (after table timing events).accounts.shownKeys) : key.Sound := by
  obtain ⟨texts, -, -, haccounts⟩ := (consistent_after table timing events).balanced
  have hcycles : (after table timing events).accounts = Accounts.afterCycles texts := haccounts
  rw [hcycles] at hkey
  exact Accounts.sound_of_mem_shownKeys texts hkey

end Collector.Service

namespace Key

/-- **Every published key is sound.** In a snapshot of any text, addresses and network protocol
    are there, no label has a blank or a line end in it, the service is that of the port, also
    where there are no ports, the port is the sign for that just if the service is, and no sum
    is negative. Nor can two keys of a snapshot, or of what is published after any cycles or
    any run of a collector, differ in nothing but the service. -/
theorem published_sound :
    (∀ text snapshot, Snapshot.ofText text = .ok snapshot →
      (∀ key ∈ snapshot.keys, key.Sound ∧ ∀ c, 0 ≤ snapshot.value key c) ∧
      OneService snapshot.keys) ∧
    (∀ texts, (∀ key ∈ (Accounts.afterCycles texts).shownKeys, key.Sound) ∧
      OneService (Accounts.afterCycles texts).shownKeys) ∧
    (∀ table timing events,
      (∀ key ∈ (Collector.Service.after table timing events).accounts.shownKeys, key.Sound) ∧
      OneService (Collector.Service.after table timing events).accounts.shownKeys) := by
  refine ⟨?snapshots, ?cycles, ?runs⟩
  case snapshots =>
    intro text snapshot h
    have hsound : ∀ key ∈ snapshot.keys, key.Sound := fun key =>
      Snapshot.sound_of_mem_keys h
    refine ⟨fun key hkey => ⟨hsound key hkey, ?_⟩, oneService_of_sound hsound⟩
    exact Snapshot.nonneg_ofText h key
  case cycles =>
    intro texts
    have hsound : ∀ key ∈ (Accounts.afterCycles texts).shownKeys, key.Sound := fun key =>
      Accounts.sound_of_mem_shownKeys texts
    exact ⟨hsound, oneService_of_sound hsound⟩
  case runs =>
    intro table timing events
    have hsound : ∀ key ∈ (Collector.Service.after table timing events).accounts.shownKeys,
        key.Sound := fun key =>
      Collector.Service.sound_of_mem_shownKeys table timing events
    exact ⟨hsound, oneService_of_sound hsound⟩

/-- A connection without ports, one with a port of its own only, one to the port that is the
    sign for none, and one to a port in digits of another script. -/
def oddPorts : String :=
  "ipv4 1 icmp src=a dst=b packets=1\nipv4 17 udp src=a dst=b sport=5 bytes=2\n" ++
  "ipv4 6 tcp src=a dst=b sport=5 dport=0\nipv4 6 tcp src=a dst=b dport=\u0664\u0664\u0663"

theorem survey_oddPorts : Survey.Readable oddPorts ∧
    ((Survey.flows oddPorts).map Flow.key).eraseDups =
      [⟨"a", "b", "ipv4", "icmp", "0", "na"⟩, ⟨"a", "b", "ipv4", "udp", "", "unknown"⟩,
        ⟨"a", "b", "ipv4", "tcp", "0", "na"⟩,
        ⟨"a", "b", "ipv4", "tcp", "\u0664\u0664\u0663", "https"⟩] := by
  decide +kernel

theorem published_sound_oddPorts : ∃ snapshot, Snapshot.ofText oddPorts = .ok snapshot ∧
    snapshot.keys =
      [⟨"a", "b", "ipv4", "icmp", "0", "na"⟩, ⟨"a", "b", "ipv4", "udp", "", "unknown"⟩,
        ⟨"a", "b", "ipv4", "tcp", "0", "na"⟩,
        ⟨"a", "b", "ipv4", "tcp", "\u0664\u0664\u0663", "https"⟩] ∧
    (∀ key ∈ snapshot.keys, key.Sound ∧ ∀ c, 0 ≤ snapshot.value key c) ∧
    OneService snapshot.keys := by
  obtain ⟨hreadable, hkeys⟩ := survey_oddPorts
  have hsome : Survey.flows oddPorts ≠ [] := by
    intro hnone
    rw [hnone] at hkeys
    cases hkeys
  have hsnapshot : Snapshot.ofText oddPorts = .ok (Snapshot.ofFlows (Survey.flows oddPorts)) := by
    rw [Survey.snapshot_of_readable hreadable, if_neg hsome]
  refine ⟨_, hsnapshot, ?_, published_sound.1 oddPorts _ hsnapshot⟩
  rw [Snapshot.keys_ofFlows, hkeys]

end Key

end Flowmeter
