import Flowmeter.Flow.Key
import Flowmeter.Proofs.Flow.Pairs
import Flowmeter.Proofs.Table
import Flowmeter.Proofs.Text.Spacing

/-!
# What the keys of lines are like

A key says who talks to whom in words of a line, so no label made of it is broken by a blank, let
alone by a line end, and both addresses and the network protocol are there. Its service is that
of its port, also where a flow has no ports: the sign for that is a port of its own, the only one
whose service is the sign for no service.

That a word holds no blank is a fact about how lines are cut, and every label is a word, or made
from nothing but words: the port may be the sign for none, and the service is looked up in a table
that is gone through once and for all. Whatever ends a line is a blank, so no label holds one.

Services follow from ports by cases that exclude each other, and `service_cases` has them with what
tells them apart. The sign for no ports is a numeral, and a flow may have that for a port of its
own; the two cannot be told apart by the key, and both have the sign for no service.
-/

set_option autoImplicit false

namespace Flowmeter

open Flowmeter.Text Flowmeter.Decimal

/-! ## Services

A port is nothing, the sign for none, no numeral, a numeral without a name, or one of the
well-known. -/

namespace Port

/-- What the service of a port can be; only one port is known to be none. -/
theorem service_cases (port : String) : service port = unknownService ∧ port ≠ noPort ∨
    service port = noService ∧ port = noPort ∨
    (∃ n, (n, service port) ∈ wellKnown) ∧ port ≠ noPort := by
  unfold service
  by_cases hempty : port.isEmpty = true
  · have hport : port ≠ noPort := by
      rw [String.isEmpty_iff.mp hempty]
      decide
    rw [if_pos hempty]
    exact Or.inl ⟨rfl, hport⟩
  rw [if_neg hempty]
  by_cases hport : port = noPort
  · rw [if_pos hport]
    exact Or.inr (Or.inl ⟨rfl, hport⟩)
  rw [if_neg hport]
  cases readInteger port.toList with
  | error fault => exact Or.inl ⟨rfl, hport⟩
  | ok n =>
    cases hnamed : wellKnown.lookup n with
    | none => exact Or.inl ⟨by simp only [hnamed, Option.getD_none], hport⟩
    | some name =>
      refine Or.inr (Or.inr ⟨⟨n, ?_⟩, hport⟩)
      simp only [hnamed, Option.getD_some]
      exact Association.mem_of_lookup_eq_some hnamed

/-- No well-known port has the sign for no service as its name. -/
theorem service_eq_noService_iff {port : String} : service port = noService ↔ port = noPort := by
  rcases service_cases port with ⟨hunknown, hport⟩ | ⟨hnone, hport⟩ | ⟨⟨n, hnamed⟩, hport⟩
  · rw [hunknown]
    exact iff_of_false (by decide) hport
  · exact iff_of_true hnone hport
  · have hnames : ∀ entry ∈ wellKnown, entry.2 ≠ noService := by decide
    exact iff_of_false (hnames (n, service port) hnamed) hport

/-- Names of services are words. -/
theorem unbroken_service (port : String) : Unbroken (service port).toList := by
  rcases service_cases port with ⟨hunknown, -⟩ | ⟨hnone, -⟩ | ⟨⟨n, hnamed⟩, -⟩
  · rw [hunknown]
    decide
  · rw [hnone]
    decide
  · have hnames : ∀ entry ∈ wellKnown, Unbroken entry.2.toList := by decide
    exact hnames (n, service port) hnamed

end Port

/-! ## Keys

A service adds nothing to a key, since it is told by the port. -/

namespace Key

/-- What holds of a key that a line has given. -/
structure Sound (key : Key) : Prop where
  source_ne : key.source ≠ ""
  destination_ne : key.destination ≠ ""
  network_ne : key.network ≠ ""
  unbroken : ∀ label ∈ key.labels, ∀ c ∈ label.2.toList,
    isBlank c = false ∧ isLineBreak c = false
  service_eq : key.service = Port.service key.port
  port_iff : key.port = "0" ↔ key.service = "na"

/-- No two of the keys differ in nothing but their service. -/
def OneService (keys : List Key) : Prop :=
  ∀ key ∈ keys, ∀ other ∈ keys, { key with service := other.service } = other → key = other

/-- Two keys that differ in nothing else have one port, and so one service. -/
theorem oneService_of_sound {keys : List Key} (h : ∀ key ∈ keys, key.Sound) :
    OneService keys := by
  intro key hkey other hother heq
  have hport : key.port = other.port := by rw [← heq]
  have hservice : key.service = other.service := by
    rw [(h key hkey).service_eq, (h other hother).service_eq, hport]
  calc
    key = { key with service := other.service } := by rw [← hservice]
    _ = other := heq

end Key

/-- The sign for no ports has the service that stands beside it. -/
theorem Flow.service_key (flow : Flow) : flow.key.service = Port.service flow.key.port := by
  unfold key
  dsimp only
  split
  · rfl
  · exact (Port.service_eq_noService_iff.mpr rfl).symm

/-! ## Keys of lines

Label by label, each with where it comes from. -/

namespace Line

variable {line : Line}

/-- What follows the key in a word is unbroken because the word is. -/
theorem unbroken_text (h : ∀ token ∈ line, IsWord token) (f : Field) (direction : Nat) :
    Unbroken (line.text f direction).toList := by
  rw [text, String.toList_ofList, values_eq_occurrences]
  cases hvalue : (line.occurrences f)[direction]? with
  | none => exact fun c hc => absurd hc List.not_mem_nil
  | some value =>
    have htoken := mem_occurrences.mp (List.mem_of_getElem? hvalue)
    exact fun c hc => (h _ htoken).2 c
      (List.mem_append_right _ (List.mem_cons_of_mem _ hc))

theorem unbroken_headD (h : ∀ token ∈ line, IsWord token) : Unbroken (line.headD []) := by
  cases line with
  | nil => exact fun c hc => absurd hc List.not_mem_nil
  | cons token rest => exact (h token List.mem_cons_self).2

theorem toList_network (line : Line) : line.described.key.network.toList = line.headD [] :=
  String.toList_ofList

theorem toList_transport (line : Line) :
    line.described.key.transport.toList = (line.drop 2).headD [] :=
  String.toList_ofList

theorem unbroken_port (h : ∀ token ∈ line, IsWord token) :
    Unbroken line.described.key.port.toList := by
  unfold Flow.key
  dsimp only
  split
  · exact unbroken_text h .destinationPort 0
  · decide

/-- A label is a value of a pair, the first or the third token, or made for a port. -/
theorem unbroken_labels (h : ∀ token ∈ line, IsWord token) :
    ∀ label ∈ line.described.key.labels, Unbroken label.2.toList := by
  have hnetwork : Unbroken line.described.key.network.toList := by
    rw [toList_network]
    exact unbroken_headD h
  have htransport : Unbroken line.described.key.transport.toList := by
    rw [toList_transport]
    exact unbroken_headD fun token htoken => h token (List.mem_of_mem_drop htoken)
  have hservice : Unbroken line.described.key.service.toList := by
    rw [Flow.service_key]
    exact Port.unbroken_service _
  rw [Key.labels_eq]
  simp only [List.forall_mem_cons]
  exact ⟨unbroken_text h .source 0, unbroken_text h .destination 0, hnetwork, htransport,
    hservice, unbroken_port h, fun label hlabel => absurd hlabel List.not_mem_nil⟩

theorem sound_key (h : ∀ token ∈ line, IsWord token) {flow : Flow}
    (hflow : line.flow? = some flow) : flow.key.Sound := by
  rw [flow?_eq] at hflow
  split at hflow
  · cases hflow
  next hthere =>
  cases hflow
  simp only [Bool.or_eq_true, List.isEmpty_iff, String.isEmpty_iff, not_or] at hthere
  -- the line has been accepted, so none of the three is missing
  obtain ⟨⟨hnetwork, hsource⟩, hdestination⟩ := hthere
  refine ⟨hsource, hdestination, ?network, ?unbroken, Flow.service_key _, ?port⟩
  case network =>
    rw [ne_eq, ← String.toList_eq_nil_iff, toList_network]
    exact hnetwork
  case unbroken =>
    intro label hlabel c hc
    have hblank : isBlank c = false := unbroken_labels h label hlabel c hc
    exact ⟨hblank, isLineBreak_eq_false hblank⟩
  case port =>
    rw [Flow.service_key]
    exact Port.service_eq_noService_iff.symm

end Line

end Flowmeter
