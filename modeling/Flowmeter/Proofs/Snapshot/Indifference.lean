import Flowmeter.Proofs.Accounts.History
import Flowmeter.Proofs.Flow.Line
import Flowmeter.Proofs.Outcome

/-!
# What a snapshot does not show

Flows are counted by a key that leaves out the source port and the whole reply direction. The
source port is still asked whether it is there, since a flow without ports has a key of its own.
So one value of it may be put for another, and the values of a second or later pair of addresses
or ports may be anything: two tables that differ in nothing else have one and the same snapshot,
and runs of cycles over them publish the same series.

What may be put for what depends on what stands before it in the line, since the first pair of a key
counts and later ones do not. So lines are compared token by token with the tokens before them at
hand, and `AgreeAfter` is a recursion over both lines that takes them along. It is decidable, and
two given tables can be compared by evaluation.

The argument then goes the way a table goes: the values of a field, the description of a line, the
reading of a line, the survey, the snapshot, a run of cycles. One lemma for each says what of it two
tables have in common, and none of them looks back further than the one before. A line that is
refused is followed too: the same counter is at fault in both.
-/

set_option autoImplicit false

namespace Flowmeter

open Flowmeter.Text

/-- What is counted of a flow, and under which key. -/
def Flow.entry (flow : Flow) : Key × Counters := (flow.key, flow.counters)

/-- The key asks of a flow for six things; of the ports it asks for one, and otherwise only
    whether there are any. -/
theorem Flow.key_eq {flow flow' : Flow}
    (hsource : flow.original.source = flow'.original.source)
    (hdestination : flow.original.destination = flow'.original.destination)
    (hnetwork : flow.network = flow'.network) (htransport : flow.transport = flow'.transport)
    (hport : flow.original.destinationPort = flow'.original.destinationPort)
    (hhasPorts : flow.hasPorts = flow'.hasPorts) : flow.key = flow'.key := by
  unfold Flow.key
  rw [hsource, hdestination, hnetwork, htransport, hport, hhasPorts]

namespace Line

/-! ## Lines that differ unseen

The conditions on a token are those of the reader. A counter is never put for another. The first and
the third token are protocols whatever they look like, also where they look like a pair. -/

/-- Behind some tokens of a line, two pairs of one address or port of which the line makes the
    same: the key has been given before, or it is the source port and both say something. -/
def Alike (before : Line) (token token' : Token) : Prop :=
  match token.pair?, token'.pair? with
  | some (f, value), some (g, value') =>
      f = g ∧ f.isCounter = false ∧
        (before.values f ≠ [] ∨ f = .sourcePort ∧ value ≠ [] ∧ value' ≠ [])
  | _, _ => False

instance (before : Line) (token token' : Token) : Decidable (Alike before token token') := by
  unfold Alike
  split <;> infer_instance

/-- Behind some tokens of a line, the rest of it and that of another have the same tokens, except
    that one may be put for another like it. The first and the third token of a line stand for
    protocols and are the same. -/
def AgreeAfter (before : Line) : Line → Line → Prop
  | [], [] => True
  | token :: rest, token' :: rest' =>
      (token = token' ∨ before.length ≠ 0 ∧ before.length ≠ 2 ∧ Alike before token token') ∧
        AgreeAfter (before ++ [token]) rest rest'
  | _, _ => False

instance decidableAgreeAfter : (before line line' : Line) →
    Decidable (AgreeAfter before line line')
  | _, [], [] => .isTrue trivial
  | before, token :: rest, token' :: rest' =>
      have := decidableAgreeAfter (before ++ [token]) rest rest'
      inferInstanceAs (Decidable
        ((token = token' ∨ before.length ≠ 0 ∧ before.length ≠ 2 ∧ Alike before token token') ∧
          AgreeAfter (before ++ [token]) rest rest'))
  | _, [], _ :: _ => .isFalse id
  | _, _ :: _, [] => .isFalse id

/-- Two lines have the same tokens, up to values that nothing is made of. -/
def Agree (line line' : Line) : Prop := AgreeAfter [] line line'

instance (line line' : Line) : Decidable (Agree line line') :=
  decidableAgreeAfter [] line line'

/-- The two tokens as the pairs they are, with one key between them. -/
theorem Alike.pairs {before : Line} {token token' : Token} (h : Alike before token token') :
    ∃ f value value', token.pair? = some (f, value) ∧ token'.pair? = some (f, value') ∧
      f.isCounter = false ∧
      (before.values f ≠ [] ∨ f = .sourcePort ∧ value ≠ [] ∧ value' ≠ []) := by
  unfold Alike at h
  split at h
  · next f value g value' hpair hpair' =>
    obtain ⟨rfl, hcounter, hvalue⟩ := h
    exact ⟨f, value, value', hpair, hpair', hcounter, hvalue⟩
  · exact h.elim

/-- For a field of which both tokens say the same, or nothing, it is enough to look behind them. -/
theorem values_cons_congr {token token' : Token} {f : Field} {rest rest' : Line}
    (htoken : ∀ value, token.pair? = some (f, value) ↔ token'.pair? = some (f, value))
    (hrest : rest.values f = rest'.values f) :
    values (token :: rest) f = values (token' :: rest') f := by
  by_cases h : ∃ value, token.pair? = some (f, value)
  · obtain ⟨value, hvalue⟩ := h
    rw [values_cons_of_pair hvalue, values_cons_of_pair ((htoken value).mp hvalue), hrest]
  · push Not at h
    have h' : ∀ value, token'.pair? ≠ some (f, value) := fun value hvalue =>
      h value ((htoken value).mpr hvalue)
    rw [values_cons_of_other h, values_cons_of_other h', hrest]

variable {before line line' : Line}

/-- Counters are the same. -/
theorem AgreeAfter.values_counter (h : AgreeAfter before line line') {f : Field}
    (hf : f.isCounter = true) : line.values f = line'.values f := by
  fun_induction AgreeAfter before line line' with
  | case1 => rfl
  | case2 before token rest token' rest' ih =>
    obtain ⟨htoken, hrest⟩ := h
    refine values_cons_congr ?_ (ih hrest)
    intro value
    rcases htoken with rfl | ⟨-, -, halike⟩
    · exact Iff.rfl
    · obtain ⟨g, v, w, hv, hw, hg, -⟩ := halike.pairs
      have hne : g ≠ f := by
        rintro rfl
        rw [hf] at hg
        cases hg
      simp [hv, hw, hne]
  | case3 => exact h.elim

/-- Counters that are too long are the same and stand in the same places, so the first of them
    is. -/
theorem AgreeAfter.oversized?_eq (h : AgreeAfter before line line') :
    line.oversized? = line'.oversized? := by
  unfold oversized?
  fun_induction AgreeAfter before line line' with
  | case1 => rfl
  | case2 before token rest token' rest' ih =>
    obtain ⟨htoken, hrest⟩ := h
    rw [List.findSome?_cons, List.findSome?_cons, ih hrest]
    rcases htoken with rfl | ⟨-, -, halike⟩
    · rfl
    · obtain ⟨g, v, w, hv, hw, hg, -⟩ := halike.pairs
      simp [hv, hw, hg]
  | case3 => exact h.elim

/-- The first and the third token are the same, wherever the line is cut. -/
theorem AgreeAfter.getElem?_eq {l l' : Line} (h : AgreeAfter before l l') (i : Nat)
    (hi : before.length + i = 0 ∨ before.length + i = 2) : l[i]? = l'[i]? := by
  fun_induction AgreeAfter before l l' generalizing i with
  | case1 => rfl
  | case2 before token rest token' rest' ih =>
    obtain ⟨htoken, hrest⟩ := h
    cases i with
    | zero =>
      rcases htoken with rfl | ⟨hfirst, hthird, -⟩
      · rfl
      · omega
    | succ i =>
      rw [List.getElem?_cons_succ, List.getElem?_cons_succ]
      refine ih hrest i ?_
      rw [List.length_append, List.length_singleton]
      omega
  | case3 => exact h.elim

/-- The first values of a key are the same, or are two source ports that are both there. -/
theorem AgreeAfter.first_value (h : AgreeAfter before line line') {f : Field}
    (hnew : before.values f = []) :
    (line.values f)[0]?.getD [] = (line'.values f)[0]?.getD [] ∨
      f = .sourcePort ∧ (line.values f)[0]?.getD [] ≠ [] ∧ (line'.values f)[0]?.getD [] ≠ [] := by
  fun_induction AgreeAfter before line line' with
  | case1 => exact Or.inl rfl
  | case2 before token rest token' rest' ih =>
    obtain ⟨htoken, hrest⟩ := h
    -- the first pair of the key decides, and before it nothing of the key has been given
    by_cases hpair : ∃ value, token.pair? = some (f, value)
    · obtain ⟨value, hvalue⟩ := hpair
      rcases htoken with rfl | ⟨-, -, halike⟩
      · rw [values_cons_of_pair hvalue, values_cons_of_pair hvalue]
        exact Or.inl rfl
      · obtain ⟨g, v, w, hv, hw, -, hcase⟩ := halike.pairs
        rw [hv, Option.some.injEq, Prod.mk.injEq] at hvalue
        obtain ⟨rfl, rfl⟩ := hvalue
        rw [values_cons_of_pair hv, values_cons_of_pair hw]
        rcases hcase with hseen | hport
        · exact absurd hnew hseen
        · exact Or.inr hport
    · push Not at hpair
      have hpair' : ∀ value, token'.pair? ≠ some (f, value) := by
        rcases htoken with rfl | ⟨-, -, halike⟩
        · exact hpair
        · intro value hvalue
          obtain ⟨g, v, w, hv, hw, -, -⟩ := halike.pairs
          rw [hw, Option.some.injEq, Prod.mk.injEq] at hvalue
          obtain ⟨rfl, rfl⟩ := hvalue
          exact hpair v hv
      rw [values_cons_of_other hpair, values_cons_of_other hpair']
      refine ih hrest ?_
      rw [values_append, hnew, List.nil_append, values_cons_of_other hpair]
      rfl
  | case3 => exact h.elim

/-! ## What is made of them

The description of a line puts the pieces together; its source port and its whole reply direction
differ, and everything that is counted does not. -/

theorem Agree.text_eq (h : Agree line line') {f : Field} (hf : f ≠ .sourcePort) :
    line.text f 0 = line'.text f 0 := by
  have hfirst := AgreeAfter.first_value h (f := f) rfl
  unfold text
  rcases hfirst with heq | ⟨hport, -⟩
  · rw [heq]
  · exact absurd hport hf

theorem isEmpty_ofList (cs : List Char) : (String.ofList cs).isEmpty = cs.isEmpty := by
  rw [Bool.eq_iff_iff, String.isEmpty_iff, List.isEmpty_iff, ← String.toList_inj]
  simp

/-- Of the source port it is the same whether it is there. -/
theorem Agree.isEmpty_sourcePort (h : Agree line line') :
    (line.text .sourcePort 0).isEmpty = (line'.text .sourcePort 0).isEmpty := by
  have hfirst := AgreeAfter.first_value h (f := .sourcePort) rfl
  unfold text
  rw [isEmpty_ofList, isEmpty_ofList]
  rcases hfirst with heq | ⟨-, hv, hw⟩
  · rw [heq]
  · rw [List.isEmpty_eq_false_iff.mpr hv, List.isEmpty_eq_false_iff.mpr hw]

theorem Agree.traffic_eq (h : Agree line line') (direction : Nat) :
    line.traffic direction = line'.traffic direction := by
  have hpackets := AgreeAfter.values_counter h (f := .packets) rfl
  have hbytes := AgreeAfter.values_counter h (f := .bytes) rfl
  unfold traffic count
  rw [hpackets, hbytes]

theorem Agree.entry_eq (h : Agree line line') :
    line.flow?.map Flow.entry = line'.flow?.map Flow.entry := by
  have hsource := h.text_eq (f := .source) (by decide)
  have hdestination := h.text_eq (f := .destination) (by decide)
  have hport := h.text_eq (f := .destinationPort) (by decide)
  have hports := h.isEmpty_sourcePort
  have hsent := h.traffic_eq 0
  have hreceived := h.traffic_eq 1
  have hnetwork : line.headD [] = line'.headD [] := by
    have hfirst := AgreeAfter.getElem?_eq h 0 (Or.inl rfl)
    rw [headD_eq, headD_eq, hfirst]
  have htransport : (line.drop 2).headD [] = (line'.drop 2).headD [] := by
    have hthird := AgreeAfter.getElem?_eq h 2 (Or.inr rfl)
    rw [headD_drop_eq, headD_drop_eq, hthird]
  -- whether there are ports is asked of both, and of the source it is the same
  have hhasPorts : line.described.hasPorts = line'.described.hasPorts := by
    show (!(line.text .destinationPort 0).isEmpty || !(line.text .sourcePort 0).isEmpty) = _
    rw [hport, hports]
    rfl
  have hkey : line.described.key = line'.described.key :=
    Flow.key_eq hsource hdestination (congrArg String.ofList hnetwork)
      (congrArg String.ofList htransport) hport hhasPorts
  have hcounters : line.described.counters = line'.described.counters := by
    have hsent' : line.described.sent = line'.described.sent := hsent
    have hreceived' : line.described.received = line'.described.received := hreceived
    unfold Flow.counters
    rw [hsent', hreceived']
  -- with these two the line is taken or passed over, in both cases alike
  rw [flow?_eq, flow?_eq, hnetwork, hsource, hdestination]
  split
  · rfl
  · rw [Option.map_some, Option.map_some, Flow.entry, Flow.entry, hkey, hcounters]

/-- Either both lines are refused for one counter, or both describe the same or nothing. -/
theorem Agree.read_eq (h : Agree line line') :
    line.read.map (Option.map Flow.entry) = line'.read.map (Option.map Flow.entry) := by
  have hoversized : line.oversized? = line'.oversized? := AgreeAfter.oversized?_eq h
  unfold read
  rw [hoversized]
  cases line'.oversized? with
  | some fault => rfl
  | none => exact congrArg Except.ok h.entry_eq

theorem Agree.isEmpty_eq (h : Agree line line') : line.isEmpty = line'.isEmpty := by
  cases line with
  | nil =>
    cases line' with
    | nil => rfl
    | cons => exact h.elim
  | cons =>
    cases line' with
    | nil => exact h.elim
    | cons => rfl

end Line

/-! ## Tables that differ unseen

The counts of a survey are lengths, and lengths are the same where the entries are. -/

namespace Survey

/-- Two table texts have as many lines, which agree one by one. -/
def Agree (text text' : String) : Prop :=
  List.Forall₂ (fun cs cs' => (Line.ofText cs).Agree (Line.ofText cs'))
    (lines text.toList) (lines text'.toList)

instance (text text' : String) : Decidable (Agree text text') := by
  unfold Agree
  infer_instance

/-- A survey looks at nothing of a flow but its key and counters. -/
theorem ofReadings_congr {readings readings' : List (Option Flow)}
    (h : readings.map (Option.map Flow.entry) = readings'.map (Option.map Flow.entry)) :
    ofReadings readings = ofReadings readings' := by
  have hentries : ∀ l : List (Option Flow), (l.filterMap id).map Flow.entry =
      (l.map (Option.map Flow.entry)).filterMap id := by
    intro l
    rw [List.map_filterMap, List.filterMap_map]
    rfl
  have hsnapshot : ∀ flows : List Flow, Snapshot.ofFlows flows =
      (flows.map Flow.entry).foldl (Table.addTo Counters.zero) Table.empty := by
    intro flows
    rw [List.foldl_map]
    rfl
  have hlength : ∀ l : List (Option Flow), (l.filterMap id).length =
      ((l.map (Option.map Flow.entry)).filterMap id).length := by
    intro l
    rw [← hentries, List.length_map]
  have hrejected : ∀ l : List (Option Flow), l.countP (·.isNone) =
      (l.map (Option.map Flow.entry)).countP (·.isNone) := by
    intro l
    rw [List.countP_map]
    refine List.countP_congr fun reading _ => ?_
    simp
  unfold ofReadings
  rw [hsnapshot, hsnapshot, hentries, hentries, hlength, hlength readings', hrejected,
    hrejected readings', h]

theorem mapM_read_agree {l l' : List Line} (h : List.Forall₂ Line.Agree l l') :
    (l.mapM Line.read).map (List.map (Option.map Flow.entry)) =
      (l'.mapM Line.read).map (List.map (Option.map Flow.entry)) := by
  rw [Outcome.map_mapM, Outcome.map_mapM]
  induction h with
  | nil => rfl
  | cons hline _ ih => rw [List.mapM_cons, List.mapM_cons, hline.read_eq, ih]

/-- Tables that agree have one survey, or are refused for one counter. -/
theorem Agree.ofText_eq {text text' : String} (h : Agree text text') :
    ofText text = ofText text' := by
  have hrecords : List.Forall₂ Line.Agree (records text) (records text') := by
    unfold records
    refine List.rel_filter ?_ (List.rel_map ?_ h)
    · intro line line' hline
      show (!line.isEmpty) = true ↔ (!line'.isEmpty) = true
      rw [hline.isEmpty_eq]
    · intro cs cs' hcs
      exact hcs
  have hread := mapM_read_agree hrecords
  unfold ofText
  -- both are refused, or neither: the mixed cases contradict `hread`
  cases hm : (records text).mapM Line.read <;> cases hm' : (records text').mapM Line.read <;>
    rw [hm, hm'] at hread
  · cases hread
    rfl
  · cases hread
  · cases hread
  · exact congrArg Except.ok (ofReadings_congr (Except.ok.inj hread))

theorem Agree.snapshot_eq {text text' : String} (h : Agree text text') :
    Snapshot.ofText text = Snapshot.ofText text' := by
  unfold Snapshot.ofText
  rw [h.ofText_eq]

end Survey

namespace Accounts

/-- **Source ports and the reply direction leave no trace.** Take two runs of cycles over as many
    tables, which have as many lines, and these as many tokens, one by one the same; only a source
    port may be another one, and the value of a second or later pair of an address or port may be
    anything. Then each two tables have the same survey and the same snapshot, with its keys in
    one order, or are refused for the same reason, and both runs publish the same series. -/
theorem hidden_values_leave_no_trace (texts texts' : List String)
    (h : List.Forall₂ Survey.Agree texts texts') :
    List.Forall₂ (fun text text' => Survey.ofText text = Survey.ofText text' ∧
      Snapshot.ofText text = Snapshot.ofText text') texts texts' ∧
    (afterCycles texts).published = (afterCycles texts').published ∧
    (afterCycles texts).ledger = (afterCycles texts').ledger := by
  have hcycles : ∀ a : Accounts, texts.foldl cycle a = texts'.foldl cycle a := by
    induction h with
    | nil =>
      intro a
      rfl
    | @cons text text' rest rest' htext _ ih =>
      intro a
      have hcycle : a.cycle text = a.cycle text' := by
        unfold cycle
        rw [htext.snapshot_eq]
      rw [List.foldl_cons, List.foldl_cons, hcycle, ih]
  have hafter : afterCycles texts = afterCycles texts' := hcycles empty
  refine ⟨?tables, ?published, ?ledger⟩
  case tables =>
    refine h.imp ?_
    intro text text' htext
    exact ⟨htext.ofText_eq, htext.snapshot_eq⟩
  case published => rw [hafter]
  case ledger => rw [hafter]

/-- A connection from another port than before and with another reply, and a line that describes
    nothing whatever stands in its second destination. -/
theorem hidden_values_leave_no_trace_otherPort :
    let text := "ipv4 2 tcp src=a dst=b sport=1 dport=443 packets=3 src=b sport=\ndst=b ? - dst=c"
    let text' := "ipv4 2 tcp src=a dst=b sport=2= dport=443 packets=3 src= sport=7\ndst=b ? - dst="
    Survey.Agree text text' ∧ Snapshot.ofText text = Snapshot.ofText text' ∧
      (afterCycles [text, text]).published = (afterCycles [text', text']).published := by
  intro text text'
  have hagree : Survey.Agree text text' := by decide +kernel
  obtain ⟨htables, hpublished, -⟩ :=
    hidden_values_leave_no_trace [text, text] [text', text'] (.cons hagree (.cons hagree .nil))
  cases htables with
  | cons hfirst _ => exact ⟨hagree, hfirst.2, hpublished⟩

end Accounts

end Flowmeter
