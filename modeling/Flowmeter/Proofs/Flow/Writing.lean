import Flowmeter.Proofs.Decimal.Numeral
import Flowmeter.Proofs.Flow.Pairs
import Flowmeter.Proofs.Text.Spacing
import Mathlib.Logic.Function.Basic

/-!
# Writing a flow

A flow is written as a line: its two protocols, which stand in the first and the third place, and
then the pairs of its addresses, ports and counters. Of the two pairs of a key the one of the
original direction comes first, since nothing else tells the directions apart. Apart from that
the pairs may come in any order, and tokens that say nothing may stand among them: those that are
no pair, and those of a key that has been given in both directions. Whatever the order, what
stands between, and the blanks, reading such a line gives the flow back.

There is no writer to be inverted: the kernel writes these lines. So what is written is said by a
relation, as loosely as the reader allows. `Line.Gives` has one constructor for each kind of token
that may come next, and a line is given in the order in which it is read. What is still owed for
each key is carried along; a key that is owed nothing more may be given anything, since the reader
takes the first two values of a key and lets the rest go.

The reader looks at each key by itself. So `occurrences_eq` says for one key what its values are in
such a line, by induction on how the line was given, and the rest is putting six keys and two
protocols together.
-/

set_option autoImplicit false

namespace Flowmeter

open Flowmeter.Text Flowmeter.Decimal

/-! ## What is written

The values of a flow come in pairs, of which the first is that of the original direction. A
direction that has none is written with an empty value, for without it the second would take the
place of the first. -/

/-- What a flow gives for a key: in the original direction, and in the reply. -/
def Flow.given (flow : Flow) : Field → List (List Char)
  | .source => [flow.original.source.toList, flow.reply.source.toList]
  | .destination => [flow.original.destination.toList, flow.reply.destination.toList]
  | .sourcePort => [flow.original.sourcePort.toList, flow.reply.sourcePort.toList]
  | .destinationPort =>
      [flow.original.destinationPort.toList, flow.reply.destinationPort.toList]
  | .packets => [Nat.toDigits 10 flow.sent.packets, Nat.toDigits 10 flow.received.packets]
  | .bytes => [Nat.toDigits 10 flow.sent.bytes, Nat.toDigits 10 flow.received.bytes]

/-- Flows that can be written: no text is broken by a blank, the protocols can stand for
    themselves, both addresses of the original direction are there, and no counter has more
    digits than are read. -/
structure Flow.Writable (flow : Flow) : Prop where
  network_isWord : IsWord flow.network.toList
  network_isOther : Token.IsOther flow.network.toList
  transport_isWord : IsWord flow.transport.toList
  transport_isOther : Token.IsOther flow.transport.toList
  source_ne : flow.original.source ≠ ""
  destination_ne : flow.original.destination ≠ ""
  unbroken : ∀ f : Field, f.isCounter = false → ∀ value ∈ flow.given f, Unbroken value
  digits_le : ∀ f : Field, f.isCounter = true → ∀ value ∈ flow.given f, value.length ≤ 4300

/-- Tokens that give, key by key and in their order, the values that are owed. Other tokens may
    stand anywhere, and a key that is no longer owed anything may be given any value. -/
inductive Line.Gives : (Field → List (List Char)) → Line → Prop
  | done {owed : Field → List (List Char)} (howed : ∀ f, owed f = []) : Gives owed []
  | pair {owed : Field → List (List Char)} {f : Field} {value : List Char}
      {more : List (List Char)} {rest : Line} (howed : owed f = value :: more)
      (hrest : Gives (Function.update owed f more) rest) : Gives owed (f.token value :: rest)
  | other {owed : Field → List (List Char)} {token : Token} {rest : Line}
      (hword : IsWord token) (hother : token.IsOther) (hrest : Gives owed rest) :
      Gives owed (token :: rest)
  | surplus {owed : Field → List (List Char)} {f : Field} {value : List Char} {rest : Line}
      (howed : owed f = []) (hvalue : Unbroken value)
      (hdigits : f.isCounter = true → isCounterNumeral value = true → value.length ≤ 4300)
      (hrest : Gives owed rest) : Gives owed (f.token value :: rest)

/-! ## What is read of it

What follows an occurrence of another key is not looked at, so a pair counts for one key and is
passed over for all the others. -/

/-- A pair of an unbroken value is one word, since no key holds a blank. -/
theorem Field.isWord_token {value : List Char} (f : Field) (h : Unbroken value) :
    IsWord (f.token value) := by
  have hkey : Unbroken f.key.toList := by cases f <;> decide
  refine ⟨List.append_ne_nil_of_right_ne_nil _ (List.cons_ne_nil _ _), ?_⟩
  exact unbroken_append.mpr ⟨hkey, unbroken_cons.mpr ⟨by decide, h⟩⟩

namespace Line

section Occurrences

variable {f : Field} {rest : Line}

theorem occurrences_token_self (value : List Char) :
    occurrences (f.token value :: rest) f = value :: rest.occurrences f :=
  List.filterMap_cons_some (Token.dropPrefix?_eq_some_iff.mpr rfl)

theorem occurrences_cons_of_ne {token : Token} (h : ∀ value, token ≠ f.token value) :
    occurrences (token :: rest) f = rest.occurrences f := by
  refine List.filterMap_cons_none ?_
  cases hdrop : token.dropPrefix? (f.token []) with
  | none => rfl
  | some value => exact absurd (Token.dropPrefix?_eq_some_iff.mp hdrop) (h value)

theorem occurrences_token_of_ne {g : Field} (h : g ≠ f) (value : List Char) :
    occurrences (g.token value :: rest) f = rest.occurrences f :=
  occurrences_cons_of_ne fun _ heq => h (Field.token_inj.mp heq).1

end Occurrences

namespace Gives

variable {owed : Field → List (List Char)} {line : Line}

/-- What is owed for a key is given first; what follows of it has digits that can be read. -/
theorem occurrences_eq (h : Gives owed line) (f : Field) :
    ∃ more, line.occurrences f = owed f ++ more ∧ ∀ value ∈ more, f.isCounter = true →
      isCounterNumeral value = true → value.length ≤ 4300 := by
  induction h with
  | done howed =>
    refine ⟨[], ?_, fun value hvalue => absurd hvalue List.not_mem_nil⟩
    rw [howed f]
    rfl
  | @pair owed g value later rest howed _ ih =>
    obtain ⟨more, hmore, hdigits⟩ := ih
    refine ⟨more, ?_, hdigits⟩
    -- the pair is for this key, or for another and then nothing changes for this one
    by_cases hg : g = f
    · subst hg
      rw [Function.update_self] at hmore
      rw [occurrences_token_self, hmore, howed, List.cons_append]
    · rw [Function.update_of_ne (Ne.symm hg)] at hmore
      rw [occurrences_token_of_ne hg, hmore]
  | other _ hother _ ih =>
    obtain ⟨more, hmore, hdigits⟩ := ih
    exact ⟨more, by rw [occurrences_cons_of_ne (hother f), hmore], hdigits⟩
  | @surplus owed g value rest howed _ hvalue _ ih =>
    obtain ⟨more, hmore, hdigits⟩ := ih
    -- a surplus value is behind all that are owed for its key, since none are left
    by_cases hg : g = f
    · subst hg
      rw [howed, List.nil_append] at hmore
      refine ⟨value :: more, ?_, List.forall_mem_cons.mpr ⟨hvalue, hdigits⟩⟩
      rw [occurrences_token_self, hmore, howed, List.nil_append]
    · exact ⟨more, by rw [occurrences_token_of_ne hg, hmore], hdigits⟩

/-- Every token of such a line is a word, so the line is cut into just these tokens. -/
theorem isWord (h : Gives owed line) (howed : ∀ f, ∀ value ∈ owed f, Unbroken value) :
    ∀ token ∈ line, IsWord token := by
  induction h with
  | done _ => exact fun token htoken => absurd htoken List.not_mem_nil
  | @pair owed g value later rest hvalue _ ih =>
    have hall := howed g
    rw [hvalue, List.forall_mem_cons] at hall
    refine List.forall_mem_cons.mpr ⟨g.isWord_token hall.1, ih fun f => ?_⟩
    by_cases hf : f = g
    · subst hf
      rw [Function.update_self]
      exact hall.2
    · rw [Function.update_of_ne hf]
      exact howed f
  | other hword _ _ ih => exact List.forall_mem_cons.mpr ⟨hword, ih howed⟩
  | @surplus _ g _ _ _ hvalue _ _ ih =>
    exact List.forall_mem_cons.mpr ⟨g.isWord_token hvalue, ih howed⟩

end Gives

end Line

/-- What a line describes is a flow unless its first token or an address is missing. -/
theorem Line.flow?_eq_some {line : Line} {flow : Flow} (h : line.described = flow)
    (hnetwork : flow.network ≠ "") (hsource : flow.original.source ≠ "")
    (hdestination : flow.original.destination ≠ "") : line.flow? = some flow := by
  subst h
  have hfirst : line.headD [] ≠ [] := fun hempty => hnetwork (congrArg String.ofList hempty)
  rw [flow?_eq, if_neg]
  simp only [Bool.or_eq_true, List.isEmpty_iff, String.isEmpty_iff, not_or]
  exact ⟨⟨hfirst, hsource⟩, hdestination⟩

namespace Flow

variable {flow : Flow}

theorem Writable.unbroken_given (h : flow.Writable) (f : Field) :
    ∀ value ∈ flow.given f, Unbroken value := by
  cases hf : f.isCounter with
  | false => exact h.unbroken f hf
  | true =>
    -- counters are written in digits, which are no blanks
    have hdigits : ∀ n, Unbroken (Nat.toDigits 10 n) := fun n c hc =>
      isBlank_of_isAsciiDigit (isAsciiDigit_of_mem_toDigits hc)
    intro value hvalue
    cases f with
    | source | destination | sourcePort | destinationPort => cases hf
    | packets | bytes =>
      simp only [given, List.mem_cons, List.not_mem_nil, or_false] at hvalue
      rcases hvalue with rfl | rfl
      · exact hdigits _
      · exact hdigits _

/-- Of each key the first two values are those of the flow, whatever comes after. -/
theorem described_eq {tokens : Line} (hnetwork : tokens[0]? = some flow.network.toList)
    (htransport : tokens[2]? = some flow.transport.toList)
    (hgiven : ∀ f, ∃ more, tokens.values f = flow.given f ++ more) :
    tokens.described = flow := by
  obtain ⟨sources, hsources⟩ := hgiven .source
  obtain ⟨destinations, hdestinations⟩ := hgiven .destination
  obtain ⟨sourcePorts, hsourcePorts⟩ := hgiven .sourcePort
  obtain ⟨destinationPorts, hdestinationPorts⟩ := hgiven .destinationPort
  obtain ⟨packets, hpackets⟩ := hgiven .packets
  obtain ⟨bytes, hbytes⟩ := hgiven .bytes
  have hfirst : tokens.headD [] = flow.network.toList := by
    rw [Line.headD_eq, hnetwork, Option.getD_some]
  have hthird : (tokens.drop 2).headD [] = flow.transport.toList := by
    rw [Line.headD_drop_eq, htransport, Option.getD_some]
  unfold Line.described Line.endpoints Line.traffic Line.text Line.count
  rw [hfirst, hthird, hsources, hdestinations, hsourcePorts, hdestinationPorts, hpackets, hbytes]
  simp [given, counterValue_toDigits]

/-- **Reading undoes writing.** Take a flow that can be written, and a line of its network
    protocol, a token that is no pair, its transport protocol, and tokens that give what the flow
    does, with any gaps. The line is read, as just this flow. -/
theorem read_written (flow : Flow) (h : flow.Writable) (filler : Token) (hfiller : IsWord filler)
    (hother : filler.IsOther) (body : Line) (hbody : Line.Gives flow.given body)
    (lead : List Char) (parts : List (Token × List Char)) (hgaps : Gaps lead parts)
    (hparts : parts.map Prod.fst =
      flow.network.toList :: filler :: flow.transport.toList :: body) :
    (Line.ofText (spaced lead parts)).read = .ok (some flow) := by
  have hwords : ∀ token ∈ flow.network.toList :: filler :: flow.transport.toList :: body,
      IsWord token := by
    refine List.forall_mem_cons.mpr ⟨h.network_isWord, ?_⟩
    refine List.forall_mem_cons.mpr ⟨hfiller, ?_⟩
    exact List.forall_mem_cons.mpr ⟨h.transport_isWord, hbody.isWord h.unbroken_given⟩
  have hline : Line.ofText (spaced lead parts) =
      flow.network.toList :: filler :: flow.transport.toList :: body := by
    rw [Line.ofText, words_spaced hgaps, hparts]
    intro part hpart
    exact hwords _ (hparts ▸ List.mem_map_of_mem hpart)
  -- the first three tokens are no pairs, so the line gives what its rest does
  have hgiven : ∀ f, ∃ more,
      (Line.ofText (spaced lead parts)).occurrences f = flow.given f ++ more ∧
      ∀ value ∈ more, f.isCounter = true → isCounterNumeral value = true →
        value.length ≤ 4300 := by
    intro f
    rw [hline, Line.occurrences_cons_of_ne (h.network_isOther f),
      Line.occurrences_cons_of_ne (hother f), Line.occurrences_cons_of_ne (h.transport_isOther f)]
    exact hbody.occurrences_eq f
  -- surplus counters have digits within the limit too, or the line would be refused for them
  have hreadable : (Line.ofText (spaced lead parts)).Readable := by
    refine Line.readable_iff_occurrences.mpr fun f hf value hvalue hnumeral => ?_
    obtain ⟨more, hmore, hdigits⟩ := hgiven f
    rw [hmore] at hvalue
    rcases List.mem_append.mp hvalue with hvalue | hvalue
    · exact h.digits_le f hf value hvalue
    · exact hdigits value hvalue hf hnumeral
  have hdescribed : (Line.ofText (spaced lead parts)).described = flow := by
    refine described_eq (by rw [hline]; rfl) (by rw [hline]; rfl) fun f => ?_
    obtain ⟨more, hmore, -⟩ := hgiven f
    exact ⟨more, by rw [Line.values_eq_occurrences, hmore]⟩
  have hnetwork : flow.network ≠ "" := fun hempty => h.network_isWord.1 (by rw [hempty]; rfl)
  have hflow := Line.flow?_eq_some hdescribed hnetwork h.source_ne h.destination_ne
  rw [Line.read_of_readable hreadable, Line.accepted?_of_readable hreadable, hflow]

/-- A flow with an address that looks like a pair, and ports of which some are left out. -/
def halfNamed : Flow :=
  ⟨"ipv4", "tcp", ⟨"src=a", "b", "", "443"⟩, ⟨"b", "", "443", ""⟩, ⟨10, 7⟩, ⟨8, 0⟩⟩

/-- Its values in an order of their own, with surplus pairs and other tokens among them. -/
def halfNamedBody : Line :=
  [['6'], Field.token .destination ['b'], Field.token .packets ['1', '0'],
   Field.token .packets ['8'], Field.token .packets ['x'],
   Field.token .source ['s', 'r', 'c', '=', 'a'], Field.token .sourcePort [],
   Field.token .source ['b'], ['[', '='], Field.token .bytes ['7'],
   Field.token .destinationPort ['4', '4', '3'], Field.token .destination [],
   Field.token .sourcePort ['4', '4', '3'], Field.token .source [],
   Field.token .destinationPort [], Field.token .bytes ['0']]

theorem halfNamed_writable : halfNamed.Writable where
  network_isWord := by decide
  network_isOther := by decide
  transport_isWord := by decide
  transport_isOther := by decide
  source_ne := by decide
  destination_ne := by decide
  unbroken := by
    intro f
    cases f <;> decide
  digits_le := by
    intro f
    cases f <;> decide

theorem halfNamed_given : Line.Gives halfNamed.given halfNamedBody := by
  refine .other (by decide) (by decide) ?_
  refine .pair rfl <| .pair rfl <| .pair rfl ?_
  refine .surplus rfl (by decide) (by decide) ?_
  refine .pair rfl <| .pair rfl <| .pair rfl ?_
  refine .other (by decide) (by decide) ?_
  refine .pair rfl <| .pair rfl <| .pair rfl <| .pair rfl ?_
  refine .surplus rfl (by decide) (by decide) ?_
  refine .pair rfl <| .pair rfl ?_
  refine .done fun f => ?_
  cases f <;> rfl

def halfNamedText : String :=
  "\n ipv4 2\t\x0btcp 6 dst=b packets=10 packets=8 packets=x src=src=a sport= src=b [= bytes=7 " ++
  "dport=443 dst= sport=443 src= dport= bytes=0 "

theorem read_written_halfNamed :
    (Line.ofText halfNamedText.toList).read = .ok (some halfNamed) := by
  let parts : List (Token × List Char) :=
    ("ipv4".toList, [' ']) :: (['2'], ['\t', '\x0b']) :: ("tcp".toList, [' ']) ::
      halfNamedBody.map (·, [' '])
  have hgaps : Gaps ['\n', ' '] parts := ⟨by decide, by decide, by decide⟩
  have htext : halfNamedText.toList = spaced ['\n', ' '] parts := by decide +kernel
  rw [htext]
  exact read_written halfNamed halfNamed_writable ['2'] (by decide) (by decide) halfNamedBody
    halfNamed_given ['\n', ' '] parts hgaps (by decide)

end Flow

end Flowmeter
