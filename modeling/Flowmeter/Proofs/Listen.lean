import Flowmeter.Listen
import Flowmeter.Proofs.Decimal.Spelling
import Flowmeter.Proofs.Outcome
import Flowmeter.Proofs.Text.Spacing

/-!
# What an address to listen on may look like

There are two ways to write an address: with the host in brackets, or without brackets and with
one colon only (`Written`). Reading accepts just what is written in one of them with a port that
is spelt as an integer in range (`read_eq_ok_iff`). Each cut of the reader is at the only place
where such an address can be cut, so there is nothing to choose.

The grammar is written without the reader in mind: two ways to write an address, and what a port may
look like. That the reader finds just these is proved in both directions. Towards the grammar each
cut says what it has left on both sides; towards the reader the two sides are given, and the cut is
made where they meet because of what they do not hold.

Addresses are texts of code points, and one of these may be a surrogate, which no character is. A
host may hold any of them. A port cannot, since it is read as a text in which each surrogate stands
as U+FFFD, and no integer is spelt with that (`eq_map_char`).
-/

set_option autoImplicit false

namespace Flowmeter.ListenAddress

open Flowmeter.Text

/-! ## The grammar -/

/-- The ways to write a host and the text of a port. -/
inductive Written (address host port : List CodePoint) : Prop
  /-- In brackets a host may hold colons; the first bracket that closes ends it. -/
  | bracketed
      (eq : address = .char '[' :: (host ++ .char ']' :: .char ':' :: port))
      (open_host : .char ']' ∉ host)
  | bare
      (start : address.head? ≠ some (.char '['))
      (eq : address = host ++ .char ':' :: port)
      (plain_host : .char ':' ∉ host)
      (plain_port : .char ':' ∉ port)

/-- Code points spell a port. -/
def SpellsPort (points : List CodePoint) (port : Nat) : Prop :=
  (∃ cs, points = cs.map .char ∧ Decimal.Spells cs port) ∧ port ≤ maxPort

/-- What code points without blanks around them name. -/
def Names (points : List CodePoint) (address : ListenAddress) : Prop :=
  ∃ host port, Written points host port ∧ SpellsPort port address.port ∧
    address.host = if host = [] then everyInterface else host

/-! ## Reading

The cut, the port, and both together. -/

theorem split_bracketed (rest : List CodePoint) :
    split (.char '[' :: rest) =
      match cutFirst (· == .char ']') rest with
      | (host, some (.char ':' :: port)) => .ok (host, port)
      | _ => .error .badBrackets :=
  rfl

/-- Without a bracket in front the last colon is looked for, and there must be no other. -/
theorem split_bare {points : List CodePoint} (h : points.head? ≠ some (.char '[')) :
    split points =
      match cutLast (· == .char ':') points with
      | (none, _) => .error .noPort
      | (some host, port) =>
          if host.contains (.char ':') then .error .bareColons else .ok (host, port) := by
  unfold split
  split
  case h_1 rest => exact absurd rfl h
  case h_2 => rfl

/-- The two ways of writing exclude each other by their first code point, and each has one place
    to be cut. -/
theorem split_eq_ok_iff {points host port : List CodePoint} :
    split points = .ok (host, port) ↔ Written points host port := by
  constructor
  case mpr =>
    rintro (⟨rfl, hopen⟩ | ⟨hstart, rfl, hhost, hport⟩)
    · rw [split_bracketed, cutFirst_append_of_not_mem hopen]
      rfl
    · rw [split_bare hstart, cutLast_append_of_not_mem host hport]
      simp [hhost]
  case mp =>
    intro h
    by_cases hstart : points.head? = some (.char '[')
    · obtain ⟨rest, rfl⟩ := List.head?_eq_some_iff.mp hstart
      rw [split_bracketed] at h
      split at h
      case h_1 hcut =>
        cases h
        obtain ⟨rfl, hopen⟩ := cutFirst_eq_some_iff.mp hcut
        exact .bracketed rfl hopen
      case h_2 => cases h
    · rw [split_bare hstart] at h
      split at h
      case h_1 => cases h
      case h_2 hcut =>
        split at h
        case isTrue => cases h
        case isFalse hcolons =>
          cases h
          obtain ⟨heq, hport⟩ := cutLast_eq_some_iff.mp hcut
          exact .bare hstart heq (by simpa using hcolons) hport

/-- Code points that read as a text without U+FFFD are the characters of that text. -/
theorem eq_map_char {points : List CodePoint} (h : '\uFFFD' ∉ points.map CodePoint.toChar) :
    points = (points.map CodePoint.toChar).map .char := by
  induction points with
  | nil => rfl
  | cons point points ih =>
    rw [List.map_cons, List.mem_cons, not_or] at h
    rw [List.map_cons, List.map_cons, ← ih h.2]
    cases point with
    | char c => rfl
    | surrogate offset => exact absurd rfl h.1

/-- The reader goes by integers, of which a port is one within bounds. -/
theorem readPort_eq_ok_iff {points : List CodePoint} {port : Nat} :
    readPort points = .ok port ↔ SpellsPort points port := by
  rw [readPort, SpellsPort]
  constructor
  case mpr =>
    rintro ⟨⟨cs, rfl, hspells⟩, hport⟩
    have hchars : (cs.map CodePoint.char).map CodePoint.toChar = cs := by
      rw [List.map_map]
      exact List.map_id cs
    rw [hchars, Decimal.readInteger_eq_ok_iff.mpr hspells]
    simp [hport]
  case mp =>
    intro h
    split at h
    case h_1 => cases h
    case h_2 n hn =>
      split at h
      case isFalse => cases h
      case isTrue hrange =>
        cases h
        have hspells := Decimal.readInteger_eq_ok_iff.mp hn
        refine ⟨⟨_, eq_map_char (Decimal.not_mem_of_spells hspells), ?_⟩, by omega⟩
        rwa [Int.toNat_of_nonneg hrange.1]

theorem read_eq_ok_iff {points : List CodePoint} {address : ListenAddress} :
    read points = .ok address ↔ Names points address := by
  rw [read, Outcome.bind_eq_ok]
  constructor
  case mpr =>
    rintro ⟨host, port, hwritten, hport, hhost⟩
    refine ⟨(host, port), split_eq_ok_iff.mpr hwritten, ?_⟩
    rw [Outcome.bind_eq_ok]
    refine ⟨address.port, readPort_eq_ok_iff.mpr hport, ?_⟩
    simp only [List.isEmpty_iff, ← hhost]
    rfl
  case mp =>
    rintro ⟨⟨host, port⟩, hsplit, hrest⟩
    obtain ⟨n, hn, hrest⟩ := Outcome.bind_eq_ok.mp hrest
    cases hrest
    refine ⟨host, port, split_eq_ok_iff.mp hsplit, readPort_eq_ok_iff.mp hn, ?_⟩
    simp only [List.isEmpty_iff]

theorem ofPoints_eq_ok_iff {points : List CodePoint} {address : ListenAddress} :
    ofPoints points = .ok address ↔ Names (trimmed points) address := by
  rw [ofPoints, Outcome.mapError_eq_ok, read_eq_ok_iff]

/-! ## What hosts can be named

An empty host stands for every interface and is named so, so none that is read is empty. -/

theorem Names.host_ne_nil {points : List CodePoint} {address : ListenAddress}
    (h : Names points address) : address.host ≠ [] := by
  obtain ⟨host, port, -, -, hhost⟩ := h
  rw [hhost]
  split
  case isTrue => decide
  case isFalse hne => exact hne

/-- A colon in a host has been in brackets, since without them there is but one. -/
theorem Names.bracketed_of_colon {points : List CodePoint} {address : ListenAddress}
    (h : Names points address) (hcolon : .char ':' ∈ address.host) :
    points.head? = some (.char '[') := by
  obtain ⟨host, port, hwritten, -, hhost⟩ := h
  cases hwritten with
  | bracketed eq => rw [eq]; rfl
  | bare _ _ plain_host =>
    rw [hhost] at hcolon
    split at hcolon
    case isTrue => exact absurd hcolon (by decide)
    case isFalse => exact absurd hcolon plain_host

/-! ## Writing

An address is written with its port in digits, so it ends with no blank; and nothing is trimmed off
in front unless the host begins with one. -/

/-- A port as it is written in an address. -/
def portText (port : Nat) : List CodePoint :=
  (Nat.toDigits 10 port).map .char

/-- An address with its host in brackets. -/
def bracketed (host : List CodePoint) (port : Nat) : List CodePoint :=
  .char '[' :: (host ++ .char ']' :: .char ':' :: portText port)

/-- An address with its host as it is. -/
def bare (host : List CodePoint) (port : Nat) : List CodePoint :=
  host ++ .char ':' :: portText port

/-- A port that is in range has five digits at most, far below what may be read. -/
theorem spellsPort_portText {port : Nat} (h : port ≤ maxPort) :
    SpellsPort (portText port) port := by
  refine ⟨⟨_, rfl, Decimal.spells_toDigits ?_⟩, h⟩
  have hlength : (Nat.toDigits 10 port).length ≤ 5 :=
    (Nat.length_toDigits_le_iff (by decide) (by decide)).mpr (Nat.lt_of_le_of_lt h (by decide))
  exact hlength.trans (by decide)

theorem isBlank_of_mem_portText {port : Nat} {point : CodePoint} (h : point ∈ portText port) :
    isBlank point.toChar = false := by
  obtain ⟨c, hc, rfl⟩ := List.mem_map.mp h
  exact Decimal.isBlank_of_isAsciiDigit (Decimal.isAsciiDigit_of_mem_toDigits hc)

/-- Nothing is taken off behind a port. -/
theorem trimmed_eq_self {first : CodePoint} (h : isBlank first.toChar = false)
    (rest : List CodePoint) (port : Nat) :
    trimmed (first :: (rest ++ portText port)) = first :: (rest ++ portText port) := by
  refine trimBy_eq_self (fun _ hfirst => Option.some.inj hfirst ▸ h) fun last hlast => ?_
  have hne : portText port ≠ [] := fun heq => Nat.toDigits_ne_nil (List.map_eq_nil_iff.mp heq)
  rw [← List.cons_append, List.getLast?_append, List.getLast?_eq_some_getLast hne,
    Option.some_or] at hlast
  rw [← Option.some.inj hlast]
  exact isBlank_of_mem_portText (List.getLast_mem hne)

theorem ofPoints_bracketed {host : List CodePoint} {port : Nat} (hne : host ≠ [])
    (hopen : .char ']' ∉ host) (hport : port ≤ maxPort) :
    ofPoints (bracketed host port) = .ok ⟨host, port⟩ := by
  have htrimmed : trimmed (bracketed host port) = bracketed host port := by
    have h := trimmed_eq_self (by decide : isBlank (CodePoint.char '[').toChar = false)
      (host ++ [.char ']', .char ':']) port
    simpa [bracketed] using h
  rw [ofPoints_eq_ok_iff, htrimmed]
  exact ⟨host, portText port, .bracketed rfl hopen, spellsPort_portText hport, (if_neg hne).symm⟩

theorem ofPoints_bare {host : List CodePoint} {port : Nat} (hne : host ≠ [])
    (hcolon : .char ':' ∉ host) (hstart : host.head? ≠ some (.char '['))
    (hblank : ∀ first ∈ host.head?, isBlank first.toChar = false) (hport : port ≤ maxPort) :
    ofPoints (bare host port) = .ok ⟨host, port⟩ := by
  obtain ⟨first, rest, rfl⟩ := List.exists_cons_of_ne_nil hne
  have htrimmed : trimmed (bare (first :: rest) port) = bare (first :: rest) port := by
    have h := trimmed_eq_self (hblank first rfl) (rest ++ [.char ':']) port
    simpa [bare] using h
  rw [ofPoints_eq_ok_iff, htrimmed]
  refine ⟨first :: rest, portText port, .bare hstart rfl hcolon fun hmem => ?_,
    spellsPort_portText hport, (if_neg hne).symm⟩
  obtain ⟨c, hc, heq⟩ := List.mem_map.mp hmem
  -- the last colon is the one in front of the port, for a numeral has none
  have hdigit := Decimal.isAsciiDigit_of_mem_toDigits hc
  rw [CodePoint.char.inj heq] at hdigit
  exact absurd hdigit (by decide)

/-! ## The addresses that are read -/

/-- **An address is read just if it is written in brackets or with one colon, and its port is
    spelt in range**; else it is refused. A host is never empty and has no colons outside of
    brackets. Any host can be given back in brackets that has none to close them, and without
    brackets any that has no colon and begins neither with a bracket nor with a blank. -/
theorem ofPoints_grammar (points : List CodePoint) :
    (∀ address, ofPoints points = .ok address ↔ Names (trimmed points) address) ∧
    ((∃ fault, ofPoints points = .error fault) ↔ ¬ ∃ address, Names (trimmed points) address) ∧
    (∀ address, ofPoints points = .ok address → address.host ≠ [] ∧
      (.char ':' ∈ address.host → (trimmed points).head? = some (.char '['))) ∧
    ∀ host port, host ≠ [] → port ≤ maxPort →
      (.char ']' ∉ host → ofPoints (bracketed host port) = .ok ⟨host, port⟩) ∧
      (.char ':' ∉ host → host.head? ≠ some (.char '[') →
        (∀ first ∈ host.head?, isBlank first.toChar = false) →
          ofPoints (bare host port) = .ok ⟨host, port⟩) := by
  refine ⟨fun address => ofPoints_eq_ok_iff, ?_, fun address h => ?_, fun host port hne hport => ?_⟩
  case refine_1 =>
    simp only [← ofPoints_eq_ok_iff]
    cases ofPoints points <;> simp
  case refine_2 =>
    have hnames := ofPoints_eq_ok_iff.mp h
    exact ⟨hnames.host_ne_nil, hnames.bracketed_of_colon⟩
  case refine_3 =>
    exact ⟨fun hopen => ofPoints_bracketed hne hopen hport,
      fun hcolon hstart hblank => ofPoints_bare hne hcolon hstart hblank hport⟩

/-- A host with colons comes back out of its brackets, and one without them also bare, whatever
    else is in it. -/
theorem ofPoints_grammar_renderings :
    let long := CodePoint.ofString "fe80::1%eth0"
    let odd := CodePoint.ofString "a [b] "
    ofPoints (bracketed long 9100) = .ok ⟨long, 9100⟩ ∧
    (trimmed (bracketed long 9100)).head? = some (.char '[') ∧
    ofPoints (bare odd 65535) = .ok ⟨odd, 65535⟩ := by
  intro long odd
  have hlong : ofPoints (bracketed long 9100) = .ok ⟨long, 9100⟩ :=
    ((ofPoints_grammar []).2.2.2 long 9100 (by decide) (by decide)).1 (by decide)
  refine ⟨hlong, ((ofPoints_grammar _).2.2.1 _ hlong).2 (by decide), ?_⟩
  exact ((ofPoints_grammar []).2.2.2 odd 65535 (by decide) (by decide)).2 (by decide) (by decide)
    (by decide)

example : ofText "\t:+0_80 " = .ok ⟨everyInterface, 80⟩ := by decide +kernel

end Flowmeter.ListenAddress
