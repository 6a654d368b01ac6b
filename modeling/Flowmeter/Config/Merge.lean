import Flowmeter.Config.Mismatch

/-!
# Laying one configuration over another

What lies over wins, except where both are mappings: those are merged in turn. Keys of the
lower one keep their places and new keys follow in the order of the upper one.

At the bottom lie the built-in settings: every setting has a value before any file, variable or
option is read.
-/

set_option autoImplicit false

namespace Flowmeter.Config

mutual

/-- A value with another laid over it. -/
def Value.overlay (base : Value) : Value → Value
  | .map upper =>
      match base with
      | .map lower => .map (overlayEntries lower upper)
      | _ => .map upper
  -- whatever is no mapping takes the place of what lies below
  | .scalar s => .scalar s
  | .list items => .list items
  | .pair a b => .pair a b
  | .set members => .set members
  | .loop members number => .loop members number
  | .enclosing number => .enclosing number

/-- The entries of a mapping with those of another laid over them. -/
def overlayEntries (lower : List (Scalar × Value)) :
    List (Scalar × Value) → List (Scalar × Value)
  | [] => lower
  | (k, v) :: rest =>
      -- a key that both have stays where it is, and a new one goes behind the others
      let value :=
        match lower.lookup k with
        | some old => old.overlay v
        | none => v
      overlayEntries (Association.put k value lower) rest

end

/-- Kinds whose values can be copied. -/
def Kind.isCopyable : Kind → Bool
  | .list | .set | .map => true
  | _ => false

/-- One value laid over another, both of which should be mappings. The lower one is copied
    first and then written to, so a list or a set is not missed until something is written. -/
def merge (base upper : Value) : Except Mismatch Value :=
  match base, upper with
  | .map lower, .map entries => .ok (.map (overlayEntries lower entries))
  | _, _ =>
      if !base.kind.isCopyable then .error (.noPart base.kind "copy")
      else match upper with
        | .map [] => .ok base
        | .map _ => .error (if base.kind = .list then .placeNotNumber else .noPlaces base.kind)
        | _ => .error (.noPart upper.kind "items")

/-! ## The lowest layer -/

/-- The settings that hold where nothing else is said. -/
def defaults : List (Scalar × Value) :=
  let sections : List (String × Value) :=
    [("collector", .record
        [("interval", .int 60), ("read_timeout", .int 10),
         ("configure_nf_conntrack_acct", .bool false)]),
     ("path", .record [("procfs", .text "/proc")]),
     ("web", .record
        [("listen_addresses", .list [.text ":9100"]), ("telemetry_path", .text "/metrics"),
         ("disable_exporter_metrics", .bool false), ("max_requests", .int 40)]),
     ("logging", .record
        [("level", .text "info"), ("format", .text "logfmt"), ("directory", .null),
         ("max_bytes", .int 10485760), ("backup_count", .int 5)])]
  sections.map fun s => (.text s.1, s.2)

end Flowmeter.Config
