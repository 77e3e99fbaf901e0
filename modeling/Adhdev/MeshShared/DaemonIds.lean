import Adhdev.MeshShared.TurnEvidence

/-! # Daemon identities

`daemon-normalize.ts` of the shared package. One daemon is known under several
forms of its id; two ids are compared by the machine they name. -/

namespace Adhdev.MeshShared

def daemonIdPrefixes : List String := ["daemon_", "standalone_"]

def startsWithIgnoringCase (text start : String) : Bool :=
  (text.toList.take start.length).map Char.toLower == start.toList

def dropChars (count : Nat) (text : String) : String := String.ofList (text.toList.drop count)

def machineForm (core : String) : String :=
  if startsWithIgnoringCase core "mach_" then "mach_" ++ dropChars 5 core else core

def machineCoreFromDaemonId (id : String) : Option String :=
  (readString id).bind fun trimmed =>
    match daemonIdPrefixes.find? (startsWithIgnoringCase trimmed) with
    | some start => (readString (dropChars start.length trimmed)).map machineForm
    | none => some (machineForm trimmed)

/-- The one form that stores key by. -/
def canonicalDaemonId (id : String) : Option String :=
  (machineCoreFromDaemonId id).map fun core =>
    if startsWithIgnoringCase core "mach_" then "daemon_mach_" ++ dropChars 5 core else core

def daemonIdsEquivalent (left right : String) : Bool :=
  match machineCoreFromDaemonId left, machineCoreFromDaemonId right with
  | some leftCore, some rightCore => leftCore == rightCore
  | _, _ => false

def expandDaemonIdForms (ids : List String) : List String :=
  let derived := ids.flatMap fun id =>
    match (readString id).bind machineCoreFromDaemonId with
    | some core =>
      if "mach_".toList.isPrefixOf core.toList then
        core :: daemonIdPrefixes.map (· ++ core)
      else []
    | none => []
  (ids.filterMap readString ++ derived).eraseDups

example : daemonIdsEquivalent "daemon_mach_a1" " MACH_a1" = true := by decide

example : expandDaemonIdForms ["mach_a1"] =
    ["mach_a1", "daemon_mach_a1", "standalone_mach_a1"] := by decide

example : daemonIdsEquivalent "standalone_" "standalone_" = false := by decide

end Adhdev.MeshShared
