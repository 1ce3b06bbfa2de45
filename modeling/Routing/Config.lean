import Routing.Text.Blank

/-! Settings of a router, and the environment variables that override them. -/
namespace Routing

structure Config where
  /-- Written before every decorated path. -/
  pathPrefix : String := ""
  /-- Written after every decorated path. -/
  pathSuffix : String := ""
  /-- The pattern of placeholders that bring none of their own. -/
  defaultPattern : String := "[^/]+"
  /-- How many routes are matched by one combined pattern. -/
  chunkSize : Nat := 10
  /-- Whether generated paths are plain, and not the `path` field of a query. -/
  shortUrls : Bool := true
deriving DecidableEq, Repr

def Config.sizeBound : Nat := 18446744073709551616

/-- The value of a digit in the given base; letters count from ten. -/
def digitValue? (base : Nat) (c : Char) : Option Nat :=
  let value :=
    if '0' ≤ c ∧ c ≤ '9' then c.toNat - '0'.toNat
    else if 'a' ≤ c ∧ c ≤ 'z' then c.toNat - 'a'.toNat + 10
    else if 'A' ≤ c ∧ c ≤ 'Z' then c.toNat - 'A'.toNat + 10
    else base
  if value < base then some value else none

/-- The number that the digits write after `acc`. -/
def digitsValue? (base : Nat) (acc : Nat) : List Char → Option Nat
  | [] => some acc
  | c :: rest => do digitsValue? base (acc * base + (← digitValue? base c)) rest

/-- One or more digits, with an optional plus sign before them. -/
def unsignedValue? (base : Nat) (text : List Char) : Option Nat :=
  let digits := match text with
    | '+' :: rest => rest
    | _ => text
  if digits.isEmpty then none else digitsValue? base 0 digits

namespace Config

/-- A size is decimal, or hexadecimal after `0x`; blanks around it do not count. -/
def size? (text : String) : Option Nat :=
  let value := match Text.trim text.toList with
    | '0' :: 'x' :: rest | '0' :: 'X' :: rest => unsignedValue? 16 rest
    | digits => unsignedValue? 10 digits
  value.filter (· < sizeBound)

def isOff (text : String) : Bool :=
  ["false", "0", "no"].contains (String.ofList (text.toList.map Char.toLower))

/-- Overrides each field by its own variable. An unreadable chunk size and an empty default
pattern leave the field as it is. -/
def override (config : Config) (lookup : String → Option String) : Config where
  pathPrefix := (lookup "WAYPOINT_PREFIX").getD config.pathPrefix
  pathSuffix := (lookup "WAYPOINT_SUFFIX").getD config.pathSuffix
  defaultPattern :=
    ((lookup "WAYPOINT_DEFAULT_PATTERN").filter (!·.isEmpty)).getD config.defaultPattern
  chunkSize := ((lookup "WAYPOINT_CHUNK_SIZE").bind size?).getD config.chunkSize
  shortUrls := ((lookup "WAYPOINT_SHORT_URLS").map (!isOff ·)).getD config.shortUrls

def ofEnvironment (lookup : String → Option String) : Config :=
  ({} : Config).override lookup

/-- A chunk holds at least one route. -/
def effectiveChunkSize (config : Config) : Nat :=
  max config.chunkSize 1

end Config
end Routing
