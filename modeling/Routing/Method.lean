import Routing.Error
import Routing.Text.Blank

/-! HTTP verbs and the non-empty sets of verbs that routes accept. -/
namespace Routing

inductive Verb
  | get
  | post
  | put
  | delete
deriving DecidableEq, Repr

namespace Verb

/-- All verbs, in the order of their bits. -/
def all : List Verb := [get, post, put, delete]

def name : Verb → String
  | get => "GET"
  | post => "POST"
  | put => "PUT"
  | delete => "DELETE"

def index : Verb → Nat
  | get => 0
  | post => 1
  | put => 2
  | delete => 3

def bit : Verb → BitVec 4
  | get => 1
  | post => 2
  | put => 4
  | delete => 8

theorem mem_all (v : Verb) : v ∈ all := by cases v <;> decide

end Verb

/-- A non-empty set of verbs, one bit for each. -/
structure MethodMask where
  bits : BitVec 4
  bits_ne_zero : bits ≠ 0
deriving DecidableEq, Repr

namespace MethodMask

def get : MethodMask := ⟨1, by decide⟩
def post : MethodMask := ⟨2, by decide⟩
def put : MethodMask := ⟨4, by decide⟩
def delete : MethodMask := ⟨8, by decide⟩

def any : MethodMask := ⟨15, by decide⟩

/-- The mask with the given bits; a number without a verb, or with a bit of no verb, is refused. -/
def ofBits (bits : Nat) : Except Error MethodMask :=
  if 15 < bits then .error (.invalidMethodMask bits)
  else if h : BitVec.ofNat 4 bits = 0 then .error (.invalidMethodMask bits)
  else .ok ⟨BitVec.ofNat 4 bits, h⟩

def ofVerb : Verb → MethodMask
  | .get => get
  | .post => post
  | .put => put
  | .delete => delete

def intersects (a b : MethodMask) : Bool :=
  a.bits &&& b.bits != 0

def contains (m : MethodMask) (v : Verb) : Bool :=
  m.bits &&& v.bit != 0

def union (a b : MethodMask) : MethodMask :=
  ⟨a.bits ||| b.bits, fun h => a.bits_ne_zero (BitVec.or_eq_zero_iff.1 h).1⟩

instance : Union MethodMask := ⟨union⟩

/-- The verbs in the mask, in bit order. -/
def verbs (m : MethodMask) : List Verb :=
  Verb.all.filter m.contains

/-- The verb of a mask that holds only one. -/
def verb? (m : MethodMask) : Option Verb :=
  match m.verbs with
  | [v] => some v
  | _ => none

/-- All four verbs are written `ANY`, other sets as their verbs with bars between them. -/
def display (m : MethodMask) : String :=
  if m = any then "ANY" else "|".intercalate (m.verbs.map Verb.name)

instance : ToString MethodMask := ⟨display⟩

def wordBits? (word : List Char) : Option (BitVec 4) :=
  match String.ofList (word.map Char.toUpper) with
  | "GET" | "HEAD" => some 1
  | "POST" => some 2
  | "PUT" => some 4
  | "DELETE" => some 8
  | "ANY" | "ALL" | "*" => some 15
  | _ => none

/-- The words of a method list: bars and commas separate them, blank ones do not count. -/
def words (text : List Char) : List (List Char) :=
  ((Text.splitWhere (fun c => c == '|' || c == ',') text).map Text.trim).filter (!·.isEmpty)

/-- Reads a method list such as `get|post`; the leftmost unknown word is refused as it is written. -/
def parse (text : String) : Except Error MethodMask := do
  let sets ← (words text.toList).mapM fun word =>
    match wordBits? word with
    | some bits => .ok bits
    | none => .error (.unsupportedMethod (String.ofList word))
  ofBits (sets.foldl (· ||| ·) (0 : BitVec 4)).toNat

end MethodMask

inductive RequestMethod
  | get
  | head
  | post
  | put
  | delete
  /-- Any other method, by its token. -/
  | other (token : String)
deriving DecidableEq, Repr

namespace RequestMethod

def isTokenChar (c : Char) : Bool :=
  c.isAlphanum || "!#$%&'*+-.^_\x60|~".toList.contains c

/-- Reads a token; methods are told apart by case. -/
def ofToken? (token : String) : Option RequestMethod :=
  if token.isEmpty || !token.toList.all isTokenChar then none
  else
    match token with
    | "GET" => some .get
    | "HEAD" => some .head
    | "POST" => some .post
    | "PUT" => some .put
    | "DELETE" => some .delete
    | token => some (.other token)

/-- The mask of a request: HEAD is routed as GET. -/
def mask : RequestMethod → Except Error MethodMask
  | .get | .head => .ok .get
  | .post => .ok .post
  | .put => .ok .put
  | .delete => .ok .delete
  | .other token => .error (.unsupportedMethod token)

end RequestMethod
end Routing
