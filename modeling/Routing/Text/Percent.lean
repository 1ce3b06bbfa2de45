/-! Percent-encoding of text, and query strings made of encoded pairs. -/
namespace Routing.Text

/-- The bytes that stand for themselves in a URL. -/
def isUnreserved (b : UInt8) : Bool :=
  (48 ≤ b && b ≤ 57) || (65 ≤ b && b ≤ 90) || (97 ≤ b && b ≤ 122) || b == 45 || b == 46 || b == 95 ||
    b == 126

def hexDigit (n : Nat) : Char :=
  Char.ofNat (if n < 10 then 48 + n else 55 + n)

/-- A byte is itself, or a percent sign and two digits. -/
def encodeByte (b : UInt8) : List Char :=
  if isUnreserved b then [Char.ofNat b.toNat] else ['%', hexDigit (b.toNat / 16), hexDigit (b.toNat % 16)]

/-- Encodes the bytes of each character in UTF-8. -/
def percentEncode (text : String) : String :=
  String.ofList (text.toList.flatMap fun c => (String.utf8EncodeChar c).flatMap encodeByte)

def encodeQuery (pairs : List (String × String)) : String :=
  "&".intercalate (pairs.map fun (key, value) => percentEncode key ++ "=" ++ percentEncode value)

end Routing.Text
