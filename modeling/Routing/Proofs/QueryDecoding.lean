import Mathlib.Data.List.Basic
import Routing.Config
import Routing.Text.Blank
import Routing.Text.Percent

/-! Reading queries: cut at ampersands, each piece at its first equals sign, and both sides
percent-decoded. What is read from a query of encoded pairs are the pairs. -/
namespace Routing.Text

/-- The bytes that a text stands for: a percent sign and two digits are one byte, and any other
character is itself. -/
def decodedBytes? : List Char → Option (List UInt8)
  | [] => some []
  | '%' :: high :: low :: rest => do
    let high ← digitValue? 16 high
    let low ← digitValue? 16 low
    return .ofNat (16 * high + low) :: (← decodedBytes? rest)
  | '%' :: _ => none
  | c :: rest => (decodedBytes? rest).map (String.utf8EncodeChar c ++ ·)

def percentDecode? (text : List Char) : Option String :=
  (decodedBytes? text).bind fun bytes => String.fromUTF8? bytes.toByteArray

/-- A key and its value. Further equals signs belong to the value. -/
def decodePair? (piece : List Char) : Option (String × String) := do
  let key ← percentDecode? (piece.takeWhile (· != '='))
  let value ← percentDecode? ((piece.dropWhile (· != '=')).drop 1)
  return (key, value)

def decodeQuery? (query : String) : Option (List (String × String)) :=
  (splitWhere (· == '&') query.toList).mapM decodePair?

theorem digitValue?_hexDigit {n : Nat} (h : n < 16) : digitValue? 16 (hexDigit n) = some n := by
  have hall : ∀ n : Fin 16, digitValue? 16 (hexDigit n) = some n.val := by decide
  exact hall ⟨n, h⟩

theorem decodedBytes?_plain {c : Char} (h : c ≠ '%') (rest : List Char) :
    decodedBytes? (c :: rest) = (decodedBytes? rest).map (String.utf8EncodeChar c ++ ·) := by
  rw [decodedBytes?.eq_def]
  split
  · next he => cases he
  · next he => exact absurd (List.cons_eq_cons.mp he).1 h
  · next he => exact absurd (List.cons_eq_cons.mp he).1 h
  · next he =>
    cases he
    rfl

/-- An unreserved byte is the code of its character. -/
theorem unreserved_bounds {b : UInt8} (h : isUnreserved b = true) :
    b.toNat < 128 ∧ b.toNat ≠ 37 ∧ b.toNat ≠ 38 ∧ b.toNat ≠ 61 := by
  simp only [isUnreserved, Bool.or_eq_true, Bool.and_eq_true, decide_eq_true_eq, beq_iff_eq,
    UInt8.le_iff_toNat_le, ← UInt8.toNat_inj, UInt8.reduceToNat] at h
  omega

theorem toNat_ofNat_byte (b : UInt8) : (Char.ofNat b.toNat).toNat = b.toNat := by
  have hb := b.toNat_lt
  have hvalid : b.toNat.isValidChar := .inl (by omega)
  unfold Char.ofNat
  rw [dif_pos hvalid]
  rfl

/-- The character of an unreserved byte is that byte in UTF-8. -/
theorem utf8EncodeChar_ofNat {b : UInt8} (h : b.toNat < 128) :
    String.utf8EncodeChar (Char.ofNat b.toNat) = [b] := by
  have hcode : (Char.ofNat b.toNat).val.toNat = b.toNat := toNat_ofNat_byte b
  have hsmall : b.toNat ≤ 127 := by omega
  unfold String.utf8EncodeChar
  rw [hcode]
  simp [hsmall]

theorem ofNat_ne {b : UInt8} {c : Char} (h : b.toNat ≠ c.toNat) : Char.ofNat b.toNat ≠ c := by
  intro he
  have hcode := toNat_ofNat_byte b
  rw [he] at hcode
  exact h hcode.symm

/-- What stands for a byte is read as this byte, whatever follows. -/
theorem decodedBytes?_encodeByte (b : UInt8) (rest : List Char) :
    decodedBytes? (encodeByte b ++ rest) = (decodedBytes? rest).map (b :: ·) := by
  unfold encodeByte
  split_ifs with hplain
  · obtain ⟨hsmall, hpercent, -, -⟩ := unreserved_bounds hplain
    rw [List.singleton_append, decodedBytes?_plain (ofNat_ne hpercent), utf8EncodeChar_ofNat hsmall]
    rfl
  · have hb := b.toNat_lt
    have hhigh : digitValue? 16 (hexDigit (b.toNat / 16)) = some (b.toNat / 16) :=
      digitValue?_hexDigit (by omega)
    have hlow : digitValue? 16 (hexDigit (b.toNat % 16)) = some (b.toNat % 16) :=
      digitValue?_hexDigit (by omega)
    have hdigits : 16 * (b.toNat / 16) + b.toNat % 16 = b.toNat := by omega
    have hbyte : UInt8.ofNat b.toNat = b := UInt8.ofNat_toNat
    change decodedBytes? ('%' :: hexDigit (b.toNat / 16) :: hexDigit (b.toNat % 16) :: rest) = _
    rw [decodedBytes?, hhigh, hlow]
    simp only [Option.bind_eq_bind, Option.bind_some, hdigits, hbyte]
    cases decodedBytes? rest <;> rfl

theorem decodedBytes?_flatMap (bytes : List UInt8) :
    decodedBytes? (bytes.flatMap encodeByte) = some bytes := by
  induction bytes with
  | nil => rfl
  | cons b bytes ih => rw [List.flatMap_cons, decodedBytes?_encodeByte, ih, Option.map_some]

theorem percentDecode?_percentEncode (text : String) :
    percentDecode? (percentEncode text).toList = some text := by
  have hbytes : decodedBytes? (percentEncode text).toList =
      some (text.toList.flatMap String.utf8EncodeChar) := by
    unfold percentEncode
    rw [String.toList_ofList, ← List.flatMap_assoc]
    exact decodedBytes?_flatMap _
  have hutf8 : (text.toList.flatMap String.utf8EncodeChar).toByteArray = text.toByteArray := by
    have hwhole := String.toByteArray_ofList (l := text.toList)
    rw [String.ofList_toList] at hwhole
    exact hwhole.symm
  unfold percentDecode?
  rw [hbytes, Option.bind_some, hutf8]
  exact dif_pos text.isValidUTF8

/-- No separator of queries stands in an encoded text. -/
theorem not_separator_of_mem {text : String} {c : Char} (h : c ∈ (percentEncode text).toList) :
    c ≠ '&' ∧ c ≠ '=' := by
  have hdigit : ∀ n < 16, hexDigit n ≠ '&' ∧ hexDigit n ≠ '=' := by decide
  unfold percentEncode at h
  rw [String.toList_ofList, ← List.flatMap_assoc] at h
  obtain ⟨b, -, hc⟩ := List.mem_flatMap.mp h
  unfold encodeByte at hc
  split_ifs at hc with hplain
  · obtain ⟨-, -, hamp, heq⟩ := unreserved_bounds hplain
    rw [List.mem_singleton.mp hc]
    exact ⟨ofNat_ne hamp, ofNat_ne heq⟩
  · have hb := b.toNat_lt
    simp only [List.mem_cons, List.not_mem_nil, or_false] at hc
    rcases hc with rfl | rfl | rfl
    · decide
    · exact hdigit _ (by omega)
    · exact hdigit _ (by omega)

/-- An encoded pair is read as the pair. -/
theorem decodePair?_encoded (key value : String) :
    decodePair? ((percentEncode key).toList ++ '=' :: (percentEncode value).toList) =
      some (key, value) := by
  have hkey : ∀ c ∈ (percentEncode key).toList, (c != '=') = true := by
    intro c hc
    simpa using (not_separator_of_mem hc).2
  unfold decodePair?
  rw [List.takeWhile_append_of_pos hkey, List.dropWhile_append_of_pos hkey]
  simp [percentDecode?_percentEncode]

theorem decodePair?_pairText (pair : String × String) :
    decodePair? (percentEncode pair.1 ++ "=" ++ percentEncode pair.2).toList = some pair := by
  rw [← decodePair?_encoded pair.1 pair.2]
  simp

/-- Encoded pairs have no ampersand in them, so cutting at ampersands gives the pairs. -/
theorem splitWhere_encoded (pair : String × String) (pairs : List (String × String)) :
    splitWhere (· == '&') (encodeQuery (pair :: pairs)).toList =
      (pair :: pairs).map fun (key, value) => (percentEncode key ++ "=" ++ percentEncode value).toList := by
  have hpiece (key value : String) :
      ∀ c ∈ (percentEncode key ++ "=" ++ percentEncode value).toList, (c == '&') = false := by
    intro c hc
    simp only [String.toList_append, List.mem_append] at hc
    rw [beq_eq_false_iff_ne]
    rcases hc with (hc | hc) | hc
    · exact (not_separator_of_mem hc).1
    · rw [List.mem_singleton.mp hc]
      decide
    · exact (not_separator_of_mem hc).1
  induction pairs generalizing pair with
  | nil =>
    rw [List.map_singleton]
    have htext : (encodeQuery [pair]).toList =
        (percentEncode pair.1 ++ "=" ++ percentEncode pair.2).toList := by
      simp [encodeQuery]
    rw [htext]
    exact splitWhere_of_forall (hpiece pair.1 pair.2)
  | cons next pairs ih =>
    have htext : (encodeQuery (pair :: next :: pairs)).toList =
        (percentEncode pair.1 ++ "=" ++ percentEncode pair.2).toList ++
          '&' :: (encodeQuery (next :: pairs)).toList := by
      simp [encodeQuery, String.toList_intercalate, List.intercalate]
    rw [htext, splitWhere_append rfl, ih, splitWhere_of_forall (hpiece pair.1 pair.2)]
    rfl

/-- Nothing is lost in a query of at least one pair. -/
theorem decodeQuery?_encodeQuery {pairs : List (String × String)} (h : pairs ≠ []) :
    decodeQuery? (encodeQuery pairs) = some pairs := by
  obtain ⟨pair, rest, rfl⟩ := List.exists_cons_of_ne_nil h
  have hdecoded : (decodePair? ∘ fun (key, value) =>
      (percentEncode key ++ "=" ++ percentEncode value).toList) = (pure : _ → Option _) :=
    funext decodePair?_pairText
  unfold decodeQuery?
  rw [splitWhere_encoded, List.mapM_map, hdecoded, List.mapM_pure]
  exact congrArg some (List.map_id _)

end Routing.Text
